import MailServer.Store.Template

/-!
# Decoding keys: the schema is collision-free

The store never reads a key back into a record, but its correctness needs that it could: two
records must never be written to the same bytes.  This module builds the decoder that shows it.
A key written with `WITH_SUBSPACE` starts with its subspace byte (`serialize_with_subspace`); the
subspace and the discriminator bytes, sentinels and lengths after it name the key's kind
(`decodeKind`); the kind's template reads the fields (`parse`).

`decode_serialize` proves that `decode` inverts `serialize` on every key of the schema, under
the conventions callers keep (`SchemaKey.Admissible`): tag field ids below `0x80`, so that the
high bit `BitmapClass::Tag` sets on text tags tells them from id tags, and no `BlobOp::Link` key
on the sentinel account and collection of `Commit` and `LinkId`.  Collision-freedom,
`serialize_injective`, follows: equal bytes mean equal kinds and equal fields.
-/

namespace MailServer

/-! ## Reading the subspace byte -/

/-- Every subspace. -/
def Subspace.all : List Subspace :=
  [.acl, .bitmapId, .bitmapTag, .bitmapText, .blobLink, .blobReserve, .counter, .directory,
    .ftsIndex, .inMemoryCounter, .inMemoryValue, .indexes, .logs, .property, .queueEvent,
    .queueMessage, .quota, .reportIn, .reportOut, .settings, .taskQueue, .telemetryIndex,
    .telemetryMetric, .telemetrySpan]

/-- The subspace a prefix byte names, when it names one. -/
def StoreConsts.subspaceOf (S : StoreConsts) (b : UInt8) : Option Subspace :=
  Subspace.all.find? (S.subspace · = b)

/-- The subspace constants are distinct, so each names its subspace back. -/
@[simp] theorem StoreConsts.subspaceOf_subspace (S : StoreConsts) (sp : Subspace) :
    S.subspaceOf (S.subspace sp) = some sp := by
  have := S.subspace_injective
  cases sp <;> simp [StoreConsts.subspaceOf, Subspace.all, this.eq_iff]

/-! ## Reading the kind -/

/-- The kind a discriminator byte names in a table of one subspace. -/
def lookupKind (table : List (UInt8 × KeyKind)) (b : Option UInt8) : Option KeyKind :=
  b.bind (table.lookup ·)

/-- The kind of a key from its subspace and the bytes after the subspace byte: the discriminator
bytes, sentinels and lengths that tell the kinds of one subspace apart. -/
def decodeKind : Subspace → List UInt8 → Option KeyKind
  | .property, _ => some .property
  | .counter, s =>
    if s.length = 4 then some .changeId else if s.length = 5 then some .documentId
    else some .property
  | .acl, _ => some .acl
  | .ftsIndex, _ => some .ftsIndex
  | .taskQueue, s =>
    lookupKind [(0, .indexEmail), (1, .bayesTrain), (2, .bayesTrain), (3, .sendAlarm),
      (4, .sendImip), (5, .sendImip)] s[12]?
  | .blobReserve, _ => some .blobReserve
  | .blobLink, s =>
    if s[36]? = some u8Max then some .blobLinkId
    else if (s.drop 32).take 4 = beBytes 4 u32Max.toNat then some .blobCommit
    else some .blobLink
  | .settings, _ => some .config
  | .inMemoryValue, _ => some .inMemoryKey
  | .inMemoryCounter, _ => some .inMemoryCounter
  | .quota, s => lookupKind [(0, .quotaCount), (1, .quotaSize), (4, .usedQuota)] s.head?
  | .directory, s =>
    lookupKind [(0, .nameToId), (1, .emailToId), (2, .principal), (5, .memberOf), (6, .members),
      (7, .directoryIndex)] s.head?
  | .queueMessage, _ => some .queueMessage
  | .queueEvent, _ => some .messageEvent
  | .reportOut, s =>
    if s.head? = some 0 then lookupKind [(0, .dmarcReportHeader), (1, .tlsReportHeader)] s.getLast?
    else lookupKind [(1, .dmarcReportEvent), (2, .tlsReportEvent)] s.head?
  | .reportIn, s => lookupKind [(0, .tlsReport), (1, .dmarcReport), (2, .arfReport)] s.head?
  | .telemetrySpan, _ => some .span
  | .telemetryIndex, _ => some .telemetryIndex
  | .telemetryMetric, _ => some .metric
  | .bitmapId, _ => some .bitmapDocumentIds
  | .bitmapTag, s => s[5]?.map fun b => if b < bmMarker then .tagId else .tagText
  | .bitmapText, _ => some .bitmapText
  | .indexes, _ => some .index
  | .logs, _ => some .log

/-! ## The round trip -/

/-- The keys the decoder reads back, under the conventions their callers keep: no raw keys and no
scan prefixes, tag field ids below `0x80`, and no `BlobOp::Link` key on the account `u32::MAX` or
the collection `u8::MAX` that `Commit` and `LinkId` write in those places. -/
def SchemaKey.Admissible : SchemaKey → Prop
  | .value ⟨a, c, _, .blob (.link _)⟩ => a ≠ u32Max ∧ c ≠ u8Max
  | .value ⟨_, _, _, .any _⟩ => False
  | .value _ => True
  | .bitmap ⟨_, _, .tag field _, _⟩ => field ≤ 0x7F
  | .bitmap _ => True
  | .index _ | .log _ => True
  | .indexPrefix _ | .any _ => False

/-- A text tag's field byte has the marker bit set. -/
theorem UInt8.not_or_bmMarker_lt (f : UInt8) : ¬ (f ||| bmMarker) < bmMarker := by
  rw [UInt8.lt_iff_toNat, Nat.not_lt]
  show 128 ≤ (f.toBitVec ||| 128#8).toNat
  rw [BitVec.toNat_or]
  exact Nat.testBit_implies_ge (i := 7) (by simp [show Nat.testBit 128 7 = true by decide])

variable (S : StoreConsts)

/-- The subspace byte and the bytes after it name the kind of every admissible value key. -/
theorem ValueClass.decodeKind_layout (v : ValueClass) (a : UInt32) (c : UInt8) (d : UInt32)
    (hk : (SchemaKey.value ⟨a, c, d, v⟩).Admissible) :
    (S.subspaceOf (v.subspace S c)).bind (decodeKind · (encodeFields (v.layout a c d))) =
      some v.kind := by
  rcases v with _ | _ | (_ | _) | _ | (_ | ⟨_, _, (_ | _)⟩ | _ | ⟨_, (_ | _)⟩) |
    (_ | _ | _ | _ | _ | _ | _) | (_ | _ | _ | _) | _ | (_ | _ | _ | _ | _ | _ | _ | _) |
    (_ | _ | _) | (_ | _ | _) | _ | _ | _
  case property =>
    simp only [ValueClass.subspace]
    split <;> simp only [StoreConsts.subspaceOf_subspace, Option.some_bind]
    · simp [decodeKind, ValueClass.layout, ValueClass.kind]
    · rfl
  case any => simp [SchemaKey.Admissible] at hk
  all_goals simp only [ValueClass.subspace, StoreConsts.subspaceOf_subspace, Option.some_bind,
    ValueClass.layout, encodeFields_cons, encodeFields_nil, encodeFields_append, KeyField.encode_u8,
    KeyField.encode_u16, KeyField.encode_u32, KeyField.encode_u64, KeyField.encode_bytes,
    KeyField.encode_leb128, ValueClass.kind]
  case link =>
    obtain ⟨ha, hc⟩ := hk
    have : beBytes 4 a.toNat ≠ beBytes 4 u32Max.toNat := by
      rw [Ne, beBytes_eq_beBytes_iff (by simp) (by simp)]
      exact fun h => ha (UInt32.toNat.inj h)
    simp [decodeKind, List.getElem?_append_right, List.getElem_append_right, BlobHash.length_eq,
      blobHashLen, hc, this]
  all_goals simp [decodeKind, List.getElem?_append_right, List.getElem_append_right,
    BitmapHash.fields, BlobHash.length_eq, blobHashLen, List.getLast?_cons, u8Max]
  all_goals rfl

/-- The same for bitmap keys: the high bit of the field byte tells text tags from id tags. -/
theorem BitmapClass.decodeKind_layout (b : BitmapClass) (a : UInt32) (c : UInt8) (d : UInt32)
    (hk : (SchemaKey.bitmap ⟨a, c, b, d⟩).Admissible) :
    (S.subspaceOf (b.subspace S)).bind (decodeKind · (encodeFields (b.layout a c d))) =
      some b.kind := by
  rcases b with _ | ⟨field, (_ | _)⟩ | _
  case tag.id =>
    have : field < bmMarker := by
      have : field.toNat ≤ 127 := hk
      show field.toNat < 128
      omega
    simp [BitmapClass.subspace, BitmapClass.layout, decodeKind, BitmapClass.kind,
      List.getElem?_append_right, List.getElem_append_right, this]
  case tag.text =>
    simp [BitmapClass.subspace, BitmapClass.layout, decodeKind, BitmapClass.kind,
      List.getElem?_append_right, List.getElem_append_right, UInt8.not_or_bmMarker_lt]
  all_goals simp [BitmapClass.subspace, BitmapClass.layout, decodeKind, BitmapClass.kind]

/-- The subspace byte and the bytes after it name the kind of every admissible key. -/
theorem SchemaKey.decodeKind_layout (k : SchemaKey) (hk : k.Admissible) :
    (S.subspaceOf (k.subspace S)).bind (decodeKind · (encodeFields k.layout)) = some k.kind := by
  cases k with
  | value k => exact k.cls.decodeKind_layout S _ _ _ hk
  | bitmap k => exact k.cls.decodeKind_layout S _ _ _ hk
  | index k => simp [SchemaKey.subspace, IndexKey.subspace, decodeKind, SchemaKey.kind]
  | log k => simp [SchemaKey.subspace, LogKey.subspace, decodeKind, SchemaKey.kind]
  | indexPrefix k => simp [SchemaKey.Admissible] at hk
  | any k => simp [SchemaKey.Admissible] at hk

/-- Reads a key written with `WITH_SUBSPACE` back into its kind and its fields. -/
def decode : List UInt8 → Option (KeyKind × List KeyField)
  | [] => none
  | b :: s => do
    let kind ← (S.subspaceOf b).bind (decodeKind · s)
    let fields ← parse kind.template s
    pure (kind, fields)

/-- **The decoder inverts the encoder** on every admissible key. -/
theorem decode_serialize (k : SchemaKey) (hk : k.Admissible) :
    decode S (k.serialize S S.withSubspace) = some (k.kind, k.layout) := by
  have hw : S.withSubspace &&& S.withSubspace ≠ 0 := by
    rw [show S.withSubspace &&& S.withSubspace = S.withSubspace from
      UInt32.eq_of_toBitVec_eq BitVec.and_self]
    exact S.withSubspace_ne_zero
  rw [SchemaKey.serialize_eq, if_pos hw]
  simp [decode, k.decodeKind_layout S hk, parse_encodeFields k.fits_template]

/-- **Keys are collision-free.**  Two admissible keys written with `WITH_SUBSPACE` to the same
bytes are the same record: the same key type and variant, and the same fields. -/
theorem serialize_injective (k₁ k₂ : SchemaKey) (h₁ : k₁.Admissible) (h₂ : k₂.Admissible)
    (h : k₁.serialize S S.withSubspace = k₂.serialize S S.withSubspace) :
    k₁.kind = k₂.kind ∧ k₁.layout = k₂.layout := by
  have := congrArg (decode S) h
  rw [decode_serialize S k₁ h₁, decode_serialize S k₂ h₂] at this
  simpa using this

theorem serialize_injective_config :
    (SchemaKey.value ⟨1, 0, 0, .config [7]⟩).Admissible ∧
    (SchemaKey.value ⟨2, 3, 4, .config [7]⟩).Admissible ∧
    (SchemaKey.value ⟨1, 0, 0, .config [7]⟩).serialize StoreConsts.sample
        StoreConsts.sample.withSubspace =
      (SchemaKey.value ⟨2, 3, 4, .config [7]⟩).serialize StoreConsts.sample
        StoreConsts.sample.withSubspace ∧
    (SchemaKey.value ⟨1, 0, 0, .config [7]⟩).kind = (SchemaKey.value ⟨2, 3, 4, .config [7]⟩).kind ∧
    (SchemaKey.value ⟨1, 0, 0, .config [7]⟩).layout =
      (SchemaKey.value ⟨2, 3, 4, .config [7]⟩).layout :=
  ⟨trivial, trivial, by decide,
    serialize_injective StoreConsts.sample _ _ trivial trivial (by decide)⟩

end MailServer
