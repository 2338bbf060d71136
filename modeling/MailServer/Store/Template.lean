import MailServer.Store.Layout

/-!
# Templates: how the fields of a key are read back

A key's bytes are its fields written one after the other with nothing between them, so reading
them back needs the *template* of the key's kind: the width of every integer, whether a field is
LEB128, and which byte string runs up to the fixed-width fields after it.  `parse` reads a
template off a byte string, and `Fits` says that a list of fields is one the template describes:
integers within their width, byte strings of the right length, a variable-length string only
where the fields after it have fixed widths.

`parse_encodeFields` proves the generic round trip, `parse t (encodeFields fs) = some fs` for
every `fs` that fits `t`, and `SchemaKey.fits_template` that every key of the schema fits the
template of its kind.  The decoder of `Store.Decode` and the order results of `Store.Order` are
built on these two.
-/

namespace MailServer

/-- How one field of a key is read back. -/
inductive Slot
  /-- A big-endian integer of `width` bytes. -/
  | int (width : Nat)
  /-- A LEB128 integer. -/
  | leb
  /-- A byte string of `length` bytes. -/
  | fixed (length : Nat)
  /-- A byte string running up to the fixed-width fields after it. -/
  | rest
  /-- A `BitmapHash`: its first `min(len, 8)` hash bytes, then `len` when that is 8 or more. -/
  | token
  /-- A trailing integer of `width` bytes that some keys of the kind leave out. -/
  | optInt (width : Nat)
deriving DecidableEq, Repr

/-- The bytes a fixed-width slot takes. -/
def Slot.width : Slot → Nat
  | .int w => w
  | .fixed n => n
  | _ => 0

/-- A slot of a fixed width. -/
def Slot.isFixed : Slot → Bool
  | .int _ | .fixed _ => true
  | _ => false

/-- The bytes the fixed-width slots of a template take. -/
def templateWidth : List Slot → Nat
  | [] => 0
  | s :: t => s.width + templateWidth t

/-- Reads the fields of template `t` off `s`, which they must take exactly. -/
def parse : List Slot → List UInt8 → Option (List KeyField)
  | [], s => if s = [] then some [] else none
  | .int w :: t, s =>
    if w ≤ s.length then (.int w (fromBeBytes (s.take w)) :: ·) <$> parse t (s.drop w) else none
  | .leb :: t, s =>
    match leb128Decode s with
    | some (v, r) => (.leb128 v :: ·) <$> parse t r
    | none => none
  | .fixed n :: t, s =>
    if n ≤ s.length then (.bytes (s.take n) :: ·) <$> parse t (s.drop n) else none
  | .rest :: t, s =>
    let n := s.length - templateWidth t
    (.bytes (s.take n) :: ·) <$> parse t (s.drop n)
  | .token :: t, s =>
    let n := s.length - templateWidth t
    if n = 9 then
      (.bytes (s.take 8) :: .int 1 (fromBeBytes ((s.drop 8).take 1)) :: ·) <$> parse t (s.drop 9)
    else (.bytes (s.take n) :: ·) <$> parse t (s.drop n)
  | [.optInt w], s =>
    if s = [] then some [] else if s.length = w then some [.int w (fromBeBytes s)] else none
  | .optInt _ :: _ :: _, _ => none

/-- The fields `fs` are ones template `t` describes. -/
def Fits : List Slot → List KeyField → Prop
  | [], fs => fs = []
  | .int w :: t, .int w' v :: fs => w' = w ∧ v < 256 ^ w ∧ Fits t fs
  | .leb :: t, .leb128 _ :: fs => Fits t fs
  | .fixed n :: t, .bytes l :: fs => l.length = n ∧ Fits t fs
  | .rest :: t, .bytes _ :: fs => t.all Slot.isFixed ∧ Fits t fs
  | .token :: t, .bytes l :: fs => t.all Slot.isFixed ∧
    (l.length < 8 ∧ Fits t fs ∨ l.length = 8 ∧ ∃ v < 256, ∃ gs, fs = .int 1 v :: gs ∧ Fits t gs)
  | [.optInt w], fs => 0 < w ∧ (fs = [] ∨ ∃ v < 256 ^ w, fs = [.int w v])
  | _, _ => False

@[simp] theorem fits_u8 {t : List Slot} {fs : List KeyField} (v : UInt8) :
    Fits (.int 1 :: t) (.u8 v :: fs) ↔ Fits t fs := by
  simp [Fits, KeyField.u8]

@[simp] theorem fits_u16 {t : List Slot} {fs : List KeyField} (v : UInt16) :
    Fits (.int 2 :: t) (.u16 v :: fs) ↔ Fits t fs := by
  simp [Fits, KeyField.u16]

@[simp] theorem fits_u32 {t : List Slot} {fs : List KeyField} (v : UInt32) :
    Fits (.int 4 :: t) (.u32 v :: fs) ↔ Fits t fs := by
  simp [Fits, KeyField.u32]

@[simp] theorem fits_u64 {t : List Slot} {fs : List KeyField} (v : UInt64) :
    Fits (.int 8 :: t) (.u64 v :: fs) ↔ Fits t fs := by
  simp [Fits, KeyField.u64]

/-- Fields that fit a fixed-width template take its width. -/
theorem length_encodeFields_of_fits {t : List Slot} {fs : List KeyField}
    (ht : t.all Slot.isFixed) (h : Fits t fs) : (encodeFields fs).length = templateWidth t := by
  induction t generalizing fs with
  | nil => simp only [Fits] at h; simp [h, templateWidth]
  | cons s t ih =>
    rcases s with w | _ | n | _ | _ | w <;>
      simp only [List.all_cons, Slot.isFixed, Bool.true_and, Bool.false_and,
        Bool.false_eq_true] at ht
    · rcases fs with _ | ⟨_ | _ | _, fs⟩ <;> simp only [Fits] at h
      obtain ⟨rfl, -, h⟩ := h
      simp [templateWidth, Slot.width, ih ht h]
    · rcases fs with _ | ⟨_ | _ | _, fs⟩ <;> simp only [Fits] at h
      obtain ⟨rfl, h⟩ := h
      simp [templateWidth, Slot.width, ih ht h]

/-- **Templates read back what was written.** -/
theorem parse_encodeFields {t : List Slot} {fs : List KeyField} (h : Fits t fs) :
    parse t (encodeFields fs) = some fs := by
  induction t generalizing fs with
  | nil => simp_all [Fits, parse]
  | cons s t ih =>
    rcases s with w | _ | n | _ | _ | w
    case int =>
      rcases fs with _ | ⟨_ | _ | _, fs⟩ <;> simp only [Fits] at h
      obtain ⟨rfl, hv, h⟩ := h
      simp [parse, ih h, Nat.mod_eq_of_lt hv]
    case leb =>
      rcases fs with _ | ⟨_ | _ | _, fs⟩ <;> simp only [Fits] at h
      simp [parse, leb128Decode_leb128, ih h]
    case fixed =>
      rcases fs with _ | ⟨_ | _ | _, fs⟩ <;> simp only [Fits] at h
      obtain ⟨rfl, h⟩ := h
      simp [parse, ih h]
    case rest =>
      rcases fs with _ | ⟨_ | _ | _, fs⟩ <;> simp only [Fits] at h
      obtain ⟨ht, h⟩ := h
      simp [parse, ih h, length_encodeFields_of_fits ht h]
    case token =>
      rcases fs with _ | ⟨_ | _ | l, fs⟩ <;> simp only [Fits] at h
      obtain ⟨ht, ⟨hl, h⟩ | ⟨hl, v, hv, gs, rfl, h⟩⟩ := h
      · simp [parse, ih h, length_encodeFields_of_fits ht h, show l.length ≠ 9 by omega]
      · have hd : (l ++ (beBytes 1 v ++ encodeFields gs)).drop 9 = encodeFields gs := by
          rw [← List.append_assoc]; exact List.drop_left' (by simp [hl])
        have htk : (l ++ (beBytes 1 v ++ encodeFields gs)).take 8 = l := List.take_left' hl
        simp [parse, ih h, length_encodeFields_of_fits ht h, hl, hd, htk, Nat.mod_eq_of_lt hv,
          show 8 + (1 + templateWidth t) - templateWidth t = 9 by omega]
    case optInt =>
      rcases t with _ | ⟨_, _⟩ <;> simp only [Fits] at h
      obtain ⟨hw, rfl | ⟨v, hv, rfl⟩⟩ := h
      · simp [parse]
      · have hne : beBytes w v ≠ [] := List.ne_nil_of_length_pos (by simp [hw])
        simp only [encodeFields_cons, encodeFields_nil, List.append_nil, KeyField.encode_int, parse,
          hne, if_false, length_beBytes, if_true, fromBeBytes_beBytes, Nat.mod_eq_of_lt hv]

/-- A token's fields fit the `token` slot. -/
theorem BitmapHash.fits_fields {t : List Slot} {fs : List KeyField} (h : BitmapHash)
    (ht : t.all Slot.isFixed) (hf : Fits t fs) : Fits (.token :: t) (h.fields ++ fs) := by
  have hlen : h.truncated.length = min h.len.toNat 8 := by
    simp [BitmapHash.truncated, h.hash_length]
  simp only [BitmapHash.fields]
  split
  · exact ⟨ht, .inr ⟨by omega, h.len.toNat, UInt8.toNat_lt h.len, fs, rfl, hf⟩⟩
  · exact ⟨ht, .inl ⟨by omega, hf⟩⟩

/-! ## The templates of the schema -/

/-- The template of each kind, in the order its serializer writes the fields. -/
def KeyKind.template : KeyKind → List Slot
  | .property => [.int 4, .int 1, .int 1, .int 4]
  | .ftsIndex => [.int 4, .token, .int 1, .int 4]
  | .acl => [.int 4, .int 4, .int 1, .int 4]
  | .indexEmail | .bayesTrain => [.int 8, .int 4, .int 1, .int 4, .fixed blobHashLen]
  | .sendAlarm => [.int 8, .int 4, .int 1, .int 4, .int 2, .int 2]
  | .sendImip => [.int 8, .int 4, .int 1, .int 4, .optInt 8]
  | .blobReserve => [.int 4, .fixed blobHashLen, .int 8]
  | .blobCommit | .blobLink | .blobLinkId => [.fixed blobHashLen, .int 4, .int 1, .int 4]
  | .config | .inMemoryKey | .inMemoryCounter | .valueAny | .anyKey => [.rest]
  | .nameToId | .emailToId | .quotaCount | .quotaSize => [.int 1, .rest]
  | .principal | .usedQuota => [.int 1, .leb]
  | .memberOf | .members => [.int 1, .int 4, .int 4]
  | .directoryIndex => [.int 1, .rest, .int 4]
  | .queueMessage | .span => [.int 8]
  | .messageEvent => [.int 8, .int 8, .fixed 8]
  | .dmarcReportHeader | .tlsReportHeader => [.int 1, .int 8, .rest, .int 8, .int 8, .int 1]
  | .dmarcReportEvent | .tlsReportEvent => [.int 1, .int 8, .rest, .int 8, .int 8]
  | .tlsReport | .dmarcReport | .arfReport => [.int 1, .int 8, .int 8]
  | .telemetryIndex => [.rest, .int 8]
  | .metric => [.int 8, .leb, .leb]
  | .documentId => [.int 4, .int 1]
  | .changeId => [.int 4]
  | .bitmapDocumentIds => [.int 4, .int 1, .int 4]
  | .tagId => [.int 4, .int 1, .int 1, .leb, .int 4]
  | .tagText | .index => [.int 4, .int 1, .int 1, .rest, .int 4]
  | .bitmapText => [.int 4, .token, .int 1, .int 1, .int 4]
  | .indexPrefix => [.int 4, .int 1, .int 1]
  | .log => [.int 4, .int 1, .int 8]

theorem ValueClass.fits_template (v : ValueClass) (a : UInt32) (c : UInt8) (d : UInt32) :
    Fits v.kind.template (v.layout a c d) := by
  rcases v with _ | _ | (_ | _) | hash | (_ | _ | _ | ⟨_, (_ | _)⟩) | (_ | _ | _ | _ | _ | _ | _) |
    (_ | _ | _ | _) | _ | (_ | _ | _ | _ | _ | _ | _ | _) | (_ | _ | _) | (_ | _ | _) | _ | _ | _
  case ftsIndex => exact (fits_u32 a).2 (hash.fits_fields rfl (by simp [Fits]))
  all_goals simp [ValueClass.kind, KeyKind.template, ValueClass.layout, Fits, Slot.isFixed,
    BlobHash.length_eq, QueueEvent.queueName_length, KeyField.u8, KeyField.u16, KeyField.u32,
    KeyField.u64, UInt8.size, Nat.mod_lt]

theorem BitmapClass.fits_template (b : BitmapClass) (a : UInt32) (c : UInt8) (d : UInt32) :
    Fits b.kind.template (b.layout a c d) := by
  rcases b with _ | ⟨_, (_ | _)⟩ | ⟨_, token⟩
  case text => exact (fits_u32 a).2 (token.fits_fields rfl (by simp [Fits]))
  all_goals simp [BitmapClass.kind, KeyKind.template, BitmapClass.layout, Fits, Slot.isFixed,
    KeyField.u8, KeyField.u32]

/-- **Every key fits the template of its kind.** -/
theorem SchemaKey.fits_template (k : SchemaKey) : Fits k.kind.template k.layout := by
  cases k with
  | value k => exact k.cls.fits_template _ _ _
  | bitmap k => exact k.cls.fits_template _ _ _
  | _ => simp [SchemaKey.kind, SchemaKey.layout, KeyKind.template, IndexKey.layout,
    IndexKeyPrefix.layout, LogKey.layout, Fits, Slot.isFixed, KeyField.u8, KeyField.u32,
    KeyField.u64]

end MailServer
