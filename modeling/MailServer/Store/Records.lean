import MailServer.Store.Decode

/-!
# The key layer as a store of records

Above the key layer the store is a map from logical records to values, a record being a kind of
key and its key-forming fields (`SchemaKey.record`).  Below it, the key-value engine maps byte
strings to values.  This module proves that the second implements the first when every key goes
through `serialize` with `WITH_SUBSPACE`.

Two facts of the key layer carry the proof.  Distinct records have distinct keys: the decoder
reads the record back from its key (`decode_serialize`).  And one record has one key: its
subspace is a function of the record (`SchemaKey.subspace_eq_record`), the property `84` of
collection `1` being routed with the counters by the value of its fields.  From them one write
keeps the refinement (`Refines.apply`), and every run of writes does (`Refines.run`):
`byteStore_refines` states that after any sequence of puts and deletes on admissible keys, the
engine answers each admissible key with the value of its record, and holds nothing under any
other byte string.
-/

namespace MailServer

/-- A logical record: the kind of a key and its key-forming fields. -/
def SchemaKey.record (k : SchemaKey) : KeyKind × List KeyField := (k.kind, k.layout)

/-- The subspace each kind of record lives in; only a property's depends on its fields.  The
kinds whose subspace the caller chooses, `Any` and `AnyKey`, are never admissible. -/
def KeyKind.subspace : KeyKind → List KeyField → Subspace
  | .property, [_, .int _ collection, .int _ field, _] =>
    if field = 84 ∧ collection = 1 then .counter else .property
  | .property, _ | .valueAny, _ | .anyKey, _ => .property
  | .ftsIndex, _ => .ftsIndex
  | .acl, _ => .acl
  | .indexEmail, _ | .bayesTrain, _ | .sendAlarm, _ | .sendImip, _ => .taskQueue
  | .blobReserve, _ => .blobReserve
  | .blobCommit, _ | .blobLink, _ | .blobLinkId, _ => .blobLink
  | .config, _ => .settings
  | .inMemoryKey, _ => .inMemoryValue
  | .inMemoryCounter, _ => .inMemoryCounter
  | .nameToId, _ | .emailToId, _ | .principal, _ | .memberOf, _ | .members, _
  | .directoryIndex, _ => .directory
  | .usedQuota, _ | .quotaCount, _ | .quotaSize, _ => .quota
  | .queueMessage, _ => .queueMessage
  | .messageEvent, _ => .queueEvent
  | .dmarcReportHeader, _ | .dmarcReportEvent, _ | .tlsReportHeader, _
  | .tlsReportEvent, _ => .reportOut
  | .tlsReport, _ | .dmarcReport, _ | .arfReport, _ => .reportIn
  | .span, _ => .telemetrySpan
  | .telemetryIndex, _ => .telemetryIndex
  | .metric, _ => .telemetryMetric
  | .documentId, _ | .changeId, _ => .counter
  | .bitmapDocumentIds, _ => .bitmapId
  | .tagId, _ | .tagText, _ => .bitmapTag
  | .bitmapText, _ => .bitmapText
  | .index, _ | .indexPrefix, _ => .indexes
  | .log, _ => .logs

variable (S : StoreConsts)

/-- A value key's subspace is the subspace of its record. -/
theorem ValueClass.subspace_eq_record (v : ValueClass) (a : UInt32) (c : UInt8) (d : UInt32)
    (hk : (SchemaKey.value ⟨a, c, d, v⟩).Admissible) :
    v.subspace S c = S.subspace (v.kind.subspace (v.layout a c d)) := by
  rcases v with field | _ | (_ | _) | _ | (_ | _ | _ | _) | (_ | _ | _ | _ | _ | _ | _) |
    (_ | _ | _ | _) | _ | (_ | _ | _ | _ | _ | _ | _ | _) | (_ | _ | _) | (_ | _ | _) | _ | _ | _
  case property =>
    simp only [ValueClass.subspace, ValueClass.kind, ValueClass.layout, KeyKind.subspace,
      KeyField.u8, KeyField.u32]
    by_cases h : field = 84 ∧ c = 1
    · rw [if_pos h, if_pos ⟨congrArg UInt8.toNat h.1, congrArg UInt8.toNat h.2⟩]
    · rw [if_neg h, if_neg fun h' => h ⟨UInt8.toNat.inj h'.1, UInt8.toNat.inj h'.2⟩]
  case any => exact absurd hk id
  all_goals rfl

/-- **One record, one subspace.**  The subspace of every admissible key is a function of its
record. -/
theorem SchemaKey.subspace_eq_record (k : SchemaKey) (hk : k.Admissible) :
    k.subspace S = S.subspace (k.kind.subspace k.layout) := by
  cases k with
  | value k => exact k.cls.subspace_eq_record S _ _ _ hk
  | bitmap k => rcases k with ⟨_, _, _ | ⟨_, _ | _⟩ | _, _⟩ <;> rfl
  | indexPrefix k => exact absurd hk id
  | any k => exact absurd hk id
  | index k | log k => rfl

/-- Admissible keys are equal exactly when their records are. -/
theorem SchemaKey.serialize_eq_iff_record {k₁ k₂ : SchemaKey} (h₁ : k₁.Admissible)
    (h₂ : k₂.Admissible) :
    k₁.serialize S S.withSubspace = k₂.serialize S S.withSubspace ↔ k₁.record = k₂.record := by
  constructor
  · intro h
    have := congrArg (decode S) h
    rw [decode_serialize S k₁ h₁, decode_serialize S k₂ h₂] at this
    exact Option.some.inj this
  · intro h
    simp only [SchemaKey.record, Prod.mk.injEq] at h
    rw [SchemaKey.serialize_eq, SchemaKey.serialize_eq, k₁.subspace_eq_record S h₁,
      k₂.subspace_eq_record S h₂, h.1, h.2]

/-! ## Two stores -/

variable {V : Type}

/-- A write to the store, on a typed key. -/
inductive StoreOp (V : Type)
  | put (k : SchemaKey) (v : V)
  | delete (k : SchemaKey)

/-- The key a write is on. -/
def StoreOp.key : StoreOp V → SchemaKey
  | .put k _ | .delete k => k

/-- The value a write leaves under its key. -/
def StoreOp.value : StoreOp V → Option V
  | .put _ v => some v
  | .delete _ => none

/-- The store as its users see it: the value of each record. -/
def RecordStore (V : Type) : Type := KeyKind × List KeyField → Option V

/-- One write to the record store. -/
def RecordStore.apply (σ : RecordStore V) (op : StoreOp V) : RecordStore V :=
  Function.update σ op.key.record op.value

/-- Modelled from the spec: the key-value engine under the key layer, the value stored under
each byte string. -/
def ByteStore (V : Type) : Type := List UInt8 → Option V

/-- One write to the engine: the value goes under the key's bytes, written with its subspace. -/
def ByteStore.apply (τ : ByteStore V) (op : StoreOp V) : ByteStore V :=
  Function.update τ (op.key.serialize S S.withSubspace) op.value

/-- The engine implements the record store: it answers each admissible key with the value of
its record, and holds values only under the keys of admissible records. -/
structure Refines (σ : RecordStore V) (τ : ByteStore V) : Prop where
  get_eq : ∀ k : SchemaKey, k.Admissible → τ (k.serialize S S.withSubspace) = σ k.record
  only_keys : ∀ b, τ b ≠ none → ∃ k : SchemaKey, k.Admissible ∧ b = k.serialize S S.withSubspace

/-- **One write keeps the refinement.** -/
theorem Refines.apply {σ : RecordStore V} {τ : ByteStore V} (h : Refines S σ τ)
    {op : StoreOp V} (hop : op.key.Admissible) :
    Refines S (σ.apply op) (τ.apply S op) where
  get_eq k hk := by
    simp only [RecordStore.apply, ByteStore.apply, Function.update_apply,
      SchemaKey.serialize_eq_iff_record S hk hop, h.get_eq k hk]
  only_keys b hb := by
    simp only [ByteStore.apply, Function.update_apply] at hb
    split at hb
    · exact ⟨op.key, hop, by assumption⟩
    · exact h.only_keys b hb

/-- **Every run of writes keeps the refinement.** -/
theorem Refines.run {σ : RecordStore V} {τ : ByteStore V} (h : Refines S σ τ)
    (ops : List (StoreOp V)) (hops : ∀ op ∈ ops, op.key.Admissible) :
    Refines S (ops.foldl RecordStore.apply σ) (ops.foldl (ByteStore.apply S) τ) := by
  induction ops generalizing σ τ with
  | nil => exact h
  | cons op ops ih =>
    exact ih (h.apply S (hops op (.head _))) fun op' h' => hops op' (.tail _ h')

/-- The empty engine implements the empty record store. -/
theorem Refines.empty : Refines S (V := V) (fun _ => none) (fun _ => none) :=
  ⟨fun _ _ => rfl, fun _ hb => absurd rfl hb⟩

/-- **The engine stores records.**  After any sequence of puts and deletes on admissible keys,
written with `WITH_SUBSPACE` from an empty engine, reading an admissible key gives the value of
its record in the record store, and no other byte string holds a value. -/
theorem byteStore_refines (ops : List (StoreOp V)) (hops : ∀ op ∈ ops, op.key.Admissible) :
    (∀ k : SchemaKey, k.Admissible →
      ops.foldl (ByteStore.apply S) (fun _ => none) (k.serialize S S.withSubspace) =
        ops.foldl RecordStore.apply (fun _ => none) k.record) ∧
    (∀ b, ops.foldl (ByteStore.apply S) (fun _ => none) b ≠ none →
      ∃ k : SchemaKey, k.Admissible ∧ b = k.serialize S S.withSubspace) :=
  let h := (Refines.empty S).run S ops hops
  ⟨h.get_eq, h.only_keys⟩

/-- A run over two kinds of record: a setting is written, then the property `84` of a document
of collection `1`, routed with the counters, and the setting is deleted again. -/
def sampleWrites : List (StoreOp Nat) :=
  [.put (.value ⟨1, 0, 0, .config [7]⟩) 5, .put (.value ⟨2, 1, 3, .property 84⟩) 6,
    .delete (.value ⟨1, 0, 0, .config [7]⟩)]

theorem byteStore_refines_sampleWrites :
    (∀ op ∈ sampleWrites, op.key.Admissible) ∧
    ((∀ k : SchemaKey, k.Admissible →
      sampleWrites.foldl (ByteStore.apply StoreConsts.sample) (fun _ => none)
          (k.serialize StoreConsts.sample StoreConsts.sample.withSubspace) =
        sampleWrites.foldl RecordStore.apply (fun _ => none) k.record) ∧
    (∀ b, sampleWrites.foldl (ByteStore.apply StoreConsts.sample) (fun _ => none) b ≠ none →
      ∃ k : SchemaKey, k.Admissible ∧
        b = k.serialize StoreConsts.sample StoreConsts.sample.withSubspace)) :=
  have hops : ∀ op ∈ sampleWrites, op.key.Admissible := by
    intro op h
    simp only [sampleWrites, List.mem_cons, List.mem_singleton, List.not_mem_nil, or_false] at h
    rcases h with rfl | rfl | rfl <;> trivial
  ⟨hops, byteStore_refines StoreConsts.sample _ hops⟩

end MailServer
