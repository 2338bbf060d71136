import MailServer.Store.Order

/-!
# Index keys

An index key is its index (`IndexKeyPrefix`: account, collection, field), the indexed value,
and the document id, with nothing between the value and the id.  Index scans rely on three facts
about this layout.  The prefix of an index is a prefix of exactly its own keys, the prefix is
`IndexKeyPrefix::len()` bytes long, and a key splits back into prefix, value and document id:
`indexKeyPrefix_scan`.

The order of index keys is the order of (value, document id) only for values of which neither is
a proper prefix of the other (`indexKey_lt_iff`).  When one value is a proper prefix of the
other, the shorter value's document id is compared against the longer value's next byte, and
the order breaks (`indexKey_order_prefix_counterexample`): a key of value `[0]` lands inside the
document-id range of the value `[]`.
-/

namespace MailServer

variable (S : StoreConsts)

/-- The prefix of an index key: its account, collection and field. -/
def IndexKey.indexPrefix (k : IndexKey) : IndexKeyPrefix := ⟨k.accountId, k.collection, k.field⟩

theorem IndexKeyPrefix.serialize_zero (p : IndexKeyPrefix) :
    p.serialize S 0 = beBytes 4 p.accountId.toNat ++ [p.collection, p.field] := by
  have := SchemaKey.serialize_zero S (.indexPrefix p)
  simp only [SchemaKey.serialize] at this
  simp [this, SchemaKey.layout, IndexKeyPrefix.layout]

/-- An index key is its prefix, its value and its document id. -/
theorem IndexKey.serialize_zero (k : IndexKey) :
    k.serialize S 0 = k.indexPrefix.serialize S 0 ++ k.key ++ beBytes 4 k.documentId.toNat := by
  have := SchemaKey.serialize_zero S (.index k)
  simp only [SchemaKey.serialize] at this
  simp [this, SchemaKey.layout, IndexKey.layout, IndexKeyPrefix.serialize_zero,
    IndexKey.indexPrefix]

theorem IndexKeyPrefix.serialize_flags (p : IndexKeyPrefix) (flags : UInt32) :
    p.serialize S flags =
      (if flags &&& S.withSubspace ≠ 0 then [S.subspace .indexes] else []) ++ p.serialize S 0 := by
  have := SchemaKey.serialize_eq S (.indexPrefix p) flags
  simp only [SchemaKey.serialize] at this
  rw [this, ← SchemaKey.serialize_zero S (.indexPrefix p)]
  rfl

theorem IndexKey.serialize_flags (k : IndexKey) (flags : UInt32) :
    k.serialize S flags =
      (if flags &&& S.withSubspace ≠ 0 then [S.subspace .indexes] else []) ++ k.serialize S 0 := by
  have := SchemaKey.serialize_eq S (.index k) flags
  simp only [SchemaKey.serialize] at this
  rw [this, ← SchemaKey.serialize_zero S (.index k)]
  rfl

theorem IndexKeyPrefix.length_serialize_zero (p : IndexKeyPrefix) :
    (p.serialize S 0).length = IndexKeyPrefix.len := by
  simp [IndexKeyPrefix.serialize_zero, IndexKeyPrefix.len, u32Len]

theorem IndexKey.length_serialize_zero (k : IndexKey) :
    (k.serialize S 0).length = IndexKeyPrefix.len + k.key.length + u32Len := by
  simp [IndexKey.serialize_zero, IndexKeyPrefix.length_serialize_zero, u32Len, Nat.add_assoc]

theorem IndexKeyPrefix.serialize_inj {p q : IndexKeyPrefix} :
    p.serialize S 0 = q.serialize S 0 ↔ p = q := by
  refine ⟨fun h => ?_, fun h => h ▸ rfl⟩
  simp only [IndexKeyPrefix.serialize_zero] at h
  obtain ⟨ha, hcf⟩ := List.append_inj h (by simp)
  rw [beBytes_eq_beBytes_iff (by simp) (by simp)] at ha
  simp only [List.cons.injEq, and_true] at hcf
  cases p; cases q
  simp only [IndexKeyPrefix.mk.injEq]
  exact ⟨UInt32.toNat.inj ha, hcf⟩

/-- **Index scans are exact.**  With either flag value, the prefix of an index is a prefix of
exactly the keys of that index; it is `IndexKeyPrefix::len()` bytes long; and a key splits into
prefix, value and big-endian document id, so the value is the bytes from `len()` up to the last
four, and `deserialize_be_u32` at `len - 4` reads the document id back. -/
theorem indexKeyPrefix_scan :
    (∀ (p : IndexKeyPrefix) (k : IndexKey) (flags : UInt32),
      p.serialize S flags <+: k.serialize S flags ↔
        k.accountId = p.accountId ∧ k.collection = p.collection ∧ k.field = p.field) ∧
    (∀ p : IndexKeyPrefix, (p.serialize S 0).length = IndexKeyPrefix.len) ∧
    (∀ k : IndexKey, k.serialize S 0 =
      (IndexKeyPrefix.mk k.accountId k.collection k.field).serialize S 0 ++ k.key ++
        beBytes 4 k.documentId.toNat) ∧
    (∀ k : IndexKey, k.key.length ≤ isizeMax →
      ((k.serialize S 0).drop IndexKeyPrefix.len).take
        ((k.serialize S 0).length - IndexKeyPrefix.len - u32Len) = k.key ∧
      deserializeBeU32 (k.serialize S 0) ((k.serialize S 0).length - u32Len) =
        .ok k.documentId) := by
  refine ⟨fun p k flags => ?_, IndexKeyPrefix.length_serialize_zero S,
    IndexKey.serialize_zero S, fun k hk => ?_⟩
  · rw [IndexKeyPrefix.serialize_flags, IndexKey.serialize_flags, List.prefix_append_right_inj,
      IndexKey.serialize_zero, List.append_assoc, List.prefix_iff_eq_take,
      IndexKeyPrefix.length_serialize_zero, ← IndexKeyPrefix.length_serialize_zero S k.indexPrefix,
      List.take_left, IndexKeyPrefix.serialize_inj, eq_comm]
    cases p
    simp [IndexKey.indexPrefix]
  · have hlen := IndexKey.length_serialize_zero S k
    have hs : k.serialize S 0 = k.indexPrefix.serialize S 0 ++ k.key ++
        (beBytes 4 k.documentId.toNat ++ []) := by
      simp [IndexKey.serialize_zero]
    have hid : ((k.serialize S 0).drop ((k.serialize S 0).length - u32Len)).take u32Len =
        beBytes 4 k.documentId.toNat :=
      take_drop_of_eq hs (by simp [IndexKeyPrefix.length_serialize_zero]; omega) (by simp [u32Len])
    have hmax : (k.serialize S 0).length ≤ usizeMax := by
      unfold isizeMax at hk; unfold IndexKeyPrefix.len u32Len at hlen; unfold usizeMax; omega
    refine ⟨take_drop_of_eq (by simpa using hs) (IndexKeyPrefix.length_serialize_zero S _).symm
      (by omega), ?_⟩
    rw [deserializeBeU32, deserializeBe_ok (by omega) (by omega), hid]
    simp [Functor.map, Except.map, Nat.mod_eq_of_lt (UInt32.toNat_lt _), UInt32.ofNat_toNat]

/-! ## The order of index keys -/

/-- The order of index keys of one index, on values of which neither is a proper prefix of the
other: the order of (value, document id). -/
theorem IndexKey.lex_serialize_iff {k₁ k₂ : IndexKey} (hp : k₁.indexPrefix = k₂.indexPrefix)
    (hkey : k₁.key <+: k₂.key ∨ k₂.key <+: k₁.key → k₁.key = k₂.key) :
    List.Lex (· < ·) (k₁.serialize S 0) (k₂.serialize S 0) ↔
      Prod.Lex (List.Lex (· < ·)) (· < ·) (k₁.key, k₁.documentId) (k₂.key, k₂.documentId) := by
  rw [IndexKey.serialize_zero, IndexKey.serialize_zero, hp, List.append_assoc, List.append_assoc,
    lex_append_left UInt8.lt_irrefl, Prod.lex_def]
  by_cases h : k₁.key = k₂.key
  · rw [h, lex_append_left UInt8.lt_irrefl, beBytes_lt_beBytes (by simp) (by simp)]
    simp [lex_irrefl UInt8.lt_irrefl, UInt32.lt_iff_toNat]
  · have hl : ¬ k₁.key <+: k₂.key := fun h' => h (hkey (.inl h'))
    have hr : ¬ k₂.key <+: k₁.key := fun h' => h (hkey (.inr h'))
    simp [lex_append_of_incomparable hl hr, h]

/-- The keys of one index whose values are a prefix of one another sort against their tuples:
`([], 0x01000000) < ([0], 0)`, but the first key's document id byte `0x01` sorts after the second
key's value byte `0x00`; and the key of value `[0]` falls in the document-id range of the value
`[]`. -/
theorem indexKey_order_prefix_counterexample :
    Prod.Lex (List.Lex (· < ·)) (· < ·) (([] : List UInt8), (0x01000000 : UInt32))
        ([0], 0) ∧
      ¬ List.Lex (· < ·) ((IndexKey.mk 0 0 0x01000000 0 []).serialize StoreConsts.sample 0)
        ((IndexKey.mk 0 0 0 0 [0]).serialize StoreConsts.sample 0) ∧
    List.Lex (· < ·) ((IndexKey.mk 0 0 0 0 []).serialize StoreConsts.sample 0)
        ((IndexKey.mk 0 0 0 0 [0]).serialize StoreConsts.sample 0) ∧
      List.Lex (· < ·) ((IndexKey.mk 0 0 0 0 [0]).serialize StoreConsts.sample 0)
        ((IndexKey.mk 0 0 u32Max 0 []).serialize StoreConsts.sample 0) := by
  simp only [IndexKey.serialize_zero, IndexKey.indexPrefix, IndexKeyPrefix.serialize_zero]
  decide

/-- Keys of one index written to the same bytes have the same value. -/
theorem IndexKey.key_eq_of_serialize_eq {k₁ k₂ : IndexKey} (h : k₁.serialize S 0 = k₂.serialize S 0)
    (hp : k₁.indexPrefix = k₂.indexPrefix) : k₁.key = k₂.key := by
  rw [IndexKey.serialize_zero, IndexKey.serialize_zero, hp, List.append_assoc,
    List.append_assoc, List.append_cancel_left_eq] at h
  exact (List.append_inj' h (by simp)).1

/-- **Index keys sort by value, then document id,** whenever neither value is a proper prefix of
the other; in particular the document-id range of a value `V`, from document `0` to
`u32::MAX`, holds the key of a value `V'` of that kind exactly when `V' = V`. -/
theorem indexKey_lt_iff :
    (∀ k₁ k₂ : IndexKey, k₁.accountId = k₂.accountId → k₁.collection = k₂.collection →
      k₁.field = k₂.field → (k₁.key <+: k₂.key ∨ k₂.key <+: k₁.key → k₁.key = k₂.key) →
      (List.Lex (· < ·) (k₁.serialize S 0) (k₂.serialize S 0) ↔
        Prod.Lex (List.Lex (· < ·)) (· < ·) (k₁.key, k₁.documentId) (k₂.key, k₂.documentId))) ∧
    (∀ (a : UInt32) (c f : UInt8) (V V' : List UInt8) (d : UInt32),
      (V <+: V' ∨ V' <+: V → V = V') →
      ((List.Lex (· < ·) ((IndexKey.mk a c 0 f V).serialize S 0)
          ((IndexKey.mk a c d f V').serialize S 0) ∨
          (IndexKey.mk a c 0 f V).serialize S 0 = (IndexKey.mk a c d f V').serialize S 0) ∧
        (List.Lex (· < ·) ((IndexKey.mk a c d f V').serialize S 0)
          ((IndexKey.mk a c u32Max f V).serialize S 0) ∨
          (IndexKey.mk a c d f V').serialize S 0 = (IndexKey.mk a c u32Max f V).serialize S 0) ↔
        V' = V)) := by
  refine ⟨fun k₁ k₂ ha hc hf hkey => IndexKey.lex_serialize_iff S
    (by simp [IndexKey.indexPrefix, ha, hc, hf]) hkey, fun a c f V V' d hkey => ?_⟩
  have hlo := @IndexKey.lex_serialize_iff S ⟨a, c, 0, f, V⟩ ⟨a, c, d, f, V'⟩ rfl hkey
  have hhi := @IndexKey.lex_serialize_iff S ⟨a, c, d, f, V'⟩ ⟨a, c, u32Max, f, V⟩
    rfl (fun h => (hkey h.symm).symm)
  rw [hlo, hhi, Prod.lex_def, Prod.lex_def]
  by_cases hV : V' = V
  · subst hV
    simp only [lex_irrefl UInt8.lt_irrefl, true_and, false_or, iff_true, UInt32.lt_iff_toNat]
    constructor
    · rcases Nat.eq_zero_or_pos d.toNat with hd | hd
      · exact .inr (by rw [show d = 0 from UInt32.toNat.inj hd])
      · exact .inl hd
    · rcases Nat.lt_or_eq_of_le (Nat.le_of_lt_succ (UInt32.toNat_lt d)) with hd | hd
      · exact .inl hd
      · exact .inr (by rw [show d = u32Max from UInt32.toNat.inj hd])
  · simp only [hV, Ne.symm hV, false_and, or_false, iff_false, not_and]
    intro h₁ h₂
    rcases h₁ with h₁ | h₁
    · rcases h₂ with h₂ | h₂
      · exact lex_asymm h₁ h₂
      · exact hV (IndexKey.key_eq_of_serialize_eq S h₂ rfl)
    · exact hV (IndexKey.key_eq_of_serialize_eq S h₁ rfl).symm

end MailServer
