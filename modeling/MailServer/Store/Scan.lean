import MailServer.Store.Index

/-!
# Range scans over the store

The key layer hands its keys to an ordered key-value store, and its callers read records back
with range scans `scan(from, to)`.  `SortedKeys` models the keys of one subspace as such a scan
sees them: sorted bytewise, each once, none longer than a Rust allocation can be.

Over it, `deadline_scan` proves the contract the schedulers rely on.  In a subspace that holds
deadline-first keys whose discriminator prefixes have one length, the scan from `P ++ be64(0)`
up to `P ++ be64(T + 1)` returns exactly the keys of prefix `P` due by `T`, and the due times
read back from them with `deserialize_be_u64` come in non-decreasing order.  The two facts of
`Store/Order.lean` it rests on are `lex_deadline_bound_iff` (the bound) and `lex_deadline_of_lt`
(the order).
-/

namespace MailServer

/-- Modelled from the spec: the keys of one subspace of the ordered key-value store, written
without the subspace byte, as a range scan sees them: sorted bytewise, each once, and each, like
every `Vec<u8>`, at most `isize::MAX` bytes long. -/
structure SortedKeys where
  keys : List (List UInt8)
  sorted : keys.Pairwise (List.Lex (· < ·))
  length_le : ∀ k ∈ keys, k.length ≤ isizeMax

/-- Modelled from the spec: `scan(from, to)`, the keys from `from` up to, not including, `to`,
in order. -/
def SortedKeys.scan (st : SortedKeys) (lo hi : List UInt8) : List (List UInt8) :=
  st.keys.filter fun k => !decide (List.Lex (· < ·) k lo) && decide (List.Lex (· < ·) k hi)

theorem SortedKeys.mem_scan {st : SortedKeys} {lo hi k : List UInt8} :
    k ∈ st.scan lo hi ↔ k ∈ st.keys ∧ ¬ List.Lex (· < ·) k lo ∧ List.Lex (· < ·) k hi := by
  simp [SortedKeys.scan]

/-- A scan returns its keys in order. -/
theorem SortedKeys.scan_sorted (st : SortedKeys) (lo hi : List UInt8) :
    (st.scan lo hi).Pairwise (List.Lex (· < ·)) :=
  st.sorted.sublist (List.filter_sublist _)

/-- A key of prefix `P'`, as long as `P`, lies in the scan range of `P` up to `T` exactly when
`P' = P` and its deadline is at most `T`. -/
theorem inRange_deadline_iff {P P' rest : List UInt8} {t T : UInt64}
    (hlen : P'.length = P.length) (hT : T < u64Max) :
    (¬ List.Lex (· < ·) (P' ++ (beBytes 8 t.toNat ++ rest)) (P ++ beBytes 8 0) ∧
      List.Lex (· < ·) (P' ++ (beBytes 8 t.toNat ++ rest)) (P ++ beBytes 8 (T.toNat + 1))) ↔
      P' = P ∧ t ≤ T := by
  by_cases hP : P' = P
  · subst hP
    simp [not_lex_deadline_zero, lex_deadline_bound_iff hT]
  · rw [lex_append_of_length_eq UInt8.lt_irrefl hlen, lex_append_of_length_eq UInt8.lt_irrefl hlen]
    simp only [hP, false_and, or_false]
    tauto

variable (S : StoreConsts)

section Deadline

variable {st : SortedKeys} {P : List UInt8} {T : UInt64}

/-- The keys of a subspace of deadline-first keys with prefixes as long as `P`. -/
def DeadlineKeys (st : SortedKeys) (P : List UInt8) : Prop :=
  ∀ k ∈ st.keys, ∃ (v : ValueClass) (a : UInt32) (c : UInt8) (d : UInt32) (P' : List UInt8)
    (t : UInt64), v.deadline = some (P', t) ∧ P'.length = P.length ∧ k = v.serialize S a c d 0

/-- The keys a deadline scan returns: those of prefix `P` due by `T`. -/
theorem mem_deadline_scan (hT : T < u64Max) (hst : DeadlineKeys S st P) {k : List UInt8} :
    k ∈ st.scan (P ++ beBytes 8 0) (P ++ beBytes 8 (T.toNat + 1)) ↔
      k ∈ st.keys ∧ ∃ (v : ValueClass) (a : UInt32) (c : UInt8) (d : UInt32) (t : UInt64),
        v.deadline = some (P, t) ∧ t ≤ T ∧ k = v.serialize S a c d 0 := by
  rw [SortedKeys.mem_scan]
  constructor
  · rintro ⟨hk, hrange⟩
    obtain ⟨v, a, c, d, P', t, hv, hlen, rfl⟩ := hst _ hk
    obtain ⟨rest, e⟩ := ValueClass.serialize_of_deadline S hv a c d
    rw [e] at hrange
    obtain ⟨rfl, ht⟩ := (inRange_deadline_iff hlen hT).1 hrange
    exact ⟨hk, v, a, c, d, t, hv, ht, rfl⟩
  · rintro ⟨hk, v, a, c, d, t, hv, ht, rfl⟩
    obtain ⟨rest, e⟩ := ValueClass.serialize_of_deadline S hv a c d
    rw [e]
    exact ⟨e ▸ hk, (inRange_deadline_iff rfl hT).2 ⟨rfl, ht⟩⟩

/-- Every key a deadline scan returns is its prefix, a deadline at most `T` that
`deserialize_be_u64` reads back at offset `|P|`, and the rest of its fields. -/
theorem deadline_of_mem_scan (hT : T < u64Max) (hst : DeadlineKeys S st P) {k : List UInt8}
    (hk : k ∈ st.scan (P ++ beBytes 8 0) (P ++ beBytes 8 (T.toNat + 1))) :
    ∃ t rest, k = P ++ (beBytes 8 t.toNat ++ rest) ∧ t ≤ T ∧
      deserializeBeU64 k P.length = .ok t := by
  obtain ⟨hk, v, a, c, d, t, hv, ht, rfl⟩ := (mem_deadline_scan S hT hst).1 hk
  obtain ⟨rest, e⟩ := ValueClass.serialize_of_deadline S hv a c d
  have hs : (v.serialize S a c d 0).length ≤ usizeMax := by
    have := st.length_le _ hk
    unfold isizeMax at this; unfold usizeMax; omega
  refine ⟨t, rest, e, ht, ?_⟩
  rw [deserializeBeU64_eq (by simp [e]) hs, take_drop_of_eq e rfl (by simp),
    UInt64.ofNat_fromBeBytes]

end Deadline

/-- **Due-time scans are exact and ordered.**  In a subspace of deadline-first keys whose
prefixes are as long as `P`, the scan from `P ++ be64(0)` up to `P ++ be64(T + 1)`, for every
`T < u64::MAX`, returns exactly the keys of prefix `P` due by `T`; reading the due time of each
with `deserialize_be_u64` at offset `|P|` succeeds, and the due times come in non-decreasing
order. -/
theorem deadline_scan (st : SortedKeys) (P : List UInt8) (T : UInt64) (hT : T < u64Max)
    (hst : DeadlineKeys S st P) :
    (∀ k, k ∈ st.scan (P ++ beBytes 8 0) (P ++ beBytes 8 (T.toNat + 1)) ↔
      k ∈ st.keys ∧ ∃ (v : ValueClass) (a : UInt32) (c : UInt8) (d : UInt32) (t : UInt64),
        v.deadline = some (P, t) ∧ t ≤ T ∧ k = v.serialize S a c d 0) ∧
    ∃ dues : List UInt64,
      (st.scan (P ++ beBytes 8 0) (P ++ beBytes 8 (T.toNat + 1))).map
        (deserializeBeU64 · P.length) = dues.map .ok ∧
      dues.Pairwise (· ≤ ·) ∧ ∀ t ∈ dues, t ≤ T := by
  refine ⟨fun k => mem_deadline_scan S hT hst, ?_⟩
  have hdue := fun k (hk : k ∈ st.scan _ _) => deadline_of_mem_scan S hT hst hk
  let dueOf (k : List UInt8) : UInt64 := UInt64.ofNat (fromBeBytes ((k.drop P.length).take 8))
  have hdueOf : ∀ k ∈ st.scan (P ++ beBytes 8 0) (P ++ beBytes 8 (T.toNat + 1)),
      (∃ rest, k = P ++ (beBytes 8 (dueOf k).toNat ++ rest)) ∧ dueOf k ≤ T ∧
        deserializeBeU64 k P.length = .ok (dueOf k) := by
    intro k hk
    obtain ⟨t, rest, rfl, ht, hread⟩ := hdue _ hk
    have : dueOf (P ++ (beBytes 8 t.toNat ++ rest)) = t := by
      simp only [dueOf, take_drop_of_eq (s := P ++ (beBytes 8 t.toNat ++ rest)) (i := P.length)
        (n := 8) rfl rfl (by simp), UInt64.ofNat_fromBeBytes]
    rw [this]
    exact ⟨⟨rest, rfl⟩, ht, hread⟩
  refine ⟨(st.scan (P ++ beBytes 8 0) (P ++ beBytes 8 (T.toNat + 1))).map dueOf, ?_, ?_, ?_⟩
  · rw [List.map_map]
    exact List.map_congr_left fun k hk => (hdueOf k hk).2.2
  · refine List.pairwise_map.2 ((st.scan_sorted _ _).imp_of_mem fun ha hb hab => ?_)
    obtain ⟨⟨r₁, e₁⟩, -⟩ := hdueOf _ ha
    obtain ⟨⟨r₂, e₂⟩, -⟩ := hdueOf _ hb
    refine UInt64.le_iff_toNat.2 (Nat.le_of_not_lt fun hlt => lex_asymm hab ?_)
    rw [e₁, e₂]
    exact lex_deadline_of_lt (UInt64.lt_iff_toNat.2 hlt)
  · simp only [List.mem_map]
    rintro _ ⟨k, hk, rfl⟩
    exact (hdueOf k hk).2.1

/-- A subspace holding the DMARC and TLS report headers of events due at `3` and `9`, and the
DMARC report event of one due at `4`, each with the empty domain. -/
def reportKeys : SortedKeys where
  keys := [(ValueClass.queue (.dmarcReportHeader ⟨3, 0, 0, ⟨[], rfl, by decide⟩⟩)).serialize
      StoreConsts.sample 0 0 0 0,
    (ValueClass.queue (.tlsReportHeader ⟨9, 0, 0, ⟨[], rfl, by decide⟩⟩)).serialize
      StoreConsts.sample 0 0 0 0,
    (ValueClass.queue (.dmarcReportEvent ⟨4, 0, 0, ⟨[], rfl, by decide⟩⟩)).serialize
      StoreConsts.sample 0 0 0 0]
  sorted := by decide
  length_le k hk := by
    simp only [List.mem_cons, List.mem_singleton, List.not_mem_nil, or_false] at hk
    rcases hk with rfl | rfl | rfl <;> decide

/-- The scan of the report headers due by `5`: of the three keys, the header under prefix `[0]`
due at `3`. -/
theorem deadline_scan_reportHeaders :
    (5 : UInt64) < u64Max ∧ DeadlineKeys StoreConsts.sample reportKeys [0] ∧
    ((∀ k, k ∈ reportKeys.scan ([0] ++ beBytes 8 0)
        ([0] ++ beBytes 8 ((5 : UInt64).toNat + 1)) ↔
      k ∈ reportKeys.keys ∧ ∃ (v : ValueClass) (a : UInt32) (c : UInt8) (d : UInt32)
        (t : UInt64), v.deadline = some ([0], t) ∧ t ≤ 5 ∧
          k = v.serialize StoreConsts.sample a c d 0) ∧
    ∃ dues : List UInt64,
      (reportKeys.scan ([0] ++ beBytes 8 0) ([0] ++ beBytes 8 ((5 : UInt64).toNat + 1))).map
        (deserializeBeU64 · ([0] : List UInt8).length) = dues.map .ok ∧
      dues.Pairwise (· ≤ ·) ∧ ∀ t ∈ dues, t ≤ 5) :=
  have hst : DeadlineKeys StoreConsts.sample reportKeys [0] := by
    intro k hk
    simp only [reportKeys, List.mem_cons, List.mem_singleton, List.not_mem_nil, or_false] at hk
    rcases hk with rfl | rfl | rfl
    · exact ⟨_, 0, 0, 0, [0], 3, by rfl, rfl, rfl⟩
    · exact ⟨_, 0, 0, 0, [0], 9, by rfl, rfl, rfl⟩
    · exact ⟨_, 0, 0, 0, [1], 4, by rfl, rfl, rfl⟩
  ⟨by decide, hst, deadline_scan StoreConsts.sample reportKeys [0] 5 (by decide) hst⟩

end MailServer
