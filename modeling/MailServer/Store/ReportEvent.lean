import MailServer.Store.Layout

/-!
# Decoding report events

`ReportEvent::deserialize` is the one decoder of the key layer.  It reads the due time at offset
1, finds the policy hash and the sequence id by their offsets from the end, `len - 17` and
`len - 9`, and takes the domain as the bytes between.  The outcome on every key depends only on
its length and on the domain bytes being UTF-8: `deserialize_of_lt_nine`,
`deserialize_of_lt_seventeen`, `deserialize_of_lt_twentySix` and `deserialize_of_le`.

The layout it expects is that of the report *header* keys, whose last byte (the report type) it
skips: `deserialize_reportHeader` proves that it inverts them for every event.  For keys of 9 to
16 bytes the subtraction `key.len() - 17` underflows (`deserialize_short_key_overflows`): a debug
build panics there instead of returning `DataCorruption`.  The report *event* keys, which lack
the trailing byte, are never read back (`deserialize_reportEvent_ne`): a key the decoder accepts
is exactly 26 bytes longer than the domain it returns (`length_of_deserialize_eq_ok`).
-/

namespace MailServer

namespace ReportEvent

variable {key : List UInt8}

/-- A key too short to hold the due time is corrupt. -/
theorem deserialize_of_lt_nine (h : key.length < 9) :
    deserialize key = .error (.dataCorruption .value key) := by
  simp [deserialize, deserializeBeU64, u64Len,
    deserializeBe_error (show 1 + 8 ≤ usizeMax by unfold usizeMax; omega)
      (show key.length < 1 + 8 by omega),
    bind, Except.bind, Functor.map, Except.map]

/-- A key that holds the due time but is shorter than 17 bytes makes `key.len() - 17`
underflow. -/
theorem deserialize_of_lt_seventeen (h9 : 9 ≤ key.length) (h17 : key.length < 17) :
    deserialize key = .error .arithmeticOverflow := by
  simp [deserialize, deserializeBeU64_eq (s := key) (i := 1) (by omega) (by unfold usizeMax; omega),
    usizeSub, u64Len, bind, Except.bind, show ¬ 17 ≤ key.length by omega]

/-- A key of 17 to 25 bytes has no room for the domain: it is corrupt. -/
theorem deserialize_of_lt_twentySix (h17 : 17 ≤ key.length) (h26 : key.length < 26)
    (hs : key.length ≤ usizeMax) :
    deserialize key = .error (.dataCorruption .key key) := by
  simp [deserialize, deserializeBeU64_eq (s := key) (i := 1) (by omega) hs,
    deserializeBeU64_eq (s := key) (i := key.length - 17) (by omega) hs,
    deserializeBeU64_eq (s := key) (i := key.length - 9) (by omega) hs,
    usizeSub, u64Len, bind, Except.bind, h17, sliceGet, show 9 ≤ key.length by omega,
    show ¬ 9 ≤ key.length - 17 by omega]

/-- A key of 26 bytes or more decodes to its fields at their offsets, if its domain bytes are
UTF-8. -/
theorem deserialize_of_le (h : 26 ≤ key.length) (hs : key.length ≤ usizeMax) :
    deserialize key = match fromUtf8 ((key.drop 9).take (key.length - 26)) with
      | some domain => .ok ⟨UInt64.ofNat (fromBeBytes ((key.drop 1).take 8)),
          UInt64.ofNat (fromBeBytes ((key.drop (key.length - 17)).take 8)),
          UInt64.ofNat (fromBeBytes ((key.drop (key.length - 9)).take 8)), domain⟩
      | none => .error (.dataCorruption .key key) := by
  simp [deserialize, deserializeBeU64_eq (s := key) (i := 1) (by omega) hs,
    deserializeBeU64_eq (s := key) (i := key.length - 17) (by omega) hs,
    deserializeBeU64_eq (s := key) (i := key.length - 9) (by omega) hs,
    usizeSub, u64Len, bind, Except.bind, sliceGet, show 17 ≤ key.length by omega,
    show 9 ≤ key.length by omega, show 9 ≤ key.length - 17 by omega,
    show key.length - 17 - 9 = key.length - 26 by omega]
  cases fromUtf8 ((key.drop 9).take (key.length - 26)) <;> rfl

/-- A key the decoder accepts is 26 bytes longer than the domain it decodes. -/
theorem length_of_deserialize_eq_ok {e : ReportEvent} (hs : key.length ≤ usizeMax)
    (h : deserialize key = .ok e) : key.length = e.domain.bytes.length + 26 := by
  by_cases h9 : key.length < 9
  · rw [deserialize_of_lt_nine h9] at h; cases h
  by_cases h17 : key.length < 17
  · rw [deserialize_of_lt_seventeen (by omega) h17] at h; cases h
  by_cases h26 : key.length < 26
  · rw [deserialize_of_lt_twentySix (by omega) h26 hs] at h; cases h
  rw [deserialize_of_le (by omega) hs] at h
  split at h
  · rename_i hf
    cases h
    rw [bytes_of_fromUtf8_eq_some hf]
    simp
    omega
  · cases h

end ReportEvent

/-- A header key, whatever its trailing type byte, decodes to its event. -/
theorem ReportEvent.deserialize_header (e : ReportEvent) (t : UInt8) :
    deserialize (0 :: (beBytes 8 e.due.toNat ++ (e.domain.bytes ++ (beBytes 8 e.policyHash.toNat
      ++ (beBytes 8 e.seqId.toNat ++ [t]))))) = .ok e := by
  have hd : e.domain.bytes.length ≤ isizeMax := e.domain.length_le
  unfold isizeMax at hd
  rw [deserialize_of_le (by simp; omega) (by simp; unfold usizeMax; omega),
    take_drop_of_eq (p := 0 :: beBytes 8 e.due.toNat) (m := e.domain.bytes)
      (q := beBytes 8 e.policyHash.toNat ++ (beBytes 8 e.seqId.toNat ++ [t])) (by simp)
      (by simp) (by simp; omega),
    take_drop_of_eq (p := [0]) (m := beBytes 8 e.due.toNat)
      (q := e.domain.bytes ++ (beBytes 8 e.policyHash.toNat ++ (beBytes 8 e.seqId.toNat ++ [t])))
      (by simp) (by simp) (by simp),
    take_drop_of_eq (p := 0 :: (beBytes 8 e.due.toNat ++ e.domain.bytes))
      (m := beBytes 8 e.policyHash.toNat) (q := beBytes 8 e.seqId.toNat ++ [t]) (by simp)
      (by simp; omega) (by simp),
    take_drop_of_eq (p := 0 :: (beBytes 8 e.due.toNat ++ (e.domain.bytes ++
      beBytes 8 e.policyHash.toNat))) (m := beBytes 8 e.seqId.toNat) (q := [t]) (by simp)
      (by simp; omega) (by simp)]
  simp only [fromUtf8_bytes, UInt64.ofNat_fromBeBytes]

/-- The decoder's outcome on every key: it panics exactly on keys of 9 to 16 bytes, succeeds
exactly on keys of 26 bytes or more whose domain bytes are UTF-8, and otherwise fails with
`DataCorruption` on the key. -/
theorem ReportEvent.deserialize_outcome (key : List UInt8) (hs : key.length ≤ isizeMax) :
    (deserialize key = .error .arithmeticOverflow ↔ 9 ≤ key.length ∧ key.length < 17) ∧
    ((∃ e, deserialize key = .ok e) ↔
      26 ≤ key.length ∧ utf8Valid ((key.drop 9).take (key.length - 26)) = true) ∧
    (∀ err, deserialize key = .error err →
      err = .arithmeticOverflow ∨ ∃ ctx, err = .dataCorruption ctx key) := by
  have hu : key.length ≤ usizeMax := by unfold isizeMax at hs; unfold usizeMax; omega
  by_cases h9 : key.length < 9
  · rw [deserialize_of_lt_nine h9]; simp; omega
  by_cases h17 : key.length < 17
  · rw [deserialize_of_lt_seventeen (by omega) h17]; simp; omega
  by_cases h26 : key.length < 26
  · rw [deserialize_of_lt_twentySix (by omega) h26 hu]; simp; omega
  rw [deserialize_of_le (by omega) hu]
  have hd : ((key.drop 9).take (key.length - 26)).length ≤ isizeMax := by simp; omega
  cases hf : fromUtf8 ((key.drop 9).take (key.length - 26)) with
  | none => simp [(fromUtf8_eq_none_iff hd).mp hf]; omega
  | some d =>
    have : utf8Valid ((key.drop 9).take (key.length - 26)) = true := by
      simp [← Bool.not_eq_false, ← fromUtf8_eq_none_iff hd, hf]
    simp [this]; omega

/-- The outcome at a key of each window: a 12-byte key underflows, the 26-byte header key of an
event with the empty domain decodes, and the 27-byte header key whose one domain byte is `0xFF`
is refused. -/
theorem ReportEvent.deserialize_outcome_windows :
    (List.replicate 12 (0 : UInt8)).length ≤ isizeMax ∧
      deserialize (List.replicate 12 0) = .error .arithmeticOverflow ∧
    (0 :: (beBytes 8 5 ++ (beBytes 8 7 ++ (beBytes 8 9 ++ [1])))).length ≤ isizeMax ∧
      (∃ e, deserialize (0 :: (beBytes 8 5 ++ (beBytes 8 7 ++ (beBytes 8 9 ++ [1])))) = .ok e) ∧
    (0 :: (beBytes 8 5 ++ ([0xFF] ++ (beBytes 8 7 ++ (beBytes 8 9 ++ [1]))))).length ≤ isizeMax ∧
      ¬ ∃ e, deserialize (0 :: (beBytes 8 5 ++ ([0xFF] ++ (beBytes 8 7 ++ (beBytes 8 9 ++ [1])))))
        = .ok e :=
  ⟨by decide, (deserialize_outcome _ (by decide)).1.2 ⟨by decide, by decide⟩,
    by decide, (deserialize_outcome _ (by decide)).2.1.2 ⟨by decide, by decide⟩,
    by decide, fun h => absurd ((deserialize_outcome _ (by decide)).2.1.1 h).2 (by decide)⟩

variable (S : StoreConsts)

/-- **Report header round trip.**  `ReportEvent::deserialize` inverts the DMARC and TLS report
header keys, for every event, the empty domain included. -/
theorem deserialize_reportHeader (e : ReportEvent) (accountId : UInt32) (collection : UInt8)
    (documentId : UInt32) :
    ReportEvent.deserialize ((ValueClass.queue (.dmarcReportHeader e)).serialize S accountId
      collection documentId 0) = .ok e ∧
    ReportEvent.deserialize ((ValueClass.queue (.tlsReportHeader e)).serialize S accountId
      collection documentId 0) = .ok e := by
  have hkey := fun q => SchemaKey.serialize_zero S (.value ⟨accountId, collection, documentId,
    .queue q⟩)
  simp only [SchemaKey.serialize, ValueKey.serialize] at hkey
  refine ⟨?_, ?_⟩
  · rw [hkey]; simpa [SchemaKey.layout, ValueClass.layout] using ReportEvent.deserialize_header e 0
  · rw [hkey]; simpa [SchemaKey.layout, ValueClass.layout] using ReportEvent.deserialize_header e 1

/-- A nine-byte key holds the due time, and then `key.len() - 17` underflows. -/
theorem deserialize_short_key_overflows :
    ReportEvent.deserialize (List.replicate 9 0) = .error .arithmeticOverflow :=
  ReportEvent.deserialize_of_lt_seventeen (by simp) (by simp)

/-- **The decoder does not read report event keys.**  The DMARC and TLS report *event* keys
have no trailing type byte, so, whole or without their leading discriminator, they are one or
two bytes shorter than a header key of the same event: for every event `e`, decoding them never
gives `e` back. -/
theorem deserialize_reportEvent_ne (e : ReportEvent) (accountId : UInt32) (collection : UInt8)
    (documentId : UInt32) :
    (ReportEvent.deserialize ((ValueClass.queue (.dmarcReportEvent e)).serialize S accountId
        collection documentId 0) ≠ .ok e ∧
      ReportEvent.deserialize (((ValueClass.queue (.dmarcReportEvent e)).serialize S accountId
        collection documentId 0).drop 1) ≠ .ok e) ∧
    (ReportEvent.deserialize ((ValueClass.queue (.tlsReportEvent e)).serialize S accountId
        collection documentId 0) ≠ .ok e ∧
      ReportEvent.deserialize (((ValueClass.queue (.tlsReportEvent e)).serialize S accountId
        collection documentId 0).drop 1) ≠ .ok e) := by
  have hd : e.domain.bytes.length ≤ isizeMax := e.domain.length_le
  unfold isizeMax at hd
  have hkey := fun q => SchemaKey.serialize_zero S (.value ⟨accountId, collection, documentId,
    .queue q⟩)
  simp only [SchemaKey.serialize, ValueKey.serialize] at hkey
  have hne : ∀ key : List UInt8, key.length ≤ usizeMax →
      key.length ≠ e.domain.bytes.length + 26 → ReportEvent.deserialize key ≠ .ok e :=
    fun key hs hl h => hl (ReportEvent.length_of_deserialize_eq_ok hs h)
  simp only [hkey]
  refine ⟨⟨hne _ ?_ ?_, hne _ ?_ ?_⟩, ⟨hne _ ?_ ?_, hne _ ?_ ?_⟩⟩ <;>
    simp [SchemaKey.layout, ValueClass.layout, usizeMax] <;> omega

end MailServer
