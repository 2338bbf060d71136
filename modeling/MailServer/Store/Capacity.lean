import MailServer.Store.Layout

/-!
# The buffers of the serializers

Each serializer creates its `KeySerializer` with a capacity, which `Vec::with_capacity` allocates
up front: a key longer than that makes the buffer grow, a reallocation and a copy.  A value key
gets `serialized_size() + 1` bytes, one more with `WITH_SUBSPACE` for the subspace byte, and each
branch of `BitmapClass::serialize` picks its own capacity.

`serializer_fits_iff` says exactly which keys fit.  The hints count four bytes for a LEB128
principal id and eight for the two LEB128 ids of a metric, which grow with their values, and two
bitmap branches size their buffer without the document id and with one byte for a LEB128 tag id:
the directory keys of a principal id from `2^28` on, the metrics whose ids take more than ten
bytes together, the document-id bitmaps and the text tags always, and the id tags from `128` on
outgrow their buffers (`serialize_outgrows_capacity`).
-/

namespace MailServer

variable (S : StoreConsts)

/-! ## Value keys -/

/-- The value classes whose serialization fits the buffer sized by `serialized_size`: all but the
directory keys of a principal id from `2^28` on and the metrics whose two LEB128 ids take more
than ten bytes together. -/
def ValueClass.fitsSizeHint : ValueClass → Bool
  | .directory (.principal uid) | .directory (.usedQuota uid) => uid.toNat < 2 ^ 28
  | .telemetry (.metric _ metricId nodeId) =>
    (leb128 metricId.toNat).length + (leb128 nodeId.toNat).length ≤ 10
  | _ => true

theorem ValueClass.length_serialize (v : ValueClass) (a : UInt32) (c : UInt8)
    (d flags : UInt32) :
    (v.serialize S a c d flags).length =
      (if flags &&& S.withSubspace ≠ 0 then 1 else 0) + (encodeFields (v.layout a c d)).length := by
  unfold ValueClass.serialize
  split <;> simp [ValueClass.write_buf, Nat.add_comm]

theorem BitmapHash.length_truncated (h : BitmapHash) :
    h.truncated.length = min h.len.toNat 8 := by
  simp [BitmapHash.truncated, h.hash_length]

/-- A LEB128 number takes one byte exactly below `128`. -/
theorem length_leb128_le_one (n : Nat) : (leb128 n).length ≤ 1 ↔ n < 128 :=
  length_leb128_le_iff 0 n

/-- A LEB128 number takes at most four bytes exactly below `2^28`. -/
theorem length_leb128_le_four (n : Nat) : (leb128 n).length ≤ 4 ↔ n < 2 ^ 28 :=
  length_leb128_le_iff 3 n

/-- What a value key writes after its subspace byte fits `serialized_size() + 1` bytes exactly
when its class fits the hint. -/
theorem ValueClass.length_layout_le_iff (v : ValueClass) (a : UInt32) (c : UInt8) (d : UInt32) :
    (encodeFields (v.layout a c d)).length ≤ v.serializedSize + 1 ↔ v.fitsSizeHint := by
  rcases v with _ | _ | (_ | _) | hash | (_ | _ | _ | ⟨_, (_ | _)⟩) | (_ | _ | uid | uid | _ | _ | _) |
    (_ | _ | _ | _) | _ | (_ | _ | _ | _ | _ | _ | _ | _) | (_ | _ | _) | (_ | _ | ⟨_, m, n⟩) | _ | _ | _
  case ftsIndex =>
    have := hash.length_truncated
    simp only [ValueClass.layout, ValueClass.serializedSize, ValueClass.fitsSizeHint,
      BitmapHash.fields, u32Len]
    split_ifs <;> simp <;> omega
  case principal | usedQuota =>
    simpa [ValueClass.layout, ValueClass.serializedSize, ValueClass.fitsSizeHint, u32Len,
      Nat.add_comm 1] using length_leb128_le_four uid.toNat
  case metric =>
    simp only [ValueClass.layout, ValueClass.serializedSize, ValueClass.fitsSizeHint, u64Len]
    simp
    omega
  all_goals simp_arith [ValueClass.layout, ValueClass.serializedSize, ValueClass.fitsSizeHint,
    u32Len, u64Len, blobHashLen, BlobHash.length_eq, QueueEvent.queueName_length]

/-! ## Bitmap keys -/

/-- The bitmap classes whose serialization fits the buffer of its branch: the token keys, and the
id tags below `128`.  The document-id and text-tag branches count no document id, and the id-tag
branch counts one byte for the LEB128 id. -/
def BitmapClass.fitsCapacity : BitmapClass → Bool
  | .documentIds => false
  | .tag _ (.id id) => id.toNat < 128
  | .tag _ (.text _) => false
  | .text _ _ => true

theorem BitmapClass.serializer_buf (b : BitmapClass) (a : UInt32) (c : UInt8) (d flags : UInt32) :
    (b.serializer S a c d flags).buf = b.serialize S a c d flags := rfl

theorem BitmapClass.capacity_serializer (b : BitmapClass) (a : UInt32) (c : UInt8)
    (d flags : UInt32) :
    (b.serializer S a c d flags).capacity = (if flags &&& S.withSubspace ≠ 0 then 1 else 0) +
      match b with
      | .documentIds => u32Len + 1
      | .tag _ (.id _) => (u32Len * 2) + 3
      | .tag _ (.text txt) => u32Len + 3 + txt.length
      | .text _ _ => u32Len + 16 + 3 := by
  by_cases hs : flags &&& S.withSubspace = 0 <;>
    rcases b with _ | ⟨_, (_ | _)⟩ | ⟨_, token⟩ <;> simp_arith [BitmapClass.serializer, apply_ite KeySerializer.capacity, hs]

/-- **Which keys fit their buffers.**  A value key fits `serialized_size() + 1` bytes, one more
with `WITH_SUBSPACE`, exactly when its class fits the hint; a bitmap key fits the capacity its
branch passes to `KeySerializer::new` exactly when its class fits that capacity. -/
theorem serializer_fits_iff :
    (∀ (v : ValueClass) (a : UInt32) (c : UInt8) (d flags : UInt32),
      (v.serialize S a c d flags).length ≤
          v.serializedSize + 1 + (if flags &&& S.withSubspace ≠ 0 then 1 else 0) ↔
        v.fitsSizeHint) ∧
    ∀ (b : BitmapClass) (a : UInt32) (c : UInt8) (d flags : UInt32),
      (b.serializer S a c d flags).buf.length ≤ (b.serializer S a c d flags).capacity ↔
        b.fitsCapacity := by
  refine ⟨fun v a c d flags => ?_, fun b a c d flags => ?_⟩
  · rw [ValueClass.length_serialize, ← v.length_layout_le_iff a c d]
    split <;> omega
  · rw [BitmapClass.serializer_buf, BitmapClass.serialize_eq, BitmapClass.capacity_serializer,
      List.length_append, apply_ite List.length, List.length_singleton, List.length_nil]
    rcases b with _ | ⟨_, (id | _)⟩ | ⟨_, token⟩
    · simp [BitmapClass.layout, BitmapClass.fitsCapacity, u32Len]
    · have := length_leb128_le_one id.toNat
      simp [BitmapClass.layout, BitmapClass.fitsCapacity, u32Len]
      omega
    · simp [BitmapClass.layout, BitmapClass.fitsCapacity, u32Len]
      omega
    · have := token.length_truncated
      by_cases h8 : 8 ≤ token.len.toNat <;>
        simp [BitmapClass.layout, BitmapClass.fitsCapacity, BitmapHash.fields, h8, u32Len] <;>
        omega

/-- Two keys that outgrow their buffers: the directory key of the principal `2^28`, six bytes
where `serialized_size() + 1` is five, and every document-id bitmap key, nine bytes in a buffer
of five. -/
theorem serialize_outgrows_capacity :
    ((ValueClass.directory (.principal 0x10000000)).serialize StoreConsts.sample 1 0 0 0).length =
      6 ∧
    (ValueClass.directory (.principal 0x10000000)).serializedSize + 1 = 5 ∧
    (BitmapClass.documentIds.serializer StoreConsts.sample 1 0 0 0).buf.length = 9 ∧
    (BitmapClass.documentIds.serializer StoreConsts.sample 1 0 0 0).capacity = 5 := by
  decide

end MailServer
