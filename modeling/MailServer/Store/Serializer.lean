import MailServer.Store.Schema

/-!
# The primitive serializer and deserializer

`KeySerializer` is a buffer that the writers of `KeySerialize` append to: a byte as itself, a
byte string as its bytes, `u16`, `u32` and `u64` big-endian.  `DeserializeBigEndian` reads those
integers back at a byte offset of a slice, failing with `DataCorruption` when the slice is too
short.

The offset arithmetic of the readers, `index + U64_LEN`, is `usize` arithmetic, which a debug
build checks: an overflow is a panic there.  `DecodeError.arithmeticOverflow` stands for that
panic, so that the decoders below are total functions whose every outcome is visible.
-/

namespace MailServer

/-! ## Writing -/

/-- `KeySerializer`: the bytes written so far, and the capacity the buffer was created with
(`Vec::with_capacity`), which never changes what is written. -/
structure KeySerializer where
  buf : List UInt8
  capacity : Nat

/-- `KeySerializer::new`. -/
def KeySerializer.new (capacity : Nat) : KeySerializer := ⟨[], capacity⟩

/-- `KeySerialize`: how a value is appended to a key. -/
class KeySerialize (α : Type) where
  serialize : α → List UInt8

instance : KeySerialize UInt8 := ⟨fun b => [b]⟩

/-- `&[u8]` is appended as it is. -/
instance : KeySerialize (List UInt8) := ⟨id⟩

instance : KeySerialize UInt16 := ⟨fun v => beBytes 2 v.toNat⟩

instance : KeySerialize UInt32 := ⟨fun v => beBytes 4 v.toNat⟩

instance : KeySerialize UInt64 := ⟨fun v => beBytes 8 v.toNat⟩

/-- `KeySerializer::write`. -/
def KeySerializer.write {α : Type} [KeySerialize α] (s : KeySerializer) (value : α) :
    KeySerializer :=
  { s with buf := s.buf ++ KeySerialize.serialize value }

/-- `KeySerializer::write_leb128`. -/
def KeySerializer.writeLeb128 (s : KeySerializer) (value : Nat) : KeySerializer :=
  { s with buf := s.buf ++ leb128 value }

/-- `KeySerializer::finalize`. -/
def KeySerializer.finalize (s : KeySerializer) : List UInt8 := s.buf

@[simp] theorem KeySerializer.new_buf (c : Nat) : (KeySerializer.new c).buf = [] := rfl

@[simp] theorem KeySerializer.write_buf {α : Type} [KeySerialize α] (s : KeySerializer)
    (v : α) : (s.write v).buf = s.buf ++ KeySerialize.serialize v := rfl

@[simp] theorem KeySerializer.writeLeb128_buf (s : KeySerializer) (v : Nat) :
    (s.writeLeb128 v).buf = s.buf ++ leb128 v := rfl

@[simp] theorem KeySerializer.finalize_eq (s : KeySerializer) : s.finalize = s.buf := rfl

@[simp] theorem KeySerializer.new_capacity (c : Nat) : (KeySerializer.new c).capacity = c := rfl

@[simp] theorem KeySerializer.write_capacity {α : Type} [KeySerialize α] (s : KeySerializer)
    (v : α) : (s.write v).capacity = s.capacity := rfl

@[simp] theorem KeySerializer.writeLeb128_capacity (s : KeySerializer) (v : Nat) :
    (s.writeLeb128 v).capacity = s.capacity := rfl

@[simp] theorem serialize_u8 (b : UInt8) : KeySerialize.serialize b = [b] := rfl

@[simp] theorem serialize_bytes (l : List UInt8) : KeySerialize.serialize l = l := rfl

@[simp] theorem serialize_u16 (v : UInt16) : KeySerialize.serialize v = beBytes 2 v.toNat := rfl

@[simp] theorem serialize_u32 (v : UInt32) : KeySerialize.serialize v = beBytes 4 v.toNat := rfl

@[simp] theorem serialize_u64 (v : UInt64) : KeySerialize.serialize v = beBytes 8 v.toNat := rfl

/-! ## Reading -/

/-- The `trc::Key` under which an error records the bytes it failed on. -/
inductive ContextKey
  | key
  | value
deriving DecidableEq, Repr

/-- How reading a key ends when it yields no value: `StoreEvent::DataCorruption` with the bytes it
failed on as context, or the panic of checked `usize` arithmetic in a debug build. -/
inductive DecodeError
  | dataCorruption (ctx : ContextKey) (bytes : List UInt8)
  | arithmeticOverflow
deriving DecidableEq, Repr

/-- `a + b` on `usize`, as a debug build checks it. -/
def usizeAdd (a b : Nat) : Except DecodeError Nat :=
  if a + b ≤ usizeMax then .ok (a + b) else .error .arithmeticOverflow

/-- `a - b` on `usize`, as a debug build checks it. -/
def usizeSub (a b : Nat) : Except DecodeError Nat :=
  if b ≤ a then .ok (a - b) else .error .arithmeticOverflow

/-- `<[u8]>::get(start..stop)`: the bytes from `start` to `stop`, unless the range is reversed or
runs past the end. -/
def sliceGet (s : List UInt8) (start stop : Nat) : Option (List UInt8) :=
  if start ≤ stop ∧ stop ≤ s.length then some ((s.drop start).take (stop - start)) else none

/-- The body the three readers of `DeserializeBigEndian for &[u8]` share, for an integer of
`width` bytes at `index`: the slice `index..index + width`, its conversion to an array of that
width, and `from_be_bytes`. -/
def deserializeBe (width : Nat) (s : List UInt8) (index : Nat) : Except DecodeError Nat := do
  let stop ← usizeAdd index width
  match sliceGet s index stop with
  | none => .error (.dataCorruption .value s)
  | some bytes =>
    if bytes.length = width then .ok (fromBeBytes bytes)
    else .error (.dataCorruption .value s)

/-- `deserialize_be_u16`. -/
def deserializeBeU16 (s : List UInt8) (index : Nat) : Except DecodeError UInt16 :=
  UInt16.ofNat <$> deserializeBe u16Len s index

/-- `deserialize_be_u32`. -/
def deserializeBeU32 (s : List UInt8) (index : Nat) : Except DecodeError UInt32 :=
  UInt32.ofNat <$> deserializeBe u32Len s index

/-- `deserialize_be_u64`. -/
def deserializeBeU64 (s : List UInt8) (index : Nat) : Except DecodeError UInt64 :=
  UInt64.ofNat <$> deserializeBe u64Len s index

/-- The bytes `m` standing at offset `p.length` of `p ++ m ++ q` are the ones read there. -/
theorem take_drop_of_eq {s p m q : List UInt8} {i n : Nat} (hs : s = p ++ (m ++ q))
    (hi : i = p.length) (hn : n = m.length) : (s.drop i).take n = m := by
  subst hs hi hn; simp

/-- A reader finds the integer that stands at its offset. -/
theorem deserializeBe_ok {width index : Nat} {s : List UInt8} (hi : index + width ≤ s.length)
    (hsize : index + width ≤ usizeMax) :
    deserializeBe width s index = .ok (fromBeBytes ((s.drop index).take width)) := by
  have hlen : ((s.drop index).take width).length = width := by simp; omega
  simp [deserializeBe, usizeAdd, hsize, sliceGet, hi, hlen, bind, Except.bind]

/-- A reader fails with `DataCorruption` when the integer would run past the end. -/
theorem deserializeBe_error {width index : Nat} {s : List UInt8}
    (hsize : index + width ≤ usizeMax) (hlen : s.length < index + width) :
    deserializeBe width s index = .error (.dataCorruption .value s) := by
  simp [deserializeBe, usizeAdd, hsize, sliceGet, bind, Except.bind, show ¬ index + width ≤
    s.length by omega]

/-- A reader finds the big-endian bytes of an integer of its width where they stand, whatever
comes before and after them. -/
theorem deserializeBe_beBytes (p q : List UInt8) {width n : Nat} (hn : n < 256 ^ width)
    (hsize : p.length + width ≤ usizeMax) :
    deserializeBe width (p ++ beBytes width n ++ q) p.length = .ok n := by
  rw [deserializeBe_ok (by simp) hsize,
    take_drop_of_eq (List.append_assoc _ _ _) rfl (length_beBytes _ _).symm, fromBeBytes_beBytes,
    Nat.mod_eq_of_lt hn]

theorem add_le_usizeMax {i n : Nat} (hn : n ≤ 8) (hi : i ≤ usizeMax - n) : i + n ≤ usizeMax := by
  unfold usizeMax at *; omega

/-- **The big-endian readers invert `KeySerialize`.**  Where the bytes `KeySerialize` writes for a
`u16`, `u32` or `u64` stand in a slice, whatever comes before and after them, the reader of that
width returns the integer; where an integer would run past the end of the slice, at an offset
whose `index + N` does not overflow, it fails with `DataCorruption` carrying the slice. -/
theorem deserializeBe_roundtrip :
    (∀ p q : List UInt8, p.length ≤ isizeMax →
      (∀ v : UInt16, deserializeBeU16 (p ++ KeySerialize.serialize v ++ q) p.length = .ok v) ∧
      (∀ v : UInt32, deserializeBeU32 (p ++ KeySerialize.serialize v ++ q) p.length = .ok v) ∧
      (∀ v : UInt64, deserializeBeU64 (p ++ KeySerialize.serialize v ++ q) p.length = .ok v)) ∧
    ∀ (s : List UInt8) (i : Nat),
      (s.length < i + 2 → i ≤ usizeMax - 2 →
        deserializeBeU16 s i = .error (.dataCorruption .value s)) ∧
      (s.length < i + 4 → i ≤ usizeMax - 4 →
        deserializeBeU32 s i = .error (.dataCorruption .value s)) ∧
      (s.length < i + 8 → i ≤ usizeMax - 8 →
        deserializeBeU64 s i = .error (.dataCorruption .value s)) := by
  refine ⟨fun p q hp => ?_, fun s i => ?_⟩
  · have hsize : p.length + 8 ≤ usizeMax := by unfold isizeMax at hp; unfold usizeMax; omega
    refine ⟨fun v => ?_, fun v => ?_, fun v => ?_⟩
    · rw [deserializeBeU16, serialize_u16, u16Len, deserializeBe_beBytes p q (UInt16.toNat_lt v) (by omega)]
      exact congrArg Except.ok (UInt16.ofNat_toNat v)
    · rw [deserializeBeU32, serialize_u32, u32Len, deserializeBe_beBytes p q (UInt32.toNat_lt v) (by omega)]
      exact congrArg Except.ok (UInt32.ofNat_toNat v)
    · rw [deserializeBeU64, serialize_u64, u64Len, deserializeBe_beBytes p q (UInt64.toNat_lt v) hsize]
      exact congrArg Except.ok (UInt64.ofNat_toNat v)
  · refine ⟨fun hs hi => ?_, fun hs hi => ?_, fun hs hi => ?_⟩
    · simp [deserializeBeU16, u16Len, deserializeBe_error (add_le_usizeMax (by omega) hi) hs,
        Functor.map, Except.map]
    · simp [deserializeBeU32, u32Len, deserializeBe_error (add_le_usizeMax (by omega) hi) hs,
        Functor.map, Except.map]
    · simp [deserializeBeU64, u64Len, deserializeBe_error (add_le_usizeMax (by omega) hi) hs,
        Functor.map, Except.map]

theorem deserializeBe_roundtrip_sample :
    ([0xAB] : List UInt8).length ≤ isizeMax ∧
      deserializeBeU32 ([0xAB] ++ KeySerialize.serialize (0xDEADBEEF : UInt32) ++ [0xCD]) 1 =
        .ok 0xDEADBEEF ∧
    ([] : List UInt8).length < 0 + 8 ∧ 0 ≤ usizeMax - 8 ∧
      deserializeBeU64 [] 0 = .error (.dataCorruption .value []) :=
  ⟨by decide, (deserializeBe_roundtrip.1 [0xAB] [0xCD] (by decide)).2.1 0xDEADBEEF, by decide,
    by decide, (deserializeBe_roundtrip.2 [] 0).2.2 (by decide) (by decide)⟩

theorem UInt64.ofNat_fromBeBytes (v : UInt64) :
    UInt64.ofNat (fromBeBytes (beBytes 8 v.toNat)) = v := by
  rw [fromBeBytes_beBytes, Nat.mod_eq_of_lt (by simp), UInt64.ofNat_toNat]

/-- `deserialize_be_u64` finds the integer that stands at its offset. -/
theorem deserializeBeU64_eq {s : List UInt8} {i : Nat} (hi : i + 8 ≤ s.length)
    (hs : s.length ≤ usizeMax) :
    deserializeBeU64 s i = .ok (UInt64.ofNat (fromBeBytes ((s.drop i).take 8))) := by
  simp [deserializeBeU64, u64Len, deserializeBe_ok hi (by omega), Functor.map, Except.map]

end MailServer
