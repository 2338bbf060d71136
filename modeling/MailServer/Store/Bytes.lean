import Mathlib.Data.List.Lex
import Mathlib.Algebra.Group.Nat.Basic

/-!
# The bytes of a key

The store writes every fixed-width integer of a key big-endian (`to_be_bytes`), a few identifiers
as unsigned LEB128, and text as its UTF-8 bytes.  Keys are compared as byte strings,
lexicographically with a proper prefix first: Rust's order on `Vec<u8>`, which is `List.Lex` on
`List UInt8` here.

The facts every key layout is built on are `beBytes_lt_beBytes` (a fixed-width big-endian
encoding is an order embedding), `lex_append_of_length_eq` (the byte order splits over two
prefixes of equal length) and `leb128Decode_leb128` (LEB128 is self-delimiting).  Sizes follow a
64-bit target: `usize` is 64 bits wide and no slice is longer than `isize::MAX`.
-/

namespace MailServer

/-- `usize::MAX` on a 64-bit target. -/
def usizeMax : Nat := 2 ^ 64 - 1

/-- `isize::MAX`: no Rust allocation, hence no slice and no `String`, is longer. -/
def isizeMax : Nat := 2 ^ 63 - 1

/-! ## Machine integers -/

theorem UInt8.lt_iff_toNat {a b : UInt8} : a < b ↔ a.toNat < b.toNat := Iff.rfl

theorem UInt32.lt_iff_toNat {a b : UInt32} : a < b ↔ a.toNat < b.toNat := Iff.rfl

theorem UInt64.lt_iff_toNat {a b : UInt64} : a < b ↔ a.toNat < b.toNat := Iff.rfl

theorem UInt64.le_iff_toNat {a b : UInt64} : a ≤ b ↔ a.toNat ≤ b.toNat := Iff.rfl

@[simp] theorem UInt8.toNat_ofNat' (n : Nat) : (UInt8.ofNat n).toNat = n % 256 := by
  simp [UInt8.ofNat, UInt8.toNat, BitVec.toNat_ofNat]

theorem UInt8.ofNat_toNat (b : UInt8) : UInt8.ofNat b.toNat = b :=
  UInt8.toNat.inj (by simpa using Nat.mod_eq_of_lt b.toNat_lt_size)

theorem UInt8.ofNat_inj {m n : Nat} (hm : m < 256) (hn : n < 256) :
    UInt8.ofNat m = UInt8.ofNat n ↔ m = n := by
  constructor
  · intro h
    have := congrArg UInt8.toNat h
    simpa [Nat.mod_eq_of_lt hm, Nat.mod_eq_of_lt hn] using this
  · rintro rfl; rfl

@[simp] theorem UInt32.toNat_ofNat' (n : Nat) : (UInt32.ofNat n).toNat = n % 2 ^ 32 := by
  simp [UInt32.ofNat, UInt32.toNat, BitVec.toNat_ofNat]

@[simp] theorem UInt64.toNat_ofNat' (n : Nat) : (UInt64.ofNat n).toNat = n % 2 ^ 64 := by
  simp [UInt64.ofNat, UInt64.toNat, BitVec.toNat_ofNat]

theorem UInt16.ofNat_toNat (v : UInt16) : UInt16.ofNat v.toNat = v :=
  UInt16.toNat.inj (by simp [UInt16.ofNat, UInt16.toNat, Nat.mod_eq_of_lt v.toNat_lt_size])

theorem UInt32.ofNat_toNat (v : UInt32) : UInt32.ofNat v.toNat = v :=
  UInt32.toNat.inj (by simpa using Nat.mod_eq_of_lt v.toNat_lt_size)

theorem UInt64.ofNat_toNat (v : UInt64) : UInt64.ofNat v.toNat = v :=
  UInt64.toNat.inj (by simpa using Nat.mod_eq_of_lt v.toNat_lt_size)

@[simp] theorem UInt8.toNat_lt (v : UInt8) : v.toNat < 256 := v.toNat_lt_size

@[simp] theorem UInt16.toNat_lt (v : UInt16) : v.toNat < 65536 := v.toNat_lt_size

@[simp] theorem UInt32.toNat_lt (v : UInt32) : v.toNat < 4294967296 := v.toNat_lt_size

@[simp] theorem UInt64.toNat_lt (v : UInt64) : v.toNat < 18446744073709551616 := v.toNat_lt_size

/-! ## The byte order -/

section Lex

variable {α : Type} {r : α → α → Prop}

theorem lex_cons_cons {a b : α} {l m : List α} :
    List.Lex r (a :: l) (b :: m) ↔ r a b ∨ a = b ∧ List.Lex r l m := by
  constructor
  · rintro (_ | ⟨h⟩ | ⟨h⟩)
    · exact .inr ⟨rfl, h⟩
    · exact .inl h
  · rintro (h | ⟨rfl, h⟩)
    · exact .rel h
    · exact .cons h

theorem lex_nil_left_iff {m : List α} : List.Lex r [] m ↔ m ≠ [] := by
  cases m with
  | nil => simp [List.Lex.not_nil_right]
  | cons b m => simp [List.Lex.nil]

/-- **Splitting the byte order.**  Two byte strings that start with prefixes of one length compare
as the prefixes do, and as the rests do when the prefixes are equal. -/
theorem lex_append_of_length_eq (hr : ∀ a, ¬ r a a) {a b x y : List α}
    (hab : a.length = b.length) :
    List.Lex r (a ++ x) (b ++ y) ↔ List.Lex r a b ∨ a = b ∧ List.Lex r x y := by
  induction a generalizing b with
  | nil =>
    obtain rfl : b = [] := List.length_eq_zero.mp hab.symm
    simp [List.Lex.not_nil_right]
  | cons p a ih =>
    obtain ⟨q, b, rfl⟩ := List.exists_cons_of_length_eq_add_one hab.symm
    simp only [List.cons_append, lex_cons_cons, List.cons.injEq,
      ih (Nat.succ.inj hab)]
    constructor
    · rintro (h | ⟨rfl, h | ⟨rfl, h⟩⟩) <;> simp_all
    · rintro ((h | ⟨rfl, h⟩) | ⟨⟨rfl, rfl⟩, h⟩) <;> simp_all

theorem lex_irrefl (hr : ∀ a, ¬ r a a) (l : List α) : ¬ List.Lex r l l := by
  induction l with
  | nil => exact List.Lex.not_nil_right r []
  | cons a l ih => simp [lex_cons_cons, hr, ih]

theorem lex_append_left (hr : ∀ a, ¬ r a a) (l : List α) {x y : List α} :
    List.Lex r (l ++ x) (l ++ y) ↔ List.Lex r x y := by
  rw [lex_append_of_length_eq hr rfl]
  simp [lex_irrefl hr]

end Lex

section ByteLex

variable {l m x y : List UInt8}

theorem lex_asymm : List.Lex (· < ·) l m → ¬ List.Lex (· < ·) m l := by
  induction l generalizing m with
  | nil => intro _ h; exact List.Lex.not_nil_right _ _ h
  | cons a l ih =>
    cases m with
    | nil => intro h; exact absurd h (List.Lex.not_nil_right _ _)
    | cons b m =>
      simp only [lex_cons_cons]
      rintro (h | ⟨rfl, h⟩) (h' | ⟨hba, h'⟩)
      · rw [UInt8.lt_iff_toNat] at h h'; omega
      · subst hba; exact UInt8.lt_irrefl _ h
      · exact UInt8.lt_irrefl a h'
      · exact ih h h'

/-- Two byte strings of which neither is a prefix of the other are ordered at their first
difference, whatever follows them. -/
theorem lex_append_of_incomparable (h : ¬ l <+: m) (h' : ¬ m <+: l) :
    List.Lex (· < ·) (l ++ x) (m ++ y) ↔ List.Lex (· < ·) l m := by
  induction l generalizing m with
  | nil => exact absurd List.nil_prefix h
  | cons a l ih =>
    cases m with
    | nil => exact absurd List.nil_prefix h'
    | cons b m =>
      simp only [List.cons_prefix_cons, not_and] at h h'
      simp only [List.cons_append, lex_cons_cons]
      by_cases hab : a = b
      · subst hab
        rw [ih (h rfl) (h' rfl)]
      · simp [hab]

end ByteLex

/-! ## Big-endian integers -/

/-- The `width` bytes of `n`, most significant first: `to_be_bytes` of a `width`-byte integer
(`n` is taken modulo `256 ^ width`). -/
def beBytes : Nat → Nat → List UInt8
  | 0, _ => []
  | width + 1, n => beBytes width (n / 256) ++ [UInt8.ofNat n]

/-- The integer that big-endian bytes stand for: `from_be_bytes`. -/
def fromBeBytes (bytes : List UInt8) : Nat :=
  bytes.foldl (fun acc b => acc * 256 + b.toNat) 0

@[simp] theorem length_beBytes (width n : Nat) : (beBytes width n).length = width := by
  induction width generalizing n <;> simp [beBytes, *]

theorem fromBeBytes_append_singleton (bytes : List UInt8) (b : UInt8) :
    fromBeBytes (bytes ++ [b]) = fromBeBytes bytes * 256 + b.toNat := by
  simp [fromBeBytes, List.foldl_append]

@[simp] theorem fromBeBytes_beBytes (width n : Nat) :
    fromBeBytes (beBytes width n) = n % 256 ^ width := by
  induction width generalizing n with
  | zero => simp [beBytes, fromBeBytes, Nat.mod_one]
  | succ width ih =>
    rw [beBytes, fromBeBytes_append_singleton, ih, UInt8.toNat_ofNat', Nat.pow_succ',
      Nat.mod_mul]
    omega

theorem beBytes_eq_beBytes_iff {width a b : Nat} (ha : a < 256 ^ width)
    (hb : b < 256 ^ width) : beBytes width a = beBytes width b ↔ a = b := by
  refine ⟨fun h => ?_, fun h => h ▸ rfl⟩
  have := congrArg fromBeBytes h
  simpa [Nat.mod_eq_of_lt ha, Nat.mod_eq_of_lt hb] using this

/-- **Big-endian order.**  On integers that fit the width, big-endian bytes compare as the
integers do. -/
theorem beBytes_lt_beBytes {width a b : Nat} (ha : a < 256 ^ width) (hb : b < 256 ^ width) :
    List.Lex (· < ·) (beBytes width a) (beBytes width b) ↔ a < b := by
  induction width generalizing a b with
  | zero => simp_all [beBytes, List.Lex.not_nil_right]
  | succ width ih =>
    rw [Nat.pow_succ'] at ha hb
    have ha' := Nat.div_lt_of_lt_mul ha
    have hb' := Nat.div_lt_of_lt_mul hb
    rw [beBytes, beBytes, lex_append_of_length_eq UInt8.lt_irrefl (by simp), ih ha' hb',
      beBytes_eq_beBytes_iff ha' hb', List.Lex.singleton_iff, UInt8.lt_iff_toNat,
      UInt8.toNat_ofNat', UInt8.toNat_ofNat']
    omega

/-! ## LEB128 -/

/-- Writes the seven-bit groups of `n`, with `fuel` bounding the number of groups. -/
def leb128Groups : Nat → Nat → List UInt8
  | 0, n => [UInt8.ofNat n]
  | fuel + 1, n =>
    if n < 128 then [UInt8.ofNat n] else UInt8.ofNat (n % 128 + 128) :: leb128Groups fuel (n / 128)

/-- Modelled from the spec: `Leb128_::to_leb128_bytes` of the `utils` crate, which is not part of
this development, as the standard minimal unsigned LEB128 encoding: seven bits a byte, least
significant group first, the high bit set on every byte but the last.  `n` groups are more than
`n` ever needs. -/
def leb128 (n : Nat) : List UInt8 := leb128Groups n n

/-- Any fuel of at least `n` groups writes the same groups. -/
theorem leb128Groups_congr : ∀ {f g n : Nat}, n ≤ f → n ≤ g → leb128Groups f n = leb128Groups g n
  | 0, g, n, hf, _ => by
    obtain rfl : n = 0 := by omega
    cases g <;> simp [leb128Groups]
  | f + 1, 0, n, _, hg => by
    obtain rfl : n = 0 := by omega
    simp [leb128Groups]
  | f + 1, g + 1, n, hf, hg => by
    simp only [leb128Groups]
    split
    · rfl
    · rw [@leb128Groups_congr f g (n / 128) (by omega) (by omega)]

theorem leb128Groups_eq {fuel n : Nat} (h : n ≤ fuel) : leb128Groups fuel n = leb128 n :=
  leb128Groups_congr h le_rfl

/-- The recursion of the encoding: one group, then the groups of `n / 128`. -/
theorem leb128_eq (n : Nat) :
    leb128 n = if n < 128 then [UInt8.ofNat n]
      else UInt8.ofNat (n % 128 + 128) :: leb128 (n / 128) := by
  rcases n with _ | m
  · simp [leb128, leb128Groups]
  · rw [leb128, leb128Groups]
    split
    · rfl
    · rw [leb128Groups_eq (by omega)]

/-- **LEB128 takes one byte for each started group of seven bits**: at most `k + 1` bytes exactly
below `128 ^ (k + 1)`. -/
theorem length_leb128_le_iff (k n : Nat) : (leb128 n).length ≤ k + 1 ↔ n < 128 ^ (k + 1) := by
  induction k generalizing n with
  | zero =>
    rw [leb128_eq]
    split_ifs with h
    · simpa using h
    · have : 0 < (leb128 (n / 128)).length := by rw [leb128_eq]; split <;> simp
      simp only [List.length_cons, zero_add, pow_one]
      omega
  | succ k ih =>
    rw [leb128_eq]
    split_ifs with h
    · refine iff_of_true (by simp) ?_
      calc n < 128 := h
        _ ≤ 128 ^ (k + 1 + 1) := Nat.le_self_pow (by omega) _
    · rw [List.length_cons, Nat.add_le_add_iff_right, ih, pow_succ _ (k + 1),
        Nat.div_lt_iff_lt_mul (by omega)]

/-- Reads one LEB128 integer off the front of `bytes`, returning it with the bytes after it. -/
def leb128Decode : List UInt8 → Option (Nat × List UInt8)
  | [] => none
  | b :: rest =>
    if b.toNat < 128 then some (b.toNat, rest)
    else (leb128Decode rest).map fun (m, r) => (b.toNat - 128 + 128 * m, r)

/-- **LEB128 is self-delimiting**: decoding what it wrote gives the integer back and leaves the
bytes after it untouched. -/
theorem leb128Decode_leb128 (n : Nat) (rest : List UInt8) :
    leb128Decode (leb128 n ++ rest) = some (n, rest) := by
  induction n using Nat.strong_induction_on with
  | _ n ih =>
    rw [leb128_eq]
    split
    · simp [leb128Decode, Nat.mod_eq_of_lt (by omega : n < 256), *]
    · have hbyte : (n % 128 + 128) % 256 = n % 128 + 128 := Nat.mod_eq_of_lt (by omega)
      simp only [List.cons_append, leb128Decode, UInt8.toNat_ofNat', hbyte, List.append_eq,
        ih (n / 128) (by omega), Option.map_some', if_neg (show ¬ n % 128 + 128 < 128 by omega)]
      congr 2
      omega

/-! ## UTF-8 -/

/-- Modelled from the spec: a continuation byte, `10xxxxxx`. -/
def isContinuation (b : UInt8) : Bool := 0x80 ≤ b.toNat && b.toNat ≤ 0xBF

/-- Modelled from the spec: the range the second byte of a multi-byte sequence must lie in, by its
lead byte: it rules out overlong forms, the surrogates and code points past `U+10FFFF`. -/
def secondByteOk (lead b : UInt8) : Bool :=
  if lead.toNat = 0xE0 then 0xA0 ≤ b.toNat && b.toNat ≤ 0xBF
  else if lead.toNat = 0xED then 0x80 ≤ b.toNat && b.toNat ≤ 0x9F
  else if lead.toNat = 0xF0 then 0x90 ≤ b.toNat && b.toNat ≤ 0xBF
  else if lead.toNat = 0xF4 then 0x80 ≤ b.toNat && b.toNat ≤ 0x8F
  else isContinuation b

/-- Modelled from the spec: whether bytes are well-formed UTF-8, the test `std::str::from_utf8`
makes: the well-formed byte sequences of the Unicode standard, one code point at a time. -/
def utf8Valid : List UInt8 → Bool
  | [] => true
  | b₀ :: rest =>
    if b₀.toNat < 0x80 then utf8Valid rest
    else if 0xC2 ≤ b₀.toNat ∧ b₀.toNat ≤ 0xDF then
      match rest with
      | b₁ :: rest => isContinuation b₁ && utf8Valid rest
      | [] => false
    else if 0xE0 ≤ b₀.toNat ∧ b₀.toNat ≤ 0xEF then
      match rest with
      | b₁ :: b₂ :: rest => secondByteOk b₀ b₁ && isContinuation b₂ && utf8Valid rest
      | _ => false
    else if 0xF0 ≤ b₀.toNat ∧ b₀.toNat ≤ 0xF4 then
      match rest with
      | b₁ :: b₂ :: b₃ :: rest =>
        secondByteOk b₀ b₁ && isContinuation b₂ && isContinuation b₃ && utf8Valid rest
      | _ => false
    else false

/-- Modelled from the spec: a Rust `String`: its bytes are valid UTF-8, and like every allocation it
holds at most `isize::MAX` of them. -/
structure RustString where
  bytes : List UInt8
  valid : utf8Valid bytes = true
  length_le : bytes.length ≤ isizeMax
deriving DecidableEq

/-- Modelled from the spec: `std::str::from_utf8(bytes).ok().map(|s| s.to_string())`.  The length
test always passes on the slices Rust has, which are never longer than `isize::MAX`. -/
def fromUtf8 (bytes : List UInt8) : Option RustString :=
  if h : utf8Valid bytes = true ∧ bytes.length ≤ isizeMax then some ⟨bytes, h.1, h.2⟩ else none

@[simp] theorem fromUtf8_bytes (s : RustString) : fromUtf8 s.bytes = some s := by
  simp [fromUtf8, s.valid, s.length_le]

theorem fromUtf8_eq_none_iff {bytes : List UInt8} (h : bytes.length ≤ isizeMax) :
    fromUtf8 bytes = none ↔ utf8Valid bytes = false := by
  simp [fromUtf8, h]

theorem bytes_of_fromUtf8_eq_some {bytes : List UInt8} {s : RustString}
    (h : fromUtf8 bytes = some s) : s.bytes = bytes := by
  unfold fromUtf8 at h
  split at h
  · cases h; rfl
  · cases h

end MailServer
