import MailServer.Store.Bytes

/-!
# Parsing IP addresses

`IpAddr::from_str` of the Rust standard library, which `handle_session` applies to the text it
cuts out of a `Forwarded` or an `X-Forwarded-For` header.  The parser reads the text from the
left, one reader after another; a reader that fails gives its input back (`read_atomically`), so
a reader is a function from the text left to `none`, or to a value and the text it leaves.  An
address is accepted when its reader leaves nothing (`parse_with`).  The standard library is not
under `src/`: the parser and the address types are modelled from the spec.

Three facts about the readers carry the client-address results: each consumes only hexadecimal
digits, colons and dots (`Consumes`, proved reader by reader up to `consumes_readIpv6Addr`); each
reads a text as its lowercase (`CaseBlind`, whence `IpAddr.fromStr_toLower`); and an IPv4
address followed by anything that does not start with a digit is no address
(`IpAddr.fromStr_append_of_ipv4`).
-/

namespace MailServer

/-- Modelled from the spec: `Ipv4Addr`: its four octets. -/
structure Ipv4Addr where
  octets : List UInt8
  length_eq : octets.length = 4
deriving DecidableEq

/-- Modelled from the spec: `Ipv6Addr`: its eight 16-bit segments. -/
structure Ipv6Addr where
  segments : List UInt16
  length_eq : segments.length = 8
deriving DecidableEq

/-- Modelled from the spec: `IpAddr`. -/
inductive IpAddr
  | v4 (a : Ipv4Addr)
  | v6 (a : Ipv6Addr)
deriving DecidableEq

/-- Modelled from the spec: `Ipv4Addr::is_loopback`: the addresses `127.0.0.0/8`. -/
def Ipv4Addr.isLoopback (a : Ipv4Addr) : Bool := a.octets.head? == some 127

/-- Modelled from the spec: `Ipv6Addr::is_loopback`: the address `::1` alone. -/
def Ipv6Addr.isLoopback (a : Ipv6Addr) : Bool := a.segments == [0, 0, 0, 0, 0, 0, 0, 1]

/-- Modelled from the spec: `IpAddr::is_loopback`. -/
def IpAddr.isLoopback : IpAddr → Bool
  | .v4 a => a.isLoopback
  | .v6 a => a.isLoopback

/-! ## Characters -/

/-- Modelled from the spec: `str::to_ascii_lowercase`. -/
def toAsciiLowercase (s : List Char) : List Char := s.map Char.toLower

/-- Modelled from the spec: `char::to_digit` for the two radixes the parser uses: a decimal digit,
and for radix 16 also a letter from `a` to `f` in either case. -/
def toDigit (radix : Nat) (c : Char) : Option Nat :=
  if '0'.toNat ≤ c.toNat ∧ c.toNat ≤ '9'.toNat then some (c.toNat - '0'.toNat)
  else if radix = 16 ∧ 'a'.toNat ≤ c.toNat ∧ c.toNat ≤ 'f'.toNat then
    some (c.toNat - 'a'.toNat + 10)
  else if radix = 16 ∧ 'A'.toNat ≤ c.toNat ∧ c.toNat ≤ 'F'.toNat then
    some (c.toNat - 'A'.toNat + 10)
  else none

/-- The codes of the characters `toDigit` compares with. -/
theorem toNat_digit_bounds : '0'.toNat = 48 ∧ '9'.toNat = 57 ∧ 'a'.toNat = 97 ∧
    'f'.toNat = 102 ∧ 'A'.toNat = 65 ∧ 'F'.toNat = 70 := ⟨rfl, rfl, rfl, rfl, rfl, rfl⟩

theorem Char.eq_of_toNat_eq {a b : Char} (h : a.toNat = b.toNat) : a = b := by
  rw [← Char.ofNat_toNat a, h, Char.ofNat_toNat]

theorem toNat_toLower (c : Char) :
    c.toLower.toNat = if 65 ≤ c.toNat ∧ c.toNat ≤ 90 then c.toNat + 32 else c.toNat := by
  simp only [Char.toLower]
  split_ifs
  · rw [Char.ofNat, dif_pos (by unfold Nat.isValidChar; omega)]
    rfl
  · rfl

/-- A character that is no letter. -/
def NotLetter (t : Char) : Prop := ¬ (65 ≤ t.toNat ∧ t.toNat ≤ 90) ∧ ¬ (97 ≤ t.toNat ∧ t.toNat ≤ 122)

instance (t : Char) : Decidable (NotLetter t) := inferInstanceAs (Decidable (_ ∧ _))

/-- Lowercasing moves only the letters `A` to `Z`, onto `a` to `z`. -/
theorem toLower_eq_iff {c t : Char} (ht : NotLetter t) : c.toLower = t ↔ c = t := by
  have h := toNat_toLower c
  constructor
  · rintro rfl
    split_ifs at h <;> exact Char.eq_of_toNat_eq (by unfold NotLetter at ht; omega)
  · rintro rfl
    split_ifs at h
    · exact absurd ‹_› ht.1
    · exact Char.eq_of_toNat_eq h

theorem toDigit_toLower (radix : Nat) (c : Char) : toDigit radix c.toLower = toDigit radix c := by
  by_cases hu : 65 ≤ c.toNat ∧ c.toNat ≤ 90
  · have h : c.toLower.toNat = c.toNat + 32 := by rw [toNat_toLower, if_pos hu]
    have := toNat_digit_bounds
    unfold toDigit
    rw [h]
    split_ifs <;> (try simp only [Option.some.injEq]) <;> omega
  · rw [Char.eq_of_toNat_eq (by rw [toNat_toLower, if_neg hu] : c.toLower.toNat = c.toNat)]

/-! ## The readers -/

/-- Modelled from the spec: `Parser::read_given_char`. -/
def readGivenChar (target : Char) : List Char → Option (Unit × List Char)
  | c :: s => if c = target then some ((), s) else none
  | [] => none

/-- Modelled from the spec: the loop of `Parser::read_number`: digits as long as they come, the read
failing at digit `maxDigits + 1`; `result` and `count` are the value and the number of digits so
far. -/
def readDigits (radix maxDigits : Nat) (result count : Nat) :
    List Char → Option (Nat × Nat × List Char)
  | [] => some (result, count, [])
  | c :: s =>
    match toDigit radix c with
    | none => some (result, count, c :: s)
    | some digit =>
      if maxDigits < count + 1 then none
      else readDigits radix maxDigits (result * radix + digit) (count + 1) s

/-- Modelled from the spec: `Parser::read_number` with `max_digits` given, into an integer type of
maximum `max`: at least one digit, no leading zero unless `allowZeroPrefix`, and a value the type
holds (`try_into`). -/
def readNumber (radix maxDigits max : Nat) (allowZeroPrefix : Bool) (s : List Char) :
    Option (Nat × List Char) :=
  let hasLeadingZero := s.head? == some '0'
  match readDigits radix maxDigits 0 0 s with
  | none => none
  | some (result, count, rest) =>
    if count = 0 then none
    else if !allowZeroPrefix && hasLeadingZero && 1 < count then none
    else if result ≤ max then some (result, rest) else none

/-- Modelled from the spec: `Parser::read_separator`: the separator unless `index` is `0`, then
`inner`. -/
def readSeparator {α : Type} (sep : Char) (index : Nat) (inner : List Char → Option (α × List Char))
    (s : List Char) : Option (α × List Char) :=
  if 0 < index then (readGivenChar sep s).bind fun (_, s) => inner s else inner s

/-- Modelled from the spec: an octet of an IPv4 address: `read_number::<u8>(10, Some(3), false)`. -/
def readOctet (s : List Char) : Option (UInt8 × List Char) :=
  (readNumber 10 3 255 false s).map fun (n, s) => (UInt8.ofNat n, s)

/-- Modelled from the spec: the loop of `Parser::read_ipv4_addr` at slot `i`, with `k` slots left:
octets separated by dots. -/
def readOctets : (i k : Nat) → List Char → Option (List UInt8 × List Char)
  | _, 0, s => some ([], s)
  | i, k + 1, s => do
    let (o, s) ← readSeparator '.' i readOctet s
    let (os, s) ← readOctets (i + 1) k s
    pure (o :: os, s)

/-- Modelled from the spec: `groups.into()` in `Parser::read_ipv4_addr`: the zeroed array of four
octets, filled from its start. -/
def Ipv4Addr.ofOctets (octets : List UInt8) : Ipv4Addr where
  octets := (octets ++ List.replicate 4 0).take 4
  length_eq := by simp

/-- Modelled from the spec: `Parser::read_ipv4_addr`: four octets separated by dots. -/
def readIpv4Addr (s : List Char) : Option (Ipv4Addr × List Char) :=
  (readOctets 0 4 s).map fun (octets, s) => (Ipv4Addr.ofOctets octets, s)

/-- Modelled from the spec: a group of an IPv6 address: `read_number::<u16>(16, Some(4), true)`. -/
def readGroup (s : List Char) : Option (UInt16 × List Char) :=
  (readNumber 16 4 0xFFFF true s).map fun (n, s) => (UInt16.ofNat n, s)

/-- Modelled from the spec: `read_groups` in `Parser::read_ipv6_addr`, at slot `i` with `k` slots
left: groups separated by colons; while two slots are left, an embedded IPv4 address is tried first
and ends the read; the read stops at the first slot that does not read.  The groups read, whether
the last two came from an IPv4 address, and the text left. -/
def readGroups : (i k : Nat) → List Char → List UInt16 × Bool × List Char
  | _, 0, s => ([], false, s)
  | i, k + 1, s =>
    match (if 0 < k then readSeparator ':' i readIpv4Addr s else none) with
    | some (v4, s) =>
      ([UInt16.ofNat (fromBeBytes (v4.octets.take 2)),
        UInt16.ofNat (fromBeBytes (v4.octets.drop 2))], true, s)
    | none =>
      match readSeparator ':' i readGroup s with
      | some (g, s) =>
        let rest := readGroups (i + 1) k s
        (g :: rest.1, rest.2.1, rest.2.2)
      | none => ([], false, s)

/-- Modelled from the spec: the zeroed array of eight groups that holds `head` from its start and
`tail` at its end: `head.into()` in `Parser::read_ipv6_addr` when there is no tail, and what
`head[(8 - tail_size)..8].copy_from_slice(&tail)` makes of it otherwise. -/
def Ipv6Addr.ofHeadTail (head tail : List UInt16) : Ipv6Addr where
  segments := (head ++ List.replicate 8 0).take (8 - tail.length) ++ tail.take 8
  length_eq := by simp; omega

/-- Modelled from the spec: `Parser::read_ipv6_addr`: eight groups, or a head and a tail of fewer
around `::`, which stands for the zero groups between them; an embedded IPv4 address only at the
end. -/
def readIpv6Addr (s : List Char) : Option (Ipv6Addr × List Char) :=
  let (head, headIpv4, s) := readGroups 0 8 s
  if head.length = 8 then some (Ipv6Addr.ofHeadTail head [], s)
  else if headIpv4 then none
  else do
    let ((), s) ← readGivenChar ':' s
    let ((), s) ← readGivenChar ':' s
    let (tail, _, s) := readGroups 0 (8 - (head.length + 1)) s
    pure (Ipv6Addr.ofHeadTail head tail, s)

/-- Modelled from the spec: `Parser::read_ip_addr`: an IPv4 address, or else an IPv6 one. -/
def readIpAddr (s : List Char) : Option (IpAddr × List Char) :=
  ((readIpv4Addr s).map fun (a, s) => (.v4 a, s)).orElse
    fun _ => (readIpv6Addr s).map fun (a, s) => (.v6 a, s)

/-- Modelled from the spec: `Parser::parse_with`: the value of a reader that leaves nothing of the
text. -/
def parseWith {α : Type} (read : List Char → Option (α × List Char)) (s : List Char) : Option α :=
  match read s with
  | some (a, []) => some a
  | _ => none

/-- Modelled from the spec: `Ipv4Addr::from_str`. -/
def Ipv4Addr.fromStr : List Char → Option Ipv4Addr := parseWith readIpv4Addr

/-- Modelled from the spec: `Ipv6Addr::from_str`. -/
def Ipv6Addr.fromStr : List Char → Option Ipv6Addr := parseWith readIpv6Addr

/-- Modelled from the spec: `IpAddr::from_str`. -/
def IpAddr.fromStr : List Char → Option IpAddr := parseWith readIpAddr

/-! ## What a reader consumes -/

/-- The characters of an address: hexadecimal digits, colons, and the dots of IPv4. -/
def AddrChar (c : Char) : Prop := (toDigit 16 c).isSome ∨ c = ':' ∨ c = '.'

theorem toDigit_sixteen_isSome_iff {c : Char} : (toDigit 16 c).isSome ↔
    (48 ≤ c.toNat ∧ c.toNat ≤ 57) ∨ (97 ≤ c.toNat ∧ c.toNat ≤ 102) ∨
      (65 ≤ c.toNat ∧ c.toNat ≤ 70) := by
  have := toNat_digit_bounds
  unfold toDigit
  split_ifs <;> simp <;> omega

theorem toDigit_sixteen_isSome {c : Char} (h : (toDigit 10 c).isSome) : (toDigit 16 c).isSome := by
  unfold toDigit at *
  split_ifs at h <;> simp_all

section Consumes

variable {α β : Type} {P Q : Char → Prop} {s t u : List Char}

/-- `t` is what is left of `s` after a run of characters `P` holds of. -/
def Leaves (P : Char → Prop) (s t : List Char) : Prop := ∃ r, s = r ++ t ∧ ∀ c ∈ r, P c

theorem Leaves.refl (s : List Char) : Leaves P s s := ⟨[], rfl, by simp⟩

theorem Leaves.trans (h₁ : Leaves P s t) (h₂ : Leaves P t u) : Leaves P s u := by
  obtain ⟨r₁, rfl, hr₁⟩ := h₁
  obtain ⟨r₂, rfl, hr₂⟩ := h₂
  refine ⟨r₁ ++ r₂, by simp, fun c hc => ?_⟩
  rcases List.mem_append.1 hc with hc | hc
  exacts [hr₁ c hc, hr₂ c hc]

theorem Leaves.cons {c : Char} (hc : P c) (h : Leaves P s t) : Leaves P (c :: s) t :=
  Leaves.trans ⟨[c], rfl, by simpa⟩ h

theorem Leaves.mono (h : Leaves P s t) (hPQ : ∀ c, P c → Q c) : Leaves Q s t :=
  let ⟨r, hs, hr⟩ := h
  ⟨r, hs, fun c hc => hPQ c (hr c hc)⟩

/-- A reader consumes only characters `P` holds of. -/
def Consumes (P : Char → Prop) (read : List Char → Option (α × List Char)) : Prop :=
  ∀ ⦃s a t⦄, read s = some (a, t) → Leaves P s t

theorem Consumes.mono {read : List Char → Option (α × List Char)} (h : Consumes P read)
    (hPQ : ∀ c, P c → Q c) : Consumes Q read := fun _ _ _ hr => (h hr).mono hPQ

theorem Consumes.map {read : List Char → Option (α × List Char)} (h : Consumes P read)
    (f : α → β) : Consumes P (fun s => (read s).map fun (a, s) => (f a, s)) := by
  intro s b t hr
  obtain ⟨⟨a, t'⟩, hr, he⟩ := Option.map_eq_some'.1 hr
  cases he
  exact h hr

theorem consumes_readGivenChar (target : Char) : Consumes (· = target) (readGivenChar target)
  | [], _, _, h => nomatch h
  | c :: s, _, _, h => by
    simp only [readGivenChar] at h
    split at h
    · cases h
      exact .cons ‹_› (.refl s)
    · cases h

theorem readDigits_consumes {radix maxDigits result count value n : Nat}
    (h : readDigits radix maxDigits result count s = some (value, n, t)) :
    Leaves (fun c => (toDigit radix c).isSome) s t := by
  induction s generalizing result count with
  | nil =>
    cases h
    exact .refl _
  | cons c s ih =>
    simp only [readDigits] at h
    split at h
    · cases h
      exact .refl _
    · rename_i hc
      split at h
      · cases h
      · exact .cons (by simp [hc]) (ih h)

theorem consumes_readNumber (radix maxDigits max : Nat) (allowZeroPrefix : Bool) :
    Consumes (fun c => (toDigit radix c).isSome) (readNumber radix maxDigits max allowZeroPrefix) := by
  intro s a t h
  simp only [readNumber] at h
  split at h
  · cases h
  · rename_i hd
    split_ifs at h
    cases h
    exact readDigits_consumes hd

theorem consumes_readSeparator {inner : List Char → Option (α × List Char)} {sep : Char}
    (i : Nat) (hsep : P sep) (h : Consumes P inner) : Consumes P (readSeparator sep i inner) := by
  intro s a t hr
  unfold readSeparator at hr
  split_ifs at hr
  · obtain ⟨⟨_, s'⟩, hs', hr'⟩ := Option.bind_eq_some.1 hr
    exact ((consumes_readGivenChar sep hs').mono fun c hc => hc ▸ hsep).trans
      (h (show inner s' = some (a, t) from hr'))
  · exact h hr

theorem consumes_readOctet : Consumes AddrChar readOctet :=
  ((consumes_readNumber 10 3 255 false).map _).mono fun _ h => .inl (toDigit_sixteen_isSome h)

theorem consumes_readOctets (i k : Nat) : Consumes AddrChar (readOctets i k) := by
  induction k generalizing i with
  | zero =>
    intro s os t h
    cases h
    exact .refl s
  | succ k ih =>
    intro s os t h
    simp only [readOctets, Option.bind_eq_bind, Option.bind_eq_some] at h
    obtain ⟨⟨o, s₁⟩, h₁, ⟨os', s₂⟩, h₂, h₃⟩ := h
    cases h₃
    exact (consumes_readSeparator i (.inr (.inr rfl)) consumes_readOctet h₁).trans (ih (i + 1) h₂)

theorem consumes_readIpv4Addr : Consumes AddrChar readIpv4Addr :=
  (consumes_readOctets 0 4).map _

theorem consumes_readGroup : Consumes AddrChar readGroup :=
  ((consumes_readNumber 16 4 0xFFFF true).map _).mono fun _ h => .inl h

theorem readGroups_leaves (i k : Nat) (s : List Char) :
    Leaves AddrChar s (readGroups i k s).2.2 := by
  induction k generalizing i s with
  | zero => exact .refl s
  | succ k ih =>
    simp only [readGroups]
    split
    · rename_i h
      split at h
      · exact consumes_readSeparator i (.inr (.inl rfl)) consumes_readIpv4Addr h
      · cases h
    · split
      · exact (consumes_readSeparator i (.inr (.inl rfl)) consumes_readGroup ‹_›).trans (ih _ _)
      · exact .refl s

theorem consumes_readIpv6Addr : Consumes AddrChar readIpv6Addr := by
  intro s a t h
  rcases hg : readGroups 0 8 s with ⟨head, headIpv4, s₁⟩
  have hs₁ : Leaves AddrChar s s₁ := by simpa [hg] using readGroups_leaves 0 8 s
  simp only [readIpv6Addr, hg] at h
  split_ifs at h
  · cases h
    exact hs₁
  · simp only [Option.bind_eq_bind, Option.bind_eq_some] at h
    obtain ⟨⟨_, s₂⟩, h₂, ⟨_, s₃⟩, h₃, h₄⟩ := h
    cases h₄
    have hcolons : Leaves AddrChar s₁ s₃ :=
      ((consumes_readGivenChar ':' h₂).trans (consumes_readGivenChar ':' h₃)).mono
        fun c hc => hc ▸ .inr (.inl rfl)
    exact hs₁.trans (hcolons.trans (readGroups_leaves _ _ _))

/-- A text a reader reads to its end is made of the characters it consumes. -/
theorem Consumes.of_parseWith {read : List Char → Option (α × List Char)} (h : Consumes P read)
    {s : List Char} {a : α} (hs : parseWith read s = some a) : ∀ c ∈ s, P c := by
  unfold parseWith at hs
  split at hs
  · obtain ⟨r, rfl, hr⟩ := h ‹_›
    simpa using hr
  · cases hs

end Consumes

/-! ## Lowercasing -/

section CaseBlind

variable {α β : Type}

/-- Lowercasing the text changes neither whether a reader reads nor what it reads; the text it
leaves comes out lowercased. -/
def CaseBlind (read : List Char → Option (α × List Char)) : Prop :=
  ∀ s, read (toAsciiLowercase s) = (read s).map fun (a, t) => (a, toAsciiLowercase t)

theorem CaseBlind.map {read : List Char → Option (α × List Char)} (h : CaseBlind read)
    (f : α → β) : CaseBlind (fun s => (read s).map fun (a, s) => (f a, s)) := by
  intro s
  simp only [h s, Option.map_map]
  rcases read s with _ | ⟨a, t⟩ <;> rfl

theorem caseBlind_readGivenChar {target : Char} (ht : NotLetter target) :
    CaseBlind (readGivenChar target)
  | [] => rfl
  | c :: s => by
    simp only [toAsciiLowercase, List.map_cons, readGivenChar, toLower_eq_iff ht]
    split_ifs <;> rfl

theorem readDigits_toLower (radix maxDigits result count : Nat) (s : List Char) :
    readDigits radix maxDigits result count (toAsciiLowercase s) =
      (readDigits radix maxDigits result count s).map
        fun (v, n, t) => (v, n, toAsciiLowercase t) := by
  induction s generalizing result count with
  | nil => rfl
  | cons c s ih =>
    simp only [toAsciiLowercase, List.map_cons, readDigits, toDigit_toLower] at ih ⊢
    split
    · rfl
    · split_ifs
      · rfl
      · exact ih _ _

theorem caseBlind_readNumber (radix maxDigits max : Nat) (allowZeroPrefix : Bool) :
    CaseBlind (readNumber radix maxDigits max allowZeroPrefix) := by
  intro s
  have hzero : ((toAsciiLowercase s).head? == some '0') = (s.head? == some '0') := by
    cases s with
    | nil => rfl
    | cons c s =>
      simp [toAsciiLowercase, toLower_eq_iff (show NotLetter '0' by decide)]
  simp only [readNumber, readDigits_toLower, hzero]
  rcases readDigits radix maxDigits 0 0 s with _ | ⟨v, n, t⟩
  · rfl
  · simp only [Option.map_some']
    split_ifs <;> rfl

theorem caseBlind_readSeparator {inner : List Char → Option (α × List Char)} {sep : Char}
    (i : Nat) (hsep : NotLetter sep) (h : CaseBlind inner) :
    CaseBlind (readSeparator sep i inner) := by
  intro s
  unfold readSeparator
  split_ifs
  · rw [caseBlind_readGivenChar hsep s]
    rcases readGivenChar sep s with _ | ⟨_, t⟩
    · rfl
    · exact h t
  · exact h s

theorem caseBlind_readOctet : CaseBlind readOctet := (caseBlind_readNumber 10 3 255 false).map _

theorem caseBlind_readGroup : CaseBlind readGroup := (caseBlind_readNumber 16 4 0xFFFF true).map _

theorem caseBlind_readOctets (i k : Nat) : CaseBlind (readOctets i k) := by
  induction k generalizing i with
  | zero => intro s; rfl
  | succ k ih =>
    intro s
    simp only [readOctets, Option.bind_eq_bind,
      caseBlind_readSeparator i (show NotLetter '.' by decide) caseBlind_readOctet s]
    rcases readSeparator '.' i readOctet s with _ | ⟨o, t⟩
    · rfl
    · simp only [Option.map_some', Option.some_bind, ih (i + 1) t]
      rcases readOctets (i + 1) k t with _ | ⟨os, u⟩ <;> rfl

theorem caseBlind_readIpv4Addr : CaseBlind readIpv4Addr :=
  (caseBlind_readOctets 0 4).map _

theorem readGroups_toLower (i k : Nat) (s : List Char) :
    readGroups i k (toAsciiLowercase s) =
      ((readGroups i k s).1, (readGroups i k s).2.1, toAsciiLowercase (readGroups i k s).2.2) := by
  induction k generalizing i s with
  | zero => rfl
  | succ k ih =>
    have hv4 := caseBlind_readSeparator i (show NotLetter ':' by decide) caseBlind_readIpv4Addr s
    have hg := caseBlind_readSeparator i (show NotLetter ':' by decide) caseBlind_readGroup s
    simp only [readGroups]
    split_ifs
    · rw [hv4]
      rcases readSeparator ':' i readIpv4Addr s with _ | ⟨v4, t⟩
      · simp only [Option.map_none']
        rw [hg]
        rcases readSeparator ':' i readGroup s with _ | ⟨g, u⟩
        · rfl
        · simp only [Option.map_some', ih]
      · rfl
    · rw [hg]
      rcases readSeparator ':' i readGroup s with _ | ⟨g, u⟩
      · rfl
      · simp only [Option.map_some', ih]

theorem caseBlind_readIpv6Addr : CaseBlind readIpv6Addr := by
  intro s
  have hcolon := caseBlind_readGivenChar (show NotLetter ':' by decide)
  simp only [readIpv6Addr, readGroups_toLower 0 8 s]
  rcases readGroups 0 8 s with ⟨head, headIpv4, s₁⟩
  dsimp only
  split_ifs
  · rfl
  · rfl
  · simp only [Option.bind_eq_bind, hcolon s₁]
    rcases readGivenChar ':' s₁ with _ | ⟨_, s₂⟩
    · rfl
    · simp only [Option.map_some', Option.some_bind, hcolon s₂]
      rcases readGivenChar ':' s₂ with _ | ⟨_, s₃⟩
      · rfl
      · simp only [Option.map_some', Option.some_bind, readGroups_toLower]
        rfl

theorem caseBlind_readIpAddr : CaseBlind readIpAddr := by
  intro s
  simp only [readIpAddr, caseBlind_readIpv4Addr s, caseBlind_readIpv6Addr s]
  rcases readIpv4Addr s with _ | ⟨a, t⟩
  · rcases readIpv6Addr s with _ | ⟨a, t⟩ <;> rfl
  · rfl

theorem CaseBlind.parseWith {read : List Char → Option (α × List Char)} (h : CaseBlind read)
    (s : List Char) : parseWith read (toAsciiLowercase s) = parseWith read s := by
  simp only [MailServer.parseWith, h s]
  rcases read s with _ | ⟨a, _ | ⟨c, t⟩⟩ <;> rfl

end CaseBlind

theorem IpAddr.fromStr_toLower (s : List Char) :
    IpAddr.fromStr (toAsciiLowercase s) = IpAddr.fromStr s :=
  caseBlind_readIpAddr.parseWith s

/-! ## Text after an address -/

section Extends

variable {α β : Type} {r : List Char}

/-- Reading `s` with `r` after it reads what reading `s` reads, and leaves `r` after the rest. -/
def Extends (r : List Char) (read : List Char → Option (α × List Char)) : Prop :=
  ∀ ⦃s a t⦄, read s = some (a, t) → read (s ++ r) = some (a, t ++ r)

theorem Extends.map {read : List Char → Option (α × List Char)} (h : Extends r read)
    (f : α → β) : Extends r (fun s => (read s).map fun (a, s) => (f a, s)) := by
  intro s b t hr
  obtain ⟨⟨a, t'⟩, hr, he⟩ := Option.map_eq_some'.1 hr
  cases he
  simp [h hr]

theorem extends_readGivenChar (target : Char) : Extends r (readGivenChar target)
  | [], _, _, h => nomatch h
  | c :: s, _, _, h => by
    simp only [readGivenChar, List.cons_append] at h ⊢
    split_ifs at h ⊢
    cases h
    rfl

/-- The digit loop stops where `r` starts, `r` starting with no digit. -/
theorem readDigits_append {radix maxDigits result count v n : Nat} {s t : List Char}
    (hr : ∀ c ∈ r.head?, toDigit radix c = none)
    (h : readDigits radix maxDigits result count s = some (v, n, t)) :
    readDigits radix maxDigits result count (s ++ r) = some (v, n, t ++ r) := by
  induction s generalizing result count with
  | nil =>
    cases h
    cases r with
    | nil => rfl
    | cons c r => simp [readDigits, hr c rfl]
  | cons c s ih =>
    simp only [readDigits, List.cons_append] at h ⊢
    cases hc : toDigit radix c with
    | none =>
      simp only [hc, Option.some.injEq, Prod.mk.injEq] at h ⊢
      obtain ⟨rfl, rfl, rfl⟩ := h
      simp
    | some d =>
      simp only [hc] at h ⊢
      split_ifs at h ⊢
      exact ih h

theorem extends_readNumber {radix maxDigits max : Nat} {allowZeroPrefix : Bool}
    (hr : ∀ c ∈ r.head?, toDigit radix c = none) :
    Extends r (readNumber radix maxDigits max allowZeroPrefix) := by
  intro s a t h
  cases s with
  | nil => simp [readNumber, readDigits] at h
  | cons c s =>
    simp only [readNumber] at h ⊢
    split at h
    · cases h
    · rename_i hd
      rw [readDigits_append hr hd]
      simpa using h

theorem extends_readSeparator {inner : List Char → Option (α × List Char)} {sep : Char}
    (i : Nat) (h : Extends r inner) : Extends r (readSeparator sep i inner) := by
  intro s a t hs
  unfold readSeparator at hs ⊢
  split_ifs at hs ⊢
  · obtain ⟨⟨_, s'⟩, hs', hr'⟩ := Option.bind_eq_some.1 hs
    rw [extends_readGivenChar sep hs']
    exact h (show inner s' = some (a, t) from hr')
  · exact h hs

theorem extends_readOctets (hr : ∀ c ∈ r.head?, toDigit 10 c = none) (i k : Nat) :
    Extends r (readOctets i k) := by
  induction k generalizing i with
  | zero =>
    intro s os t h
    cases h
    rfl
  | succ k ih =>
    intro s os t h
    simp only [readOctets, Option.bind_eq_bind, Option.bind_eq_some] at h ⊢
    obtain ⟨⟨o, s₁⟩, h₁, ⟨os', s₂⟩, h₂, h₃⟩ := h
    cases h₃
    exact ⟨(o, s₁ ++ r), extends_readSeparator i ((extends_readNumber hr).map _) h₁,
      (os', s₂ ++ r), ih (i + 1) h₂, rfl⟩

theorem extends_readIpv4Addr (hr : ∀ c ∈ r.head?, toDigit 10 c = none) :
    Extends r readIpv4Addr :=
  (extends_readOctets hr 0 4).map _

end Extends

/-! ## Which family an address is read as -/

theorem parseWith_eq_some {α : Type} {read : List Char → Option (α × List Char)} {s : List Char}
    {a : α} : parseWith read s = some a ↔ read s = some (a, []) := by
  unfold parseWith
  split <;> simp_all

/-- An IPv4 address is never the start of an IPv6 one: `read_groups` takes it for an embedded
address in the first slot, which may not stand before `::`. -/
theorem readIpv6Addr_of_readIpv4Addr {s : List Char} {x : Ipv4Addr × List Char}
    (h : readIpv4Addr s = some x) : readIpv6Addr s = none := by
  simp [readIpv6Addr, readGroups, readSeparator, h]

theorem IpAddr.fromStr_of_ipv4 {s : List Char} {a : Ipv4Addr} (h : Ipv4Addr.fromStr s = some a) :
    IpAddr.fromStr s = some (.v4 a) := by
  rw [Ipv4Addr.fromStr, parseWith_eq_some] at h
  simp [IpAddr.fromStr, parseWith_eq_some, readIpAddr, h]

theorem IpAddr.fromStr_of_ipv6 {s : List Char} {a : Ipv6Addr} (h : Ipv6Addr.fromStr s = some a) :
    IpAddr.fromStr s = some (.v6 a) := by
  rw [Ipv6Addr.fromStr, parseWith_eq_some] at h
  have h4 : readIpv4Addr s = none := by
    cases h4 : readIpv4Addr s with
    | none => rfl
    | some x => rw [readIpv6Addr_of_readIpv4Addr h4] at h; cases h
  simp [IpAddr.fromStr, parseWith_eq_some, readIpAddr, h, h4]

/-- Text after an IPv4 address that does not start with a digit is text the parser does not
read: the address with it is no address. -/
theorem IpAddr.fromStr_append_of_ipv4 {s r : List Char} {a : Ipv4Addr}
    (h : Ipv4Addr.fromStr s = some a) (hr : r ≠ []) (hr' : ∀ c ∈ r.head?, toDigit 10 c = none) :
    IpAddr.fromStr (s ++ r) = none := by
  rw [Ipv4Addr.fromStr, parseWith_eq_some] at h
  have h' := extends_readIpv4Addr hr' h
  simp only [IpAddr.fromStr, parseWith, readIpAddr, h', List.nil_append, Option.map_some',
    Option.orElse]
  split <;> simp_all

end MailServer
