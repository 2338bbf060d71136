import MailServer.Http.IpAddr
import Mathlib.Data.Nat.Digits

/-!
# Writing IP addresses

`Display for IpAddr` of the Rust standard library, which writes the local address into the
fallback session URL (`resolve_response_url`): an IPv4 address as its four octets in decimal; an
IPv6 address as its eight segments in hexadecimal, the first of its longest runs of two zero
segments or more written `::`, and an IPv4-mapped one as `::ffff:` and the IPv4 address.  The
standard library is not under `src/`: `Display` is modelled from the spec.

What `Display` writes, `IpAddr::from_str` reads back to the same address
(`IpAddr.fromStr_display`).  The IPv6 half rests on the invariant of the loop that finds the run
to compress (`zeroRun_zeroSpan`: what it finds is a run of zero segments), and on the reader of
the groups, which reads the hexadecimal segments `fmt_subslice` writes up to the `::`, and after
it the rest (`readGroups_fmtSubslice`).
-/

namespace MailServer
/-! ## Writing numbers and addresses -/

/-- Modelled from the spec: `n` in base `radix` as `{}` (radix 10) and `{:x}` (radix 16) write an
integer: the digits from the last, each put before the ones already written, until the quotient is
zero. -/
def formatRadix (radix n : Nat) : List Char := Nat.toDigits radix n

/-- Modelled from the spec: `Display for Ipv4Addr`: `{}.{}.{}.{}` of the four octets. -/
def Ipv4Addr.display (a : Ipv4Addr) : List Char :=
  formatRadix 10 (a.octets.getD 0 0).toNat ++ '.' :: formatRadix 10 (a.octets.getD 1 0).toNat ++
    '.' :: formatRadix 10 (a.octets.getD 2 0).toNat ++ '.' :: formatRadix 10 (a.octets.getD 3 0).toNat

/-- Modelled from the spec: `Ipv6Addr::to_ipv4_mapped`: the IPv4 address of `::ffff:a.b.c.d`. -/
def Ipv6Addr.toIpv4Mapped (a : Ipv6Addr) : Option Ipv4Addr :=
  if a.segments.take 6 = [0, 0, 0, 0, 0, 0xffff] then
    some (.ofOctets ((a.segments.drop 6).flatMap fun g =>
      [(g.toNat / 256).toUInt8, (g.toNat % 256).toUInt8]))
  else none

/-- Modelled from the spec: a run of segments: where it starts and how many segments it has. -/
structure Span where
  start : Nat
  len : Nat

/-- Modelled from the spec: the loop of `Display for Ipv6Addr` that finds the first of the longest
runs of zero segments, from the segment at index `i` on: `longest` and `current` as the loop has
them. -/
def zeroSpan (longest current : Span) (i : Nat) : List UInt16 → Span
  | [] => longest
  | g :: rest =>
    if g = 0 then
      let current : Span :=
        ⟨if current.len = 0 then i else current.start, current.len + 1⟩
      zeroSpan (if current.len > longest.len then current else longest) current (i + 1) rest
    else zeroSpan longest ⟨0, 0⟩ (i + 1) rest

/-- Modelled from the spec: `fmt_subslice`: the first segment in hexadecimal, then a colon and the
next one for each of the others. -/
def fmtSubslice : List UInt16 → List Char
  | [] => []
  | first :: tail => formatRadix 16 first.toNat ++ tail.flatMap fun g => ':' :: formatRadix 16 g.toNat

/-- Modelled from the spec: `Display for Ipv6Addr`: an IPv4-mapped address as `::ffff:` and the IPv4
address; any other with the first of its longest runs of two zero segments or more written `::`. -/
def Ipv6Addr.display (a : Ipv6Addr) : List Char :=
  match a.toIpv4Mapped with
  | some ipv4 => "::ffff:".toList ++ ipv4.display
  | none =>
    let zeroes := zeroSpan ⟨0, 0⟩ ⟨0, 0⟩ 0 a.segments
    if zeroes.len > 1 then
      fmtSubslice (a.segments.take zeroes.start) ++ "::".toList ++
        fmtSubslice (a.segments.drop (zeroes.start + zeroes.len))
    else fmtSubslice a.segments

/-- Modelled from the spec: `Display for IpAddr`. -/
def IpAddr.display : IpAddr → List Char
  | .v4 a => a.display
  | .v6 a => a.display

/-! ## Digits -/

/-- The characters of the digits below 16 are the digits `toDigit` reads, in both radixes. -/
theorem toDigit_digitChar {radix d : Nat} (hr : radix = 10 ∨ radix = 16) (hd : d < radix) :
    toDigit radix (Nat.digitChar d) = some d := by
  have h16 : ∀ d < 16, toDigit 16 (Nat.digitChar d) = some d := by decide
  have h10 : ∀ d < 10, toDigit 10 (Nat.digitChar d) = some d := by decide
  rcases hr with rfl | rfl
  exacts [h10 d hd, h16 d hd]

theorem foldr_eq_ofDigits (b : Nat) (l : List Nat) :
    l.foldr (fun d n => n * b + d) 0 = Nat.ofDigits b l := by
  induction l with
  | nil => rfl
  | cons d l ih => rw [List.foldr_cons, ih, Nat.ofDigits_cons]; ring

/-- The digit loop reads digits it is given, as long as there are no more than it allows. -/
theorem readDigits_map_digitChar {radix maxDigits : Nat} (hr : radix = 10 ∨ radix = 16)
    (ds : List Nat) (hds : ∀ d ∈ ds, d < radix) (result count : Nat)
    (hlen : count + ds.length ≤ maxDigits) :
    readDigits radix maxDigits result count (ds.map Nat.digitChar) =
      some (ds.foldl (fun n d => n * radix + d) result, count + ds.length, []) := by
  induction ds generalizing result count with
  | nil => rfl
  | cons d ds ih =>
    have hd := toDigit_digitChar hr (hds d (.head _))
    have hlen' : count + 1 + ds.length ≤ maxDigits := by simp at hlen; omega
    simp only [List.map_cons, readDigits, hd]
    rw [if_neg (by omega), ih (fun d h => hds d (.tail _ h)) _ _ hlen']
    simp [Nat.add_assoc, Nat.add_comm 1]

/-- The loop of `formatRadix`, given more turns than `n` has digits, writes the digits of `n`,
most significant first, with no leading zero, and `0` for zero. -/
theorem toDigitsCore_eq {b : Nat} (hb : 1 < b) :
    ∀ (fuel n : Nat) (ds : List Char), n < fuel →
      Nat.toDigitsCore b fuel n ds =
        (if n = 0 then ['0'] else (Nat.digits b n).reverse.map Nat.digitChar) ++ ds
  | 0, _, _, h => absurd h (Nat.not_lt_zero _)
  | fuel + 1, n, ds, h => by
    simp only [Nat.toDigitsCore]
    by_cases hq : n / b = 0
    · have hn : n < b := (Nat.div_eq_zero_iff (by omega)).1 hq
      rw [if_pos hq]
      by_cases h0 : n = 0
      · subst h0
        simp only [Nat.zero_mod, if_true]
        rfl
      · rw [if_neg h0, Nat.digits_of_lt b n h0 hn, Nat.mod_eq_of_lt hn]
        rfl
    · have h0 : n ≠ 0 := by rintro rfl; simp at hq
      have hlt : n / b < fuel := by
        have := Nat.div_lt_self (Nat.pos_of_ne_zero h0) hb
        omega
      rw [if_neg hq, toDigitsCore_eq hb fuel (n / b) _ hlt, if_neg hq, if_neg h0,
        Nat.digits_def' hb (Nat.pos_of_ne_zero h0)]
      simp

theorem formatRadix_zero {radix : Nat} (hb : 1 < radix) : formatRadix radix 0 = ['0'] := by
  simpa using toDigitsCore_eq hb 1 0 [] Nat.one_pos

theorem formatRadix_eq_map {radix n : Nat} (hb : 1 < radix) (hn : n ≠ 0) :
    formatRadix radix n = (Nat.digits radix n).reverse.map Nat.digitChar := by
  simpa [hn] using toDigitsCore_eq hb (n + 1) n [] (Nat.lt_succ_self n)

/-- The digits `formatRadix` writes, read back. -/
theorem readDigits_formatRadix {radix maxDigits : Nat} (hr : radix = 10 ∨ radix = 16) (n : Nat)
    (hn : n < radix ^ maxDigits) (hmax : 0 < maxDigits) :
    ∃ count, readDigits radix maxDigits 0 0 (formatRadix radix n) = some (n, count, []) ∧
      0 < count ∧ (count = 1 ∨ (formatRadix radix n).head? ≠ some '0') := by
  have hb : 1 < radix := by omega
  by_cases h0 : n = 0
  · subst h0
    refine ⟨1, ?_, Nat.one_pos, .inl rfl⟩
    have := readDigits_map_digitChar hr [0] (by simp; omega) 0 0 (by simpa using hmax)
    simpa [formatRadix_zero hb] using this
  · have hlen : (Nat.digits radix n).length ≤ maxDigits := by
      rw [Nat.digits_len radix n hb h0]
      exact Nat.log_lt_of_lt_pow h0 hn
    have hds : ∀ d ∈ (Nat.digits radix n).reverse, d < radix :=
      fun d h => Nat.digits_lt_base hb (List.mem_reverse.1 h)
    refine ⟨(Nat.digits radix n).length, ?_, ?_, .inr ?_⟩
    · rw [formatRadix_eq_map hb h0, readDigits_map_digitChar hr _ hds 0 0 (by simpa using hlen),
        List.foldl_reverse, foldr_eq_ofDigits, Nat.ofDigits_digits, List.length_reverse,
        Nat.zero_add]
    · exact List.length_pos.2 (Nat.digits_ne_nil_iff_ne_zero (b := radix).2 h0)
    · have hne : Nat.digits radix n ≠ [] := Nat.digits_ne_nil_iff_ne_zero.2 h0
      have hlast := Nat.getLast_digit_ne_zero radix h0
      have hlt := Nat.digits_lt_base hb (List.getLast_mem hne)
      have hzero : ∀ d < 16, Nat.digitChar d = '0' → d = 0 := by decide
      rw [formatRadix_eq_map hb h0, List.head?_map, List.head?_reverse, List.getLast?_eq_getLast _ hne]
      intro h
      exact hlast (hzero _ (by omega) (by simpa using h))

/-- `read_number` reads back the number `formatRadix` writes, when the type holds it and what
follows starts with no digit. -/
theorem readNumber_formatRadix {radix maxDigits max : Nat} {allowZeroPrefix : Bool}
    (hr : radix = 10 ∨ radix = 16) {n : Nat} (hn : n < radix ^ maxDigits) (hmax : 0 < maxDigits)
    (hle : n ≤ max) {rest : List Char} (hrest : ∀ c ∈ rest.head?, toDigit radix c = none) :
    readNumber radix maxDigits max allowZeroPrefix (formatRadix radix n ++ rest) = some (n, rest) := by
  obtain ⟨count, hd, hpos, hzero⟩ := readDigits_formatRadix hr n hn hmax
  have hne : formatRadix radix n ≠ [] := by
    by_cases h0 : n = 0
    · simp [h0, formatRadix_zero (show 1 < radix by omega)]
    · simp [formatRadix_eq_map (show 1 < radix by omega) h0, Nat.digits_ne_nil_iff_ne_zero, h0]
  have hhead : (formatRadix radix n ++ rest).head? = (formatRadix radix n).head? := by
    obtain ⟨c, t, hct⟩ := List.exists_cons_of_ne_nil hne
    rw [hct]; rfl
  simp only [readNumber, readDigits_append hrest hd, List.nil_append, hhead]
  rw [if_neg (by omega), if_neg, if_pos hle]
  rcases hzero with rfl | hz
  · simp
  · simp [hz]

/-- An octet is read back from its decimal digits. -/
theorem readOctet_formatRadix (o : UInt8) {rest : List Char}
    (hrest : ∀ c ∈ rest.head?, toDigit 10 c = none) :
    readOctet (formatRadix 10 o.toNat ++ rest) = some (o, rest) := by
  have ho : o.toNat < 256 := o.toNat_lt_size
  rw [readOctet, readNumber_formatRadix (.inl rfl) (by omega : o.toNat < 10 ^ 3) (by omega)
    (by omega) hrest, Option.map_some']
  exact congrArg (fun o => some (o, rest)) (UInt8.ofNat_toNat o)

/-- **An IPv4 address reads back from what `Display` writes.** -/
theorem readIpv4Addr_display (a : Ipv4Addr) : readIpv4Addr a.display = some (a, []) := by
  obtain ⟨octets, hlen⟩ := a
  match octets, hlen with
  | [o0, o1, o2, o3], _ =>
    have hdot : ∀ s : List Char, ∀ c ∈ ('.' :: s).head?, toDigit 10 c = none := by
      intro s c hc
      cases hc
      rfl
    have h3 := @readOctet_formatRadix o3 [] (by simp)
    rw [List.append_nil] at h3
    simp [Ipv4Addr.display, readIpv4Addr, readOctets, readSeparator, readGivenChar,
      readOctet_formatRadix _ (hdot _), h3]
    rfl

/-- Every character `formatRadix` writes is a digit of its radix. -/
theorem toDigit_isSome_of_mem_formatRadix {radix n : Nat} (hr : radix = 10 ∨ radix = 16)
    {c : Char} (hc : c ∈ formatRadix radix n) : (toDigit radix c).isSome := by
  have hb : 1 < radix := by omega
  by_cases h0 : n = 0
  · rw [h0, formatRadix_zero hb, List.mem_singleton] at hc
    rw [hc]
    rcases hr with rfl | rfl <;> rfl
  · rw [formatRadix_eq_map hb h0] at hc
    obtain ⟨d, hd, rfl⟩ := List.mem_map.1 hc
    rw [toDigit_digitChar hr (Nat.digits_lt_base hb (List.mem_reverse.1 hd))]
    rfl

/-- A character that is no digit of the radix is not among the digits `formatRadix` writes. -/
theorem not_mem_formatRadix {radix n : Nat} (hr : radix = 10 ∨ radix = 16) {c : Char}
    (hc : toDigit radix c = none) : c ∉ formatRadix radix n := fun h => by
  have := toDigit_isSome_of_mem_formatRadix hr h
  rw [hc] at this
  cases this

/-! ## The run `::` stands for -/

/-- `sp` is a run of zero segments of `segs`. -/
def ZeroRun (segs : List UInt16) (sp : Span) : Prop :=
  sp.start + sp.len ≤ segs.length ∧ (segs.drop sp.start).take sp.len = List.replicate sp.len 0

theorem zeroRun_empty (segs : List UInt16) : ZeroRun segs ⟨0, 0⟩ := ⟨by simp, by simp⟩

/-- A run of zero segments cut out of `segs`: the segments before it, its zeros and the segments
after it make up `segs`. -/
theorem ZeroRun.take_append_drop {segs : List UInt16} {sp : Span} (h : ZeroRun segs sp) :
    segs.take sp.start ++ List.replicate sp.len 0 ++ segs.drop (sp.start + sp.len) = segs := by
  rw [← h.2, ← List.take_add, List.take_append_drop]

/-- A zero segment at index `i` extends the current run, which ends there, or starts one. -/
theorem ZeroRun.extend {segs rest : List UInt16} {current next : Span} {i : Nat}
    (hrun : ZeroRun segs current) (hend : current.len ≠ 0 → current.start + current.len = i)
    (hi : segs.drop i = 0 :: rest)
    (hnext : next = ⟨if current.len = 0 then i else current.start, current.len + 1⟩) :
    ZeroRun segs next ∧ next.start + next.len = i + 1 := by
  have hlt : i < segs.length := by
    have := congrArg List.length hi
    simp at this
    omega
  subst hnext
  by_cases h0 : current.len = 0
  · rw [if_pos h0, h0]
    refine ⟨⟨show i + (0 + 1) ≤ _ by omega, ?_⟩, rfl⟩
    show (segs.drop i).take 1 = _
    rw [hi]
    rfl
  · have hstart := hend h0
    rw [if_neg h0]
    refine ⟨⟨show current.start + (current.len + 1) ≤ _ by omega, ?_⟩,
      show current.start + (current.len + 1) = i + 1 by omega⟩
    show (segs.drop current.start).take (current.len + 1) = _
    rw [List.take_add, hrun.2, List.drop_drop, hstart, hi, List.replicate_succ']
    rfl

/-- **The loop's invariant.**  From any state in which the longest and the current span are runs
of zero segments, the current one ending where the loop is, the loop finds a run of zero
segments. -/
theorem zeroRun_zeroSpan_of (segs : List UInt16) :
    ∀ (l : List UInt16) (longest current : Span) (i : Nat), segs.drop i = l →
      ZeroRun segs longest → ZeroRun segs current →
      (current.len ≠ 0 → current.start + current.len = i) →
      ZeroRun segs (zeroSpan longest current i l)
  | [], longest, _, _, _, hl, _, _ => hl
  | g :: rest, longest, current, i, hi, hl, hc, hend => by
    have hnext : segs.drop (i + 1) = rest := by rw [← List.drop_drop, hi]; rfl
    have hnone : (⟨0, 0⟩ : Span).len ≠ 0 → (⟨0, 0⟩ : Span).start + (⟨0, 0⟩ : Span).len = i + 1 :=
      fun h => (h rfl).elim
    by_cases hg : g = 0
    · subst hg
      rw [zeroSpan, if_pos rfl]
      generalize hdef : (⟨if current.len = 0 then i else current.start, current.len + 1⟩ : Span) = c
      obtain ⟨hc', hend'⟩ := hc.extend hend hi hdef.symm
      refine zeroRun_zeroSpan_of segs rest _ _ (i + 1) hnext ?_ hc' fun _ => hend'
      split_ifs
      exacts [hc', hl]
    · rw [zeroSpan, if_neg hg]
      exact zeroRun_zeroSpan_of segs rest _ _ (i + 1) hnext hl (zeroRun_empty segs) hnone

/-- The run `Display` writes `::` for is a run of zero segments. -/
theorem zeroRun_zeroSpan (segs : List UInt16) : ZeroRun segs (zeroSpan ⟨0, 0⟩ ⟨0, 0⟩ 0 segs) :=
  zeroRun_zeroSpan_of segs segs _ _ 0 rfl (zeroRun_empty segs) (zeroRun_empty segs)
    fun h => (h rfl).elim

/-! ## Reading the groups back -/

/-- A group is read back from its hexadecimal digits. -/
theorem readGroup_formatRadix (g : UInt16) {rest : List Char}
    (hrest : ∀ c ∈ rest.head?, toDigit 16 c = none) :
    readGroup (formatRadix 16 g.toNat ++ rest) = some (g, rest) := by
  have hg : g.toNat < 65536 := g.toNat_lt_size
  rw [readGroup, readNumber_formatRadix (.inr rfl) (by omega : g.toNat < 16 ^ 4) (by omega)
    (by omega) hrest, Option.map_some']
  exact congrArg (fun g => some (g, rest)) (UInt16.ofNat_toNat g)

/-- An IPv4 address has dots: no text without one starts with one. -/
theorem readIpv4Addr_of_dot_not_mem {s : List Char} (hs : '.' ∉ s) : readIpv4Addr s = none := by
  cases ho : readOctet s with
  | none => simp [readIpv4Addr, readOctets, readSeparator, ho]
  | some x =>
    obtain ⟨o, t⟩ := x
    obtain ⟨r, rfl, -⟩ := consumes_readOctet ho
    have hdot : readGivenChar '.' t = none := by
      match t, hs with
      | [], _ => rfl
      | c :: t, hs =>
        have hc : c ≠ '.' := by rintro rfl; simp at hs
        simp [readGivenChar, hc]
    simp [readIpv4Addr, readOctets, readSeparator, ho, hdot]

theorem readSeparator_readIpv4Addr {s : List Char} (hs : '.' ∉ s) (i : Nat) :
    readSeparator ':' i readIpv4Addr s = none := by
  unfold readSeparator
  split_ifs
  · match s, hs with
    | [], _ => rfl
    | c :: t, hs =>
      simp only [readGivenChar]
      split_ifs
      · exact readIpv4Addr_of_dot_not_mem fun h => hs (.tail _ h)
      · rfl
  · exact readIpv4Addr_of_dot_not_mem hs

theorem readSeparator_succ_colon {α : Type} (i : Nat) (inner : List Char → Option (α × List Char))
    (t : List Char) : readSeparator ':' (i + 1) inner (':' :: t) = inner t := by
  simp [readSeparator, readGivenChar]

/-- A slot of `read_groups` that reads a group and no IPv4 address: the group, and the read goes
on at the next slot. -/
theorem readGroups_of_readGroup {i k : Nat} {s t : List Char} {g : UInt16}
    (h4 : readSeparator ':' i readIpv4Addr s = none)
    (hg : readSeparator ':' i readGroup s = some (g, t)) :
    readGroups i (k + 1) s = (g :: (readGroups (i + 1) k t).1, (readGroups (i + 1) k t).2) := by
  have h4' : (if 0 < k then readSeparator ':' i readIpv4Addr s else none) = none := by
    split_ifs
    exacts [h4, rfl]
  simp only [readGroups, h4', hg]

/-- A slot of `read_groups` that reads nothing ends the read. -/
theorem readGroups_of_none {i k : Nat} {s : List Char}
    (h4 : readSeparator ':' i readIpv4Addr s = none) (hg : readSeparator ':' i readGroup s = none) :
    readGroups i (k + 1) s = ([], false, s) := by
  have h4' : (if 0 < k then readSeparator ':' i readIpv4Addr s else none) = none := by
    split_ifs
    exacts [h4, rfl]
  simp only [readGroups, h4', hg]

/-- A slot of `read_groups` with two slots left that reads an IPv4 address ends the read with its
two groups. -/
theorem readGroups_of_readIpv4Addr {i k : Nat} {s t : List Char} {a : Ipv4Addr}
    (h4 : readSeparator ':' i readIpv4Addr s = some (a, t)) :
    readGroups i (k + 2) s = ([UInt16.ofNat (fromBeBytes (a.octets.take 2)),
      UInt16.ofNat (fromBeBytes (a.octets.drop 2))], true, t) := by
  simp only [readGroups, if_pos (Nat.succ_pos k), h4]

theorem readGroups_nil (i k : Nat) : readGroups i k [] = ([], false, []) := by
  cases k with
  | zero => rfl
  | succ k =>
    refine readGroups_of_none (readSeparator_readIpv4Addr (List.not_mem_nil _) i) ?_
    unfold readSeparator
    split_ifs <;> rfl

/-- The `::` of an address ends the read of its head. -/
theorem readGroups_colon_colon (i k : Nat) (t : List Char) :
    readGroups i (k + 1) (':' :: ':' :: t) = ([], false, ':' :: ':' :: t) := by
  refine readGroups_of_none ?_ ?_ <;> unfold readSeparator <;> split_ifs <;> rfl

/-- What follows a group in `fmt_subslice`: a colon and the next group, or what follows it. -/
theorem head_flatMap_colon (gs : List UInt16) {rest : List Char}
    (hrest : ∀ c ∈ rest.head?, toDigit 16 c = none) :
    ∀ c ∈ (gs.flatMap (fun g => ':' :: formatRadix 16 g.toNat) ++ rest).head?,
      toDigit 16 c = none := by
  cases gs with
  | nil => simpa using hrest
  | cons g gs =>
    intro c hc
    simp only [List.flatMap_cons, List.cons_append, List.head?_cons, Option.mem_def,
      Option.some.injEq] at hc
    subst hc
    rfl

theorem dot_not_mem_flatMap_colon (gs : List UInt16) :
    '.' ∉ gs.flatMap (fun g => ':' :: formatRadix 16 g.toNat) := by
  simp only [List.mem_flatMap, List.mem_cons, not_exists, not_and, not_or]
  exact fun g _ => ⟨by decide, not_mem_formatRadix (.inr rfl) rfl⟩

theorem dot_not_mem_fmtSubslice (gs : List UInt16) : '.' ∉ fmtSubslice gs := by
  cases gs with
  | nil => exact List.not_mem_nil _
  | cons g gs =>
    simp only [fmtSubslice, List.mem_append, not_or]
    exact ⟨not_mem_formatRadix (.inr rfl) rfl, dot_not_mem_flatMap_colon gs⟩

/-- The groups after the first, each after its colon, are read back, and the read goes on in the
text that follows them. -/
theorem readGroups_flatMap (gs : List UInt16) {rest : List Char} (hdot : '.' ∉ rest)
    (hrest : ∀ c ∈ rest.head?, toDigit 16 c = none) (i k : Nat) (hk : gs.length ≤ k) :
    readGroups (i + 1) k (gs.flatMap (fun g => ':' :: formatRadix 16 g.toNat) ++ rest) =
      (gs ++ (readGroups (i + 1 + gs.length) (k - gs.length) rest).1,
        (readGroups (i + 1 + gs.length) (k - gs.length) rest).2) := by
  induction gs generalizing i k with
  | nil => simp
  | cons g gs ih =>
    obtain ⟨k, rfl⟩ : ∃ k', k = k' + 1 := ⟨k - 1, by simp at hk; omega⟩
    have hnodot : '.' ∉ (g :: gs).flatMap (fun g => ':' :: formatRadix 16 g.toNat) ++ rest :=
      fun h => (List.mem_append.1 h).elim (dot_not_mem_flatMap_colon _) hdot
    have hg : readSeparator ':' (i + 1) readGroup
        ((g :: gs).flatMap (fun g => ':' :: formatRadix 16 g.toNat) ++ rest) =
          some (g, gs.flatMap (fun g => ':' :: formatRadix 16 g.toNat) ++ rest) := by
      rw [List.flatMap_cons, List.append_assoc, List.cons_append, readSeparator_succ_colon]
      exact readGroup_formatRadix g (head_flatMap_colon gs hrest)
    rw [readGroups_of_readGroup (readSeparator_readIpv4Addr hnodot _) hg,
      ih (i + 1) k (by simp at hk; omega)]
    have e1 : i + 1 + 1 + gs.length = i + 1 + (g :: gs).length := by simp; omega
    have e2 : k - gs.length = k + 1 - (g :: gs).length := by simp
    rw [e1, e2]
    rfl

/-- **`fmt_subslice` read back.**  The segments `fmt_subslice` writes are read back as groups,
and the read goes on in the text that follows them. -/
theorem readGroups_fmtSubslice (gs : List UInt16) {rest : List Char} (hdot : '.' ∉ rest)
    (hrest : ∀ c ∈ rest.head?, toDigit 16 c = none) (k : Nat) (hk : gs.length ≤ k) :
    readGroups 0 k (fmtSubslice gs ++ rest) =
      (gs ++ (readGroups gs.length (k - gs.length) rest).1,
        (readGroups gs.length (k - gs.length) rest).2) := by
  cases gs with
  | nil => simp [fmtSubslice]
  | cons g gs =>
    obtain ⟨k, rfl⟩ : ∃ k', k = k' + 1 := ⟨k - 1, by simp at hk; omega⟩
    have hnodot : '.' ∉ fmtSubslice (g :: gs) ++ rest :=
      fun h => (List.mem_append.1 h).elim (dot_not_mem_fmtSubslice _) hdot
    have hg : readSeparator ':' 0 readGroup (fmtSubslice (g :: gs) ++ rest) =
        some (g, gs.flatMap (fun g => ':' :: formatRadix 16 g.toNat) ++ rest) := by
      rw [fmtSubslice, List.append_assoc]
      exact readGroup_formatRadix g (head_flatMap_colon gs hrest)
    rw [readGroups_of_readGroup (readSeparator_readIpv4Addr hnodot 0) hg,
      readGroups_flatMap gs hdot hrest 0 k (by simp at hk; omega)]
    simp [Nat.add_comm 1]

/-! ## IPv6 addresses read back -/

/-- Eight groups and no `::`: the address of the segments. -/
theorem Ipv6Addr.ofHeadTail_nil (a : Ipv6Addr) : Ipv6Addr.ofHeadTail a.segments [] = a := by
  obtain ⟨segs, hlen⟩ := a
  simp only [Ipv6Addr.ofHeadTail, Ipv6Addr.mk.injEq, List.length_nil, Nat.sub_zero,
    List.take_nil, List.append_nil]
  exact List.take_left' hlen

/-- A head and a tail cut from an address around a run of zero segments: the address. -/
theorem Ipv6Addr.ofHeadTail_zeroRun {a : Ipv6Addr} {sp : Span} (h : ZeroRun a.segments sp) :
    Ipv6Addr.ofHeadTail (a.segments.take sp.start) (a.segments.drop (sp.start + sp.len)) = a := by
  obtain ⟨segs, hlen⟩ := a
  have hle : sp.start + sp.len ≤ 8 := hlen ▸ h.1
  have hhead : (segs.take sp.start).length = sp.start := by simp; omega
  have h8 : 8 - (segs.drop (sp.start + sp.len)).length = sp.start + sp.len := by
    simp [hlen]; omega
  have hH : (segs.take sp.start).take (sp.start + sp.len) = segs.take sp.start :=
    List.take_of_length_le (by omega)
  have hT : (segs.drop (sp.start + sp.len)).take 8 = segs.drop (sp.start + sp.len) :=
    List.take_of_length_le (by rw [List.length_drop, hlen]; omega)
  simp only [Ipv6Addr.ofHeadTail, Ipv6Addr.mk.injEq]
  rw [h8, List.take_append_eq_append_take, hH, hhead, Nat.add_sub_cancel_left, List.take_replicate,
    min_eq_left (by omega), hT]
  exact h.take_append_drop

theorem UInt16.ofNat_fromBeBytes_halves (g : UInt16) :
    UInt16.ofNat (fromBeBytes [(g.toNat / 256).toUInt8, (g.toNat % 256).toUInt8]) = g := by
  have hg : g.toNat < 65536 := g.toNat_lt_size
  have h : fromBeBytes [(g.toNat / 256).toUInt8, (g.toNat % 256).toUInt8] = g.toNat := by
    simp [fromBeBytes, Nat.toUInt8]
    omega
  rw [h, UInt16.ofNat_toNat]

/-- An IPv4-mapped address is the one `::ffff:` and the groups of its IPv4 address make. -/
theorem Ipv6Addr.ofHeadTail_toIpv4Mapped {a : Ipv6Addr} {b : Ipv4Addr}
    (h : a.toIpv4Mapped = some b) :
    Ipv6Addr.ofHeadTail [] [0xffff, UInt16.ofNat (fromBeBytes (b.octets.take 2)),
      UInt16.ofNat (fromBeBytes (b.octets.drop 2))] = a := by
  obtain ⟨segs, hlen⟩ := a
  match segs, hlen with
  | [s0, s1, s2, s3, s4, s5, s6, s7], _ =>
    simp only [Ipv6Addr.toIpv4Mapped] at h
    split_ifs at h with h6
    cases h
    simp only [List.take, List.cons.injEq, and_true] at h6
    obtain ⟨rfl, rfl, rfl, rfl, rfl, rfl⟩ := h6
    simp [Ipv6Addr.ofHeadTail, Ipv4Addr.ofOctets, UInt16.ofNat_fromBeBytes_halves]

theorem readIpv6Addr_mapped {a : Ipv6Addr} {b : Ipv4Addr} (h : a.toIpv4Mapped = some b) :
    readIpv6Addr ("::ffff:".toList ++ b.display) = some (a, []) := by
  have hb := readIpv4Addr_display b
  have h4 : readSeparator ':' 0 readIpv4Addr ('f' :: 'f' :: 'f' :: 'f' :: ':' :: b.display) = none :=
    rfl
  have hg : readSeparator ':' 0 readGroup ('f' :: 'f' :: 'f' :: 'f' :: ':' :: b.display) =
      some (0xffff, ':' :: b.display) := rfl
  have hgroups : readGroups 0 7 ('f' :: 'f' :: 'f' :: 'f' :: ':' :: b.display) =
      ([0xffff, UInt16.ofNat (fromBeBytes (b.octets.take 2)),
        UInt16.ofNat (fromBeBytes (b.octets.drop 2))], true, []) := by
    rw [readGroups_of_readGroup h4 hg,
      readGroups_of_readIpv4Addr (k := 4) ((readSeparator_succ_colon 0 _ _).trans hb)]
  have htext : "::ffff:".toList ++ b.display =
      ':' :: ':' :: 'f' :: 'f' :: 'f' :: 'f' :: ':' :: b.display := rfl
  rw [htext]
  simp [readIpv6Addr, readGroups_colon_colon 0 7, readGivenChar, hgroups,
    Ipv6Addr.ofHeadTail_toIpv4Mapped h]

/-- An address with a run of zero segments written `::` is read back. -/
theorem readIpv6Addr_compressed {a : Ipv6Addr} {sp : Span} (h : ZeroRun a.segments sp)
    (hlen : 0 < sp.len) :
    readIpv6Addr (fmtSubslice (a.segments.take sp.start) ++ "::".toList ++
      fmtSubslice (a.segments.drop (sp.start + sp.len))) = some (a, []) := by
  have hle : sp.start + sp.len ≤ 8 := a.length_eq ▸ h.1
  have hhead : (a.segments.take sp.start).length = sp.start := by simp [a.length_eq]; omega
  have htail : (a.segments.drop (sp.start + sp.len)).length = 8 - (sp.start + sp.len) := by
    simp [a.length_eq]
  have hdot : '.' ∉ ':' :: ':' :: fmtSubslice (a.segments.drop (sp.start + sp.len)) := by
    simp only [List.mem_cons, not_or]
    exact ⟨by decide, by decide, dot_not_mem_fmtSubslice _⟩
  have h8 : 8 - sp.start = 7 - sp.start + 1 := by omega
  have hhd := readGroups_fmtSubslice (a.segments.take sp.start) hdot (fun c hc => by cases hc; rfl)
    8 (by omega)
  rw [hhead, h8, readGroups_colon_colon, List.append_nil] at hhd
  have htl := readGroups_fmtSubslice (a.segments.drop (sp.start + sp.len)) (List.not_mem_nil _)
    (fun c hc => by cases hc) (8 - (sp.start + 1)) (by omega)
  rw [readGroups_nil, List.append_nil, List.append_nil, show 8 - (sp.start + 1) = 7 - sp.start by omega]
    at htl
  have htext : fmtSubslice (a.segments.take sp.start) ++ "::".toList ++
      fmtSubslice (a.segments.drop (sp.start + sp.len)) =
        fmtSubslice (a.segments.take sp.start) ++
          ':' :: ':' :: fmtSubslice (a.segments.drop (sp.start + sp.len)) := by
    simp
  rw [htext]
  simp [readIpv6Addr, hhd, htl, hhead, readGivenChar, Ipv6Addr.ofHeadTail_zeroRun h,
    show sp.start ≠ 8 by omega]

/-- An address written as its eight segments is read back. -/
theorem readIpv6Addr_fmtSubslice (a : Ipv6Addr) :
    readIpv6Addr (fmtSubslice a.segments) = some (a, []) := by
  have h := readGroups_fmtSubslice a.segments (List.not_mem_nil _) (fun c hc => by cases hc) 8
    (by rw [a.length_eq])
  rw [List.append_nil, a.length_eq, readGroups_nil, List.append_nil] at h
  simp [readIpv6Addr, h, a.length_eq, Ipv6Addr.ofHeadTail_nil]

/-- **An IPv6 address reads back from what `Display` writes.** -/
theorem readIpv6Addr_display (a : Ipv6Addr) : readIpv6Addr a.display = some (a, []) := by
  unfold Ipv6Addr.display
  cases hm : a.toIpv4Mapped with
  | some b => exact readIpv6Addr_mapped hm
  | none =>
    dsimp only
    split_ifs with hlen
    · exact readIpv6Addr_compressed (zeroRun_zeroSpan a.segments) (by omega)
    · exact readIpv6Addr_fmtSubslice a

/-- **What `Display` writes, `IpAddr::from_str` reads back.** -/
theorem IpAddr.fromStr_display (ip : IpAddr) : IpAddr.fromStr ip.display = some ip := by
  cases ip with
  | v4 a => exact IpAddr.fromStr_of_ipv4 (parseWith_eq_some.2 (readIpv4Addr_display a))
  | v6 a => exact IpAddr.fromStr_of_ipv6 (parseWith_eq_some.2 (readIpv6Addr_display a))

/-- Of two longest runs of zero segments, the first is written `::`. -/
example : (IpAddr.v6 ⟨[0x2001, 0xdb8, 0, 0, 1, 0, 0, 1], rfl⟩).display =
    "2001:db8::1:0:0:1".toList := by
  decide

end MailServer
