import MailServer.Http.Forwarded
import MailServer.Http.Display

/-!
# The `http_header` function of Sieve scripts

`register_header` (`common/src/scripts/plugins/http.rs`) adds to the Sieve interpreter the
external function `http_header` of four arguments, and `exec_header` runs it: a GET of the URL,
the first argument, by a `reqwest` client built with the user agent, the third, and a timeout of
as many milliseconds as the fourth reads as a `u64`, or 5000; no redirect is followed and any
certificate is accepted.  The answer is the value of the header the second argument names.

The timeout is read by `str::parse::<u64>`, which `parseU64_eq_some_iff` characterizes: the
texts it reads are a `+` or nothing, then any zeros, then the decimal digits of a number below
`2 ^ 64`; any other text, `5s`, `-1` or a number of twenty digits, gives the five seconds.
-/

namespace MailServer

/-! ## The model -/

/-- Modelled from the spec: the loop of `u64::from_str_radix` in radix 10: each character must be a
digit, added to ten times the value so far, and the read fails when the value leaves `u64`
(`checked_mul`, `checked_add`). -/
def parseU64Digits (result : Nat) : List Char → Option Nat
  | [] => some result
  | c :: s =>
    match toDigit 10 c with
    | none => none
    | some x => if result * 10 + x < 2 ^ 64 then parseU64Digits (result * 10 + x) s else none

/-- Modelled from the spec: `str::parse::<u64>`: a sign with nothing after it is refused, a `+` is
skipped, and the rest must be digits. -/
def parseU64 (src : List Char) : Option Nat :=
  match src with
  | [] => none
  | c :: rest =>
    if (c = '+' ∨ c = '-') ∧ rest = [] then none
    else if c = '+' then parseU64Digits 0 rest
    else parseU64Digits 0 src

/-- Modelled from the spec: a character of a header name: a token character of RFC 7230, as the
table `HEADER_CHARS` of the `http` crate has them (it maps an upper-case letter to its lower
case). -/
def isTokenChar (c : Char) : Bool :=
  ('a' ≤ c && c ≤ 'z') || ('A' ≤ c && c ≤ 'Z') || ('0' ≤ c && c ≤ '9') ||
    "!#$%&\x27*+-.^_\x60|~".toList.contains c

/-- Modelled from the spec: `HeaderMap::get` with a `&str`: the first value under the name,
lowercased; a text that is no header name finds nothing.  The headers are the map's entries in
order, each a lowercase name and the bytes of a value. -/
def headerMapGet (headers : List (List Char × List Char)) (name : List Char) :
    Option (List Char) :=
  if name ≠ [] ∧ name.all isTokenChar then headers.lookup (toAsciiLowercase name) else none

/-- Modelled from the spec: what `exec_header` sees of `reqwest`, for a user agent and a timeout in
milliseconds: whether `Client::builder` (no redirects, any certificate) gives a client, and the
headers of the response to a GET of a URL, `none` when `send` fails. -/
structure HttpClient where
  build : List Char → Nat → Bool
  get : List Char → Nat → List Char → Option (List (List Char × List Char))

/-- Modelled from the spec: what `exec_header` returns, in the terms of `sieve::runtime::Variable`
(outside `src/`): `Variable::from` a string, `Variable::default()`, or `false.into()`. -/
inductive Variable
  | string (s : List Char)
  | default
  | bool (b : Bool)
deriving DecidableEq

/-- `str::contains` with a string pattern. -/
def strContains (s pat : List Char) : Bool := decide (pat <:+: s)

/-- `register_header`: the name, the plugin's id and the number of arguments of the external
function. -/
def registerHeader (pluginId : Nat) : List Char × Nat × Nat := ("http_header".toList, pluginId, 4)

/-- `exec_header` on the arguments of a call, in a build with the `test_mode` feature or without.
The arguments are their texts (`Variable::to_string`); `none` is a panic, an argument missing or
the `unwrap` of the test branch. -/
def execHeader (testMode : Bool) (client : HttpClient) (arguments : List (List Char)) :
    Option Variable := do
  let url ← arguments.get? 0
  let header ← arguments.get? 1
  let agent ← arguments.get? 2
  let timeoutArg ← arguments.get? 3
  let timeout := (parseU64 timeoutArg).getD 5000
  if testMode && strContains url "redirect.".toList then
    let (_, after) ← splitOnce "/?".toList url
    return .string after
  if client.build agent timeout then
    return ((client.get agent timeout url).bind fun headers =>
      (headerMapGet headers header).bind HeaderValue.toStr).elim .default .string
  else return .bool false

/-! ## The timeout -/

/-- The decimal digits `toDigit` reads are the characters of the digits below ten. -/
theorem toDigit_ten_eq_some {c : Char} {x : Nat} :
    toDigit 10 c = some x ↔ x < 10 ∧ c = Nat.digitChar x := by
  constructor
  · intro h
    have hdc : ∀ d < 10, (Nat.digitChar d).toNat = 48 + d := by decide
    unfold toDigit at h
    split_ifs at h with h1 h2 h3
    · cases h
      have hx : c.toNat - '0'.toNat < 10 := by simp only [toNat_digit_bounds] at h1 ⊢; omega
      refine ⟨hx, Char.eq_of_toNat_eq ?_⟩
      rw [hdc _ hx]
      simp only [toNat_digit_bounds] at h1 ⊢
      omega
    · exact absurd h2.1 (by decide)
    · exact absurd h3.1 (by decide)
  · rintro ⟨hx, rfl⟩
    exact toDigit_digitChar (.inl rfl) hx

theorem le_foldl_digits (ds : List Nat) (r : Nat) : r ≤ ds.foldl (fun n d => n * 10 + d) r := by
  induction ds generalizing r with
  | nil => exact le_refl r
  | cons d ds ih => exact le_trans (by omega) (ih (r * 10 + d))

/-- The digit loop on digits: their value, when it is a `u64`. -/
theorem parseU64Digits_map_digitChar (ds : List Nat) (hds : ∀ d ∈ ds, d < 10) {r : Nat}
    (hr : r < 2 ^ 64) :
    parseU64Digits r (ds.map Nat.digitChar) =
      if ds.foldl (fun n d => n * 10 + d) r < 2 ^ 64 then some (ds.foldl (fun n d => n * 10 + d) r)
      else none := by
  induction ds generalizing r with
  | nil => rw [List.map_nil, parseU64Digits, List.foldl_nil, if_pos hr]
  | cons d ds ih =>
    have hd := toDigit_digitChar (.inl rfl) (hds d (.head _))
    simp only [List.map_cons, parseU64Digits, hd, List.foldl_cons]
    by_cases hlt : r * 10 + d < 2 ^ 64
    · rw [if_pos hlt, ih (fun e he => hds e (.tail _ he)) hlt]
    · have := le_foldl_digits ds (r * 10 + d)
      rw [if_neg hlt, if_neg (by omega)]

/-- What the digit loop reads is digits. -/
theorem parseU64Digits_eq_some {r n : Nat} {s : List Char} (h : parseU64Digits r s = some n) :
    ∃ ds : List Nat, (∀ d ∈ ds, d < 10) ∧ s = ds.map Nat.digitChar ∧
      n = ds.foldl (fun n d => n * 10 + d) r := by
  induction s generalizing r with
  | nil => exact ⟨[], by simp, rfl, (Option.some.inj h).symm⟩
  | cons c s ih =>
    simp only [parseU64Digits] at h
    split at h
    · cases h
    · rename_i x hx
      obtain ⟨hx10, rfl⟩ := toDigit_ten_eq_some.1 hx
      split_ifs at h
      obtain ⟨ds, hds, rfl, rfl⟩ := ih h
      exact ⟨x :: ds, List.forall_mem_cons.2 ⟨hx10, hds⟩, rfl, rfl⟩

/-- The digits of a number of `formatRadix`: their value is the number. -/
theorem formatRadix_ten_eq (n : Nat) : ∃ ds : List Nat, (∀ d ∈ ds, d < 10) ∧ ds ≠ [] ∧
    ds.foldl (fun n d => n * 10 + d) 0 = n ∧ formatRadix 10 n = ds.map Nat.digitChar := by
  by_cases h0 : n = 0
  · subst h0
    exact ⟨[0], by simp, by simp, rfl, by rw [formatRadix_zero (by omega)]; rfl⟩
  · refine ⟨(Nat.digits 10 n).reverse, fun d hd => Nat.digits_lt_base (by omega)
      (List.mem_reverse.1 hd), by simp [h0, Nat.digits_ne_nil_iff_ne_zero], ?_,
      formatRadix_eq_map (by omega) h0⟩
    rw [List.foldl_reverse, foldr_eq_ofDigits, Nat.ofDigits_digits]

/-- Digits whose first is not zero are the digits `formatRadix` writes of their value. -/
theorem formatRadix_foldl_of_ne_zero {d : Nat} {ds : List Nat} (hd : d ≠ 0)
    (hds : ∀ e ∈ d :: ds, e < 10) :
    formatRadix 10 ((d :: ds).foldl (fun n d => n * 10 + d) 0) = (d :: ds).map Nat.digitChar := by
  have hL : ∀ e ∈ (d :: ds).reverse, e < 10 := fun e he => hds e (List.mem_reverse.1 he)
  have hlast : ∀ h : (d :: ds).reverse ≠ [], ((d :: ds).reverse).getLast h ≠ 0 := by
    intro h
    rwa [List.getLast_reverse]
  have hvalue : (d :: ds).foldl (fun n d => n * 10 + d) 0 = Nat.ofDigits 10 (d :: ds).reverse := by
    rw [← List.reverse_reverse (d :: ds), List.foldl_reverse, List.reverse_reverse,
      foldr_eq_ofDigits]
  have hdigits := Nat.digits_ofDigits 10 (by omega) _ hL hlast
  have hn : Nat.ofDigits 10 (d :: ds).reverse ≠ 0 := by
    intro h
    rw [h, Nat.digits_zero] at hdigits
    simp at hdigits
  rw [hvalue, formatRadix_eq_map (by omega) hn, hdigits, List.reverse_reverse]

/-- Digits are zeros and then the digits `formatRadix` writes of their value. -/
theorem map_digitChar_eq (ds : List Nat) (hds : ∀ d ∈ ds, d < 10) (hne : ds ≠ []) :
    ∃ zeros : Nat, ds.map Nat.digitChar =
      List.replicate zeros '0' ++ formatRadix 10 (ds.foldl (fun n d => n * 10 + d) 0) := by
  induction ds with
  | nil => exact absurd rfl hne
  | cons d ds ih =>
    by_cases hd : d = 0
    · subst hd
      cases ds with
      | nil =>
        refine ⟨0, ?_⟩
        show [Nat.digitChar 0] = [] ++ formatRadix 10 0
        rw [formatRadix_zero (by omega)]
        rfl
      | cons e es =>
        obtain ⟨zeros, h⟩ := ih (fun e he => hds e (.tail _ he)) (List.cons_ne_nil _ _)
        have hv : (0 :: e :: es).foldl (fun n d => n * 10 + d) 0 =
            (e :: es).foldl (fun n d => n * 10 + d) 0 := by
          simp
        refine ⟨zeros + 1, ?_⟩
        rw [hv, List.map_cons, h, List.replicate_succ]
        rfl
    · exact ⟨0, (formatRadix_foldl_of_ne_zero hd hds).symm⟩

theorem foldl_replicate_zero (zeros : Nat) :
    (List.replicate zeros 0).foldl (fun n d => n * 10 + d) 0 = 0 := by
  induction zeros with
  | zero => rfl
  | succ zeros ih => rwa [List.replicate_succ, List.foldl_cons]

/-- A character that is no decimal digit is not among zeros and the digits of a number. -/
theorem not_mem_zeros_formatRadix {c : Char} (hc : toDigit 10 c = none) (zeros n : Nat) :
    c ∉ List.replicate zeros '0' ++ formatRadix 10 n := by
  rw [List.mem_append, not_or]
  refine ⟨fun h => ?_, not_mem_formatRadix (.inl rfl) hc⟩
  rw [List.eq_of_mem_replicate h] at hc
  exact absurd hc (by decide)

theorem zeros_formatRadix_ne_nil (zeros n : Nat) :
    List.replicate zeros '0' ++ formatRadix 10 n ≠ [] := by
  obtain ⟨ds, -, hne, -, hf⟩ := formatRadix_ten_eq n
  simp [hf, hne]

/-- The digit loop from zero on a text of one character or more. -/
theorem parseU64Digits_zero_eq_some_iff {s : List Char} {n : Nat} (hs : s ≠ []) :
    parseU64Digits 0 s = some n ↔
      n < 2 ^ 64 ∧ ∃ zeros : Nat, s = List.replicate zeros '0' ++ formatRadix 10 n := by
  constructor
  · intro h
    obtain ⟨ds, hds, rfl, rfl⟩ := parseU64Digits_eq_some h
    rw [parseU64Digits_map_digitChar ds hds (by norm_num)] at h
    split_ifs at h with hlt
    exact ⟨hlt, map_digitChar_eq ds hds (by rintro rfl; exact hs rfl)⟩
  · rintro ⟨hn, zeros, rfl⟩
    obtain ⟨ds, hds, -, hv, hf⟩ := formatRadix_ten_eq n
    have hall : ∀ d ∈ List.replicate zeros 0 ++ ds, d < 10 := by
      intro d hd
      rcases List.mem_append.1 hd with h | h
      · rw [List.eq_of_mem_replicate h]
        omega
      · exact hds d h
    have hvalue : (List.replicate zeros 0 ++ ds).foldl (fun n d => n * 10 + d) 0 = n := by
      rw [List.foldl_append, foldl_replicate_zero, hv]
    have htext : List.replicate zeros '0' ++ formatRadix 10 n =
        (List.replicate zeros 0 ++ ds).map Nat.digitChar := by
      rw [List.map_append, List.map_replicate, hf]
      rfl
    rw [htext, parseU64Digits_map_digitChar _ hall (by norm_num), hvalue, if_pos hn]

/-- **The texts `parse::<u64>` reads.**  A `+` or nothing, then any zeros, then the decimal
digits of a number below `2 ^ 64`, and nothing else. -/
theorem parseU64_eq_some_iff {s : List Char} {n : Nat} :
    parseU64 s = some n ↔ n < 2 ^ 64 ∧ ∃ zeros : Nat,
      s = List.replicate zeros '0' ++ formatRadix 10 n ∨
        s = '+' :: (List.replicate zeros '0' ++ formatRadix 10 n) := by
  have hsign : ∀ {c : Char}, toDigit 10 c = none → ∀ zeros rest,
      c :: rest ≠ List.replicate zeros '0' ++ formatRadix 10 n :=
    fun hc zeros rest h => not_mem_zeros_formatRadix hc zeros n (h ▸ List.mem_cons_self _ _)
  match s with
  | [] =>
    exact ⟨fun h => by simp [parseU64] at h, fun ⟨_, zeros, h⟩ =>
      (h.elim (fun h => zeros_formatRadix_ne_nil zeros n h.symm) List.noConfusion).elim⟩
  | c :: rest =>
    by_cases hnone : (c = '+' ∨ c = '-') ∧ rest = []
    · obtain ⟨hc, rfl⟩ := hnone
      have hc' : toDigit 10 c = none := by rcases hc with rfl | rfl <;> rfl
      refine ⟨fun h => by simp [parseU64, hc] at h, fun ⟨_, zeros, h⟩ => (h.elim (hsign hc' zeros [])
        fun h => zeros_formatRadix_ne_nil zeros n (List.cons.inj h).2.symm).elim⟩
    · rw [parseU64, if_neg hnone]
      by_cases hc : c = '+'
      · subst hc
        have hr : rest ≠ [] := fun hr => hnone ⟨.inl rfl, hr⟩
        rw [if_pos rfl, parseU64Digits_zero_eq_some_iff hr]
        simp only [List.cons.injEq, true_and]
        exact and_congr_right fun _ => exists_congr fun zeros =>
          ⟨Or.inr, fun h => h.resolve_left (hsign (c := '+') rfl zeros rest)⟩
      · rw [if_neg hc, parseU64Digits_zero_eq_some_iff (List.cons_ne_nil _ _)]
        simp only [List.cons.injEq, hc, false_and, or_false]

/-- A timeout with a unit is no `u64`: the five seconds. -/
example : (parseU64 "5s".toList).getD 5000 = 5000 := by decide

end MailServer
