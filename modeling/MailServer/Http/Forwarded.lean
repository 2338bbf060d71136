import MailServer.Http.IpAddr
import Mathlib.Data.List.Infix

/-!
# The client address behind a proxy

When `http_use_forwarded` is set, `handle_session` (`jmap/src/api/http.rs`) takes the address of
a request from the proxy in front of the server: from the first `for=` of the `Forwarded` header,
or else from the first entry of `X-Forwarded-For`, and from the connection only when neither
names an address.  A request whose forwarded address is blocked is refused with `403 Forbidden`.

The `Forwarded` value is lowercased and cut after its first `for=`; in what follows, the scan
skips quotes, brackets and spaces and keeps the first run of `[0-9a-f:.]`, which is parsed as an
address.  `forwardedIp_node` states what this gives for every node of RFC 7239 that names an
address: the address, for an IPv6 node and for an IPv4 node without a port; and nothing for an
IPv4 node with a port, whose port the run takes in, so that the request falls back to
`X-Forwarded-For` or to the proxy's own address.  The proof goes through the scan run by run
(`scanIp_eq`), and through the address parser of `Http/IpAddr.lean`: what it consumes, that
lowercasing is invisible to it, and that the port after an IPv4 address is not.
-/

namespace MailServer

/-! ## The headers -/

/-- Modelled from the spec: `is_visible_ascii` of the `http` crate: a byte `HeaderValue::to_str`
accepts. -/
def isVisibleAscii (c : Char) : Bool := (32 ≤ c.toNat && c.toNat < 127) || c == '\t'

/-- Modelled from the spec: `HeaderValue::to_str` of the `http` crate: the value as text when each
of its bytes is visible ASCII or a tab.  A header value is its bytes here, each read as the
character of its code. -/
def HeaderValue.toStr (h : List Char) : Option (List Char) :=
  if h.all isVisibleAscii then some h else none

/-- Modelled from the spec: `str::split_once`: the text before the first occurrence of `pat`, and
the text after it. -/
def splitOnce (pat : List Char) : List Char → Option (List Char × List Char)
  | [] => if pat.isPrefixOf [] then some ([], []) else none
  | c :: s =>
    if pat.isPrefixOf (c :: s) then some ([], (c :: s).drop pat.length)
    else (splitOnce pat s).map fun (before, after) => (c :: before, after)

/-- The characters the scan of `handle_session` keeps: `'0'..='9' | 'a'..='f' | ':' | '.'`. -/
def isIpChar (c : Char) : Bool :=
  ('0' ≤ c && c ≤ '9') || ('a' ≤ c && c ≤ 'f') || c == ':' || c == '.'

/-- The loop over `rest.char_indices()` in `handle_session`: `start_ip` and `end_ip`, `usize::MAX`
while unset, become the offsets of the first and the last character of the first run of
`[0-9a-f:.]`, before which quotes, brackets and spaces are skipped.  The header passed `to_str`,
so each character is one byte and its offset `pos` is its index. -/
def scanIp (pos startIp endIp : Nat) : List Char → Nat × Nat
  | [] => (startIp, endIp)
  | ch :: rest =>
    if isIpChar ch then
      scanIp (pos + 1) (if startIp = usizeMax then pos else startIp) pos rest
    else if (ch = '"' ∨ ch = '[' ∨ ch = ' ') ∧ startIp = usizeMax then
      scanIp (pos + 1) startIp endIp rest
    else (startIp, endIp)

/-- Modelled from the spec: `str::get(start..=end)`: nothing when `end` is `usize::MAX` or the range
does not fit. -/
def strGetInclusive (s : List Char) (start stop : Nat) : Option (List Char) :=
  if stop = usizeMax then none
  else if start ≤ stop + 1 ∧ stop + 1 ≤ s.length then some ((s.drop start).take (stop + 1 - start))
  else none

/-- The `Forwarded` branch of `handle_session`: the value lowercased, the text after its first
`for=`, the first run of address characters in it, parsed as an address. -/
def forwardedIp (h : List Char) : Option IpAddr :=
  (HeaderValue.toStr h).bind fun h =>
    (splitOnce "for=".toList (toAsciiLowercase h)).bind fun (_, rest) =>
      let (startIp, endIp) := scanIp 0 usizeMax usizeMax rest
      (strGetInclusive rest startIp endIp).bind IpAddr.fromStr

/-- Modelled from the spec: `char::is_whitespace` on ASCII: the space, and the tab to the carriage
return.  A header that passed `to_str` holds no other character Rust counts as whitespace. -/
def isWhitespace (c : Char) : Bool := c == ' ' || ('\t' ≤ c && c ≤ '\r')

/-- Modelled from the spec: `str::trim`. -/
def trim (s : List Char) : List Char :=
  ((s.dropWhile isWhitespace).reverse.dropWhile isWhitespace).reverse

/-- The `X-Forwarded-For` branch of `handle_session`: the first entry of the list, trimmed,
parsed as an address. -/
def xForwardedIp (h : List Char) : Option IpAddr :=
  (HeaderValue.toStr h).bind fun h =>
    IpAddr.fromStr (trim ((splitOnce [','] h).elim h fun (ip, _) => ip))

/-- How `handle_session` goes on with a request: refused with `403 Forbidden`, or parsed as coming
from `remoteIp`. -/
inductive RemoteIp
  | forbidden
  | resolved (remoteIp : IpAddr)
deriving DecidableEq

/-- The remote address of a request in `handle_session`: the connection's unless
`http_use_forwarded` is set; then the `Forwarded` address, or else the `X-Forwarded-For` one, or
else the connection's.  A forwarded address that `is_ip_blocked` is refused.  The two headers
are the first values of `Forwarded` and `X-Forwarded-For`, if any. -/
def resolveRemoteIp (httpUseForwarded : Bool) (isIpBlocked : IpAddr → Bool)
    (forwarded xForwardedFor : Option (List Char)) (sessionRemoteIp : IpAddr) : RemoteIp :=
  if !httpUseForwarded then .resolved sessionRemoteIp
  else
    match (forwarded.bind forwardedIp).orElse fun _ => xForwardedFor.bind xForwardedIp with
    | some forwardedFor => if isIpBlocked forwardedFor then .forbidden else .resolved forwardedFor
    | none => .resolved sessionRemoteIp

/-! ## The first `for=` -/

/-- A pattern whose last character `y` lacks occurs in `x ++ y` only within `x`. -/
theorem infix_of_infix_append {pat x y : List Char} {e : Char} (he : e ∉ y)
    (h : pat ++ [e] <:+: x ++ y) : pat ++ [e] <:+: x := by
  obtain ⟨s, t, hst⟩ := h
  rcases List.append_eq_append_iff.1 hst with ⟨r, hx, -⟩ | ⟨r, hr, hy⟩
  · exact ⟨s, r, hx.symm⟩
  · rcases List.eq_nil_or_concat r with rfl | ⟨r, b, rfl⟩
    · exact ⟨s, [], by simpa using hr⟩
    · have hr' : s ++ pat ++ [e] = x ++ r ++ [b] := by simpa using hr
      have hb : e = b := by simpa using (List.append_inj' hr' rfl).2
      exact absurd (by simp [hy, hb]) he

/-- `split_once` cuts at an occurrence of the pattern when no earlier one starts before it. -/
theorem splitOnce_append {pat a b : List Char} (hpat : pat ≠ [])
    (ha : ¬ pat <:+: a ++ pat.dropLast) : splitOnce pat (a ++ pat ++ b) = some (a, b) := by
  induction a with
  | nil =>
    obtain ⟨c, s, hcs⟩ := List.exists_cons_of_ne_nil (show pat ++ b ≠ [] by simp [hpat])
    have hp : pat.isPrefixOf (c :: s) = true :=
      hcs ▸ List.isPrefixOf_iff_prefix.2 (List.prefix_append _ _)
    rw [List.nil_append, hcs, splitOnce, if_pos hp, ← hcs, List.drop_left]
  | cons c a ih =>
    have hlen : pat.length ≤ (c :: a ++ pat.dropLast).length := by
      have := List.length_pos.2 hpat
      simp; omega
    have hnot : ¬ pat <+: c :: a ++ pat ++ b := fun h =>
      ha (List.prefix_of_prefix_length_le h (by
        rw [List.append_assoc]
        exact (List.prefix_append_right_inj _).2
          ((List.dropLast_prefix pat).trans (List.prefix_append _ _))) hlen).isInfix
    rw [← List.isPrefixOf_iff_prefix, Bool.not_eq_true] at hnot
    simp only [List.cons_append] at hnot ⊢
    rw [splitOnce, hnot, ih fun h => ha (h.trans (List.suffix_cons c _).isInfix)]
    rfl

/-! ## The scan -/

theorem Char.le_iff_toNat {a b : Char} : a ≤ b ↔ a.toNat ≤ b.toNat := Iff.rfl

theorem isIpChar_iff {c : Char} : isIpChar c = true ↔
    (48 ≤ c.toNat ∧ c.toNat ≤ 57) ∨ (97 ≤ c.toNat ∧ c.toNat ≤ 102) ∨ c = ':' ∨ c = '.' := by
  simp [isIpChar, Char.le_iff_toNat, or_assoc]

/-- The characters skipped before the run: quotes, brackets and spaces. -/
def SkipChar (c : Char) : Prop := c = '"' ∨ c = '[' ∨ c = ' '

theorem isIpChar_of_skipChar {c : Char} (h : SkipChar c) : isIpChar c = false := by
  rcases h with rfl | rfl | rfl <;> rfl

variable {pos startIp endIp : Nat} {s : List Char}

theorem scanIp_skip (skip : List Char) (h : ∀ c ∈ skip, SkipChar c) :
    scanIp pos usizeMax endIp (skip ++ s) = scanIp (pos + skip.length) usizeMax endIp s := by
  induction skip generalizing pos with
  | nil => rfl
  | cons c skip ih =>
    have hc := h c (.head _)
    rw [List.cons_append, scanIp, if_neg (by simp [isIpChar_of_skipChar hc]), if_pos ⟨hc, rfl⟩,
      ih fun c hc => h c (.tail _ hc)]
    simp [Nat.add_assoc, Nat.add_comm 1]

theorem scanIp_run (run : List Char) (h : ∀ c ∈ run, isIpChar c) (hstart : startIp ≠ usizeMax) :
    scanIp pos startIp endIp (run ++ s) =
      scanIp (pos + run.length) startIp (if run = [] then endIp else pos + run.length - 1) s := by
  induction run generalizing pos endIp with
  | nil => simp
  | cons c run ih =>
    rw [List.cons_append, scanIp, if_pos (h c (.head _)), if_neg hstart,
      ih fun c hc => h c (.tail _ hc)]
    cases run <;> simp [Nat.add_assoc, Nat.add_comm 1]

theorem scanIp_stop (hstart : startIp ≠ usizeMax) (hs : ∀ c ∈ s.head?, isIpChar c = false) :
    scanIp pos startIp endIp s = (startIp, endIp) := by
  cases s with
  | nil => rfl
  | cons c s =>
    have := hs c rfl
    simp [scanIp, this, hstart]

/-- **The scan finds the first run.**  After quotes, brackets and spaces, the scan keeps the run
of address characters up to the first character that is not one. -/
theorem scanIp_eq {skip run tail : List Char} (hskip : ∀ c ∈ skip, SkipChar c)
    (hrun : run ≠ []) (hrun' : ∀ c ∈ run, isIpChar c)
    (htail : ∀ c ∈ tail.head?, isIpChar c = false) (hlen : skip.length + run.length ≤ isizeMax) :
    scanIp 0 usizeMax usizeMax (skip ++ run ++ tail) =
      (skip.length, skip.length + run.length - 1) := by
  obtain ⟨c, run, rfl⟩ := List.exists_cons_of_ne_nil hrun
  have hmax : skip.length + (run.length + 1) < usizeMax := by
    unfold isizeMax at hlen; unfold usizeMax; simp at hlen; omega
  rw [List.append_assoc, scanIp_skip skip hskip, List.cons_append, scanIp,
    if_pos (hrun' c (.head _)), if_pos rfl, scanIp_run run (fun c hc => hrun' c (.tail _ hc))
      (by omega), scanIp_stop (by omega) htail]
  cases run <;> simp
  omega

/-- `get` returns the run the scan found. -/
theorem strGetInclusive_run {skip run tail : List Char} (hrun : run ≠ [])
    (hlen : skip.length + run.length ≤ isizeMax) :
    strGetInclusive (skip ++ run ++ tail) skip.length (skip.length + run.length - 1) =
      some run := by
  have hpos := List.length_pos.2 hrun
  have hmax : skip.length + run.length < usizeMax := by
    unfold isizeMax at hlen; unfold usizeMax; omega
  rw [strGetInclusive, if_neg (by omega), if_pos ⟨by omega, by simp; omega⟩,
    show skip.length + run.length - 1 + 1 - skip.length = run.length by omega]
  simp

/-- The `Forwarded` branch parses the first run of address characters after the first `for=`. -/
theorem forwardedIp_eq_run {h before skip run tail : List Char} (hvis : h.all isVisibleAscii)
    (hsplit : splitOnce "for=".toList (toAsciiLowercase h) = some (before, skip ++ run ++ tail))
    (hskip : ∀ c ∈ skip, SkipChar c) (hrun : run ≠ []) (hrun' : ∀ c ∈ run, isIpChar c)
    (htail : ∀ c ∈ tail.head?, isIpChar c = false) (hlen : skip.length + run.length ≤ isizeMax) :
    forwardedIp h = IpAddr.fromStr run := by
  simp only [forwardedIp, HeaderValue.toStr, if_pos hvis, Option.some_bind, hsplit,
    scanIp_eq hskip hrun hrun' htail hlen]
  rw [strGetInclusive_run hrun hlen, Option.some_bind]

/-! ## The nodes of RFC 7239 that name an address -/

/-- A `node` of RFC 7239 that names an IP address, as a `for=` parameter carries it: the address,
IPv4 or, between brackets, IPv6; a port of one to five digits after a colon, or none; and double
quotes around the whole, or none. -/
structure IpNode where
  address : List Char
  v6 : Bool
  port : Option (List Char)
  quoted : Bool
  port_digits : ∀ p ∈ port, p ≠ [] ∧ p.length ≤ 5 ∧ ∀ c ∈ p, 48 ≤ c.toNat ∧ c.toNat ≤ 57

/-- What stands before the address: the opening quote, then for IPv6 the bracket. -/
def IpNode.opening (n : IpNode) : List Char :=
  (if n.quoted then ['"'] else []) ++ (if n.v6 then ['['] else [])

/-- What stands after the address: for IPv6 the bracket, then the port, then the closing quote. -/
def IpNode.closing (n : IpNode) : List Char :=
  (if n.v6 then [']'] else []) ++ (n.port.elim [] fun p => ':' :: p) ++
    (if n.quoted then ['"'] else [])

/-- The text of a node. -/
def IpNode.text (n : IpNode) : List Char := n.opening ++ n.address ++ n.closing

/-- The address a node names, when its text is an address of its family. -/
def IpNode.ip (n : IpNode) : Option IpAddr :=
  if n.v6 then (Ipv6Addr.fromStr n.address).map .v6 else (Ipv4Addr.fromStr n.address).map .v4

section Node

variable {n : IpNode} {a : IpAddr}

theorem IpNode.skipChar_opening : ∀ c ∈ n.opening, SkipChar c := by
  unfold IpNode.opening
  split_ifs <;> simp [SkipChar]

theorem IpNode.toLower_opening : toAsciiLowercase n.opening = n.opening := by
  unfold IpNode.opening
  split_ifs <;> rfl

theorem IpNode.fromStr_address (ha : n.ip = some a) : IpAddr.fromStr n.address = some a := by
  unfold IpNode.ip at ha
  split_ifs at ha
  · obtain ⟨a', h, rfl⟩ := Option.map_eq_some'.1 ha
    exact IpAddr.fromStr_of_ipv6 h
  · obtain ⟨a', h, rfl⟩ := Option.map_eq_some'.1 ha
    exact IpAddr.fromStr_of_ipv4 h

theorem IpNode.addrChar_address (ha : n.ip = some a) : ∀ c ∈ n.address, AddrChar c := by
  unfold IpNode.ip at ha
  split_ifs at ha
  · obtain ⟨a', h, -⟩ := Option.map_eq_some'.1 ha
    exact consumes_readIpv6Addr.of_parseWith h
  · obtain ⟨a', h, -⟩ := Option.map_eq_some'.1 ha
    exact (consumes_readIpv4Addr.of_parseWith h)

theorem IpNode.address_ne_nil (ha : n.ip = some a) : n.address ≠ [] := by
  intro hn
  have h := IpNode.fromStr_address ha
  rw [hn, show IpAddr.fromStr [] = none by decide] at h
  cases h

end Node

theorem isIpChar_toLower_of_addrChar {c : Char} (h : AddrChar c) : isIpChar c.toLower = true := by
  rw [isIpChar_iff]
  rcases h with h | rfl | rfl
  · have hl := toNat_toLower c
    rw [toDigit_sixteen_isSome_iff] at h
    exact (show (48 ≤ c.toLower.toNat ∧ c.toLower.toNat ≤ 57) ∨
      (97 ≤ c.toLower.toNat ∧ c.toLower.toNat ≤ 102) by split_ifs at hl <;> omega).imp_right .inl
  · decide
  · decide

/-- The address of a node, lowercased, is a run the scan keeps. -/
theorem IpNode.isIpChar_address {n : IpNode} {a : IpAddr} (ha : n.ip = some a) :
    ∀ c ∈ toAsciiLowercase n.address, isIpChar c := by
  simp only [toAsciiLowercase, List.mem_map]
  rintro _ ⟨c, hc, rfl⟩
  exact isIpChar_toLower_of_addrChar (n.addrChar_address ha c hc)

/-! ## What the `Forwarded` header yields -/

theorem toAsciiLowercase_append (s t : List Char) :
    toAsciiLowercase (s ++ t) = toAsciiLowercase s ++ toAsciiLowercase t :=
  List.map_append _ _ _

/-- A decimal digit is no letter, so lowercasing keeps it. -/
theorem toLower_digit {c : Char} (h : 48 ≤ c.toNat ∧ c.toNat ≤ 57) : c.toLower = c :=
  (toLower_eq_iff (t := c) (by unfold NotLetter; omega)).2 rfl

section Node

variable {n : IpNode} {post : List Char}

/-- Where the scan stops after an IPv4 address: at the closing quote, or at what follows the
node. -/
theorem stop_quote (quoted : Bool) (hpost : ∀ c ∈ post.head?, isIpChar c.toLower = false) :
    ∀ c ∈ (toAsciiLowercase ((if quoted then ['"'] else []) ++ post)).head?,
      isIpChar c = false := by
  cases quoted
  · cases post with
    | nil => simp [toAsciiLowercase]
    | cons c post => simpa [toAsciiLowercase] using hpost c rfl
  · simp only [if_true, toAsciiLowercase, List.singleton_append, List.map_cons, List.head?_cons,
      Option.mem_def, Option.some.injEq]
    rintro _ rfl
    rfl

/-- After the address of an IPv6 node, or of a node without a port, there is nothing the scan
keeps. -/
theorem IpNode.stop_closing (hn : n.v6 ∨ n.port = none)
    (hpost : ∀ c ∈ post.head?, isIpChar c.toLower = false) :
    ∀ c ∈ (toAsciiLowercase (n.closing ++ post)).head?, isIpChar c = false := by
  unfold IpNode.closing
  cases hv : n.v6
  · have hp : n.port = none := by simpa [hv] using hn
    simpa [hp] using stop_quote n.quoted hpost
  · simp only [if_true, toAsciiLowercase, List.singleton_append, List.cons_append, List.map_cons,
      List.head?_cons, Option.mem_def, Option.some.injEq]
    rintro _ rfl
    rfl

/-- A port is digits, which lowercasing keeps. -/
theorem IpNode.toLower_port {p : List Char} (hp : n.port = some p) : toAsciiLowercase p = p :=
  (List.map_congr_left fun c hc => toLower_digit ((n.port_digits p hp).2.2 c hc)).trans
    (List.map_id p)

/-- After the address of an IPv4 node with a port: the colon, the port, and what follows it. -/
theorem IpNode.toLower_closing_port {p : List Char} (hv : n.v6 = false) (hp : n.port = some p) :
    toAsciiLowercase (n.closing ++ post) =
      ':' :: p ++ toAsciiLowercase ((if n.quoted then ['"'] else []) ++ post) := by
  have hdigits := n.toLower_port hp
  unfold toAsciiLowercase at hdigits
  simp only [IpNode.closing, hv, hp, Bool.false_eq_true, if_false, List.nil_append, Option.elim_some,
    toAsciiLowercase, List.map_append, List.map_cons, List.cons_append, List.append_assoc, hdigits]
  rfl

/-- An IPv4 address with its port after it, lowercased, is no address. -/
theorem IpNode.fromStr_address_port {p : List Char} {a : IpAddr} (ha : n.ip = some a)
    (hv : n.v6 = false) (hp : n.port = some p) :
    IpAddr.fromStr (toAsciiLowercase n.address ++ ':' :: p) = none := by
  obtain ⟨a₄, h₄, -⟩ : ∃ a₄, Ipv4Addr.fromStr n.address = some a₄ ∧ IpAddr.v4 a₄ = a := by
    simpa [IpNode.ip, hv] using ha
  rw [← n.toLower_port hp, show ':' :: toAsciiLowercase p = toAsciiLowercase (':' :: p) from rfl,
    ← toAsciiLowercase_append, IpAddr.fromStr_toLower]
  exact IpAddr.fromStr_append_of_ipv4 h₄ (by simp) (by simp [toDigit])

end Node

/-- The text after the first `for=` of a header whose first `for=`, in any case, stands before the
node `n`. -/
theorem splitOnce_header {pre key post : List Char} (n : IpNode)
    (hkey : toAsciiLowercase key = "for=".toList)
    (hpre : ¬ "for=".toList <:+: toAsciiLowercase pre) :
    splitOnce "for=".toList (toAsciiLowercase (pre ++ key ++ n.text ++ post)) =
      some (toAsciiLowercase pre,
        n.opening ++ toAsciiLowercase n.address ++ toAsciiLowercase (n.closing ++ post)) := by
  rw [show toAsciiLowercase (pre ++ key ++ n.text ++ post) = toAsciiLowercase pre ++
      "for=".toList ++ (n.opening ++ toAsciiLowercase n.address ++ toAsciiLowercase (n.closing ++ post))
    by simp only [IpNode.text, toAsciiLowercase_append, hkey, IpNode.toLower_opening,
      List.append_assoc]]
  exact splitOnce_append (by decide) fun h =>
    hpre (@infix_of_infix_append "for".toList _ _ '=' (by decide) h)

section Header

variable {pre key post : List Char} {n : IpNode} {a : IpAddr}

/-- An IPv6 node, or a node without a port, yields its address. -/
theorem forwardedIp_node_address (ha : n.ip = some a) (hkey : toAsciiLowercase key = "for=".toList)
    (hpre : ¬ "for=".toList <:+: toAsciiLowercase pre)
    (hpost : ∀ c ∈ post.head?, isIpChar c.toLower = false)
    (hvis : (pre ++ key ++ n.text ++ post).all isVisibleAscii)
    (hlen : (pre ++ key ++ n.text ++ post).length ≤ isizeMax) (hn : n.v6 ∨ n.port = none) :
    forwardedIp (pre ++ key ++ n.text ++ post) = some a := by
  simp only [IpNode.text, List.length_append] at hlen
  rw [forwardedIp_eq_run hvis (splitOnce_header n hkey hpre) n.skipChar_opening
    (by simpa [toAsciiLowercase] using n.address_ne_nil ha) (n.isIpChar_address ha)
    (n.stop_closing hn hpost) (by simp only [toAsciiLowercase, List.length_map]; omega),
    IpAddr.fromStr_toLower, n.fromStr_address ha]

/-- An IPv4 node with a port yields nothing: the scan takes the port into the address. -/
theorem forwardedIp_node_port {p : List Char} (ha : n.ip = some a)
    (hkey : toAsciiLowercase key = "for=".toList) (hpre : ¬ "for=".toList <:+: toAsciiLowercase pre)
    (hpost : ∀ c ∈ post.head?, isIpChar c.toLower = false)
    (hvis : (pre ++ key ++ n.text ++ post).all isVisibleAscii)
    (hlen : (pre ++ key ++ n.text ++ post).length ≤ isizeMax) (hv : n.v6 = false)
    (hp : n.port = some p) :
    forwardedIp (pre ++ key ++ n.text ++ post) = none := by
  have hsplit : splitOnce "for=".toList (toAsciiLowercase (pre ++ key ++ n.text ++ post)) =
      some (toAsciiLowercase pre, n.opening ++ (toAsciiLowercase n.address ++ ':' :: p) ++
        toAsciiLowercase ((if n.quoted then ['"'] else []) ++ post)) := by
    rw [splitOnce_header n hkey hpre, n.toLower_closing_port hv hp]
    simp
  have hrun : ∀ c ∈ toAsciiLowercase n.address ++ ':' :: p, isIpChar c := by
    simp only [List.mem_append, List.mem_cons]
    rintro c (hc | rfl | hc)
    · exact n.isIpChar_address ha c hc
    · rfl
    · exact isIpChar_iff.2 (.inl ((n.port_digits p hp).2.2 c hc))
  have hl : p.length + 1 ≤ n.closing.length := by
    unfold IpNode.closing
    rw [hv, hp]
    cases n.quoted <;> simp
  simp only [IpNode.text, List.length_append] at hlen
  rw [forwardedIp_eq_run hvis hsplit n.skipChar_opening (by simp) hrun (stop_quote n.quoted hpost)
    (by simp [toAsciiLowercase]; omega), n.fromStr_address_port ha hv hp]

end Header

/-- **What the `Forwarded` header yields.**  Take a header that passed `to_str`, whose first
`for=`, in any case, stands before a node `n` of RFC 7239 naming the address `a`, and after which
comes nothing or a character the scan does not keep.  The client address is `a` when the node is
IPv6 or has no port: the request is refused if `a` is blocked and goes on from `a` otherwise.  An
IPv4 node with a port yields no address, the port being read as part of it: the request goes on
as if there were no `Forwarded` header. -/
theorem forwardedIp_node (pre key post : List Char) (n : IpNode) {a : IpAddr}
    (ha : n.ip = some a) (hkey : toAsciiLowercase key = "for=".toList)
    (hpre : ¬ "for=".toList <:+: toAsciiLowercase pre)
    (hpost : ∀ c ∈ post.head?, isIpChar c.toLower = false)
    (hvis : (pre ++ key ++ n.text ++ post).all isVisibleAscii)
    (hlen : (pre ++ key ++ n.text ++ post).length ≤ isizeMax) :
    forwardedIp (pre ++ key ++ n.text ++ post) =
        (if n.v6 ∨ n.port = none then some a else none) ∧
      ∀ (isIpBlocked : IpAddr → Bool) (xForwardedFor : Option (List Char))
        (sessionRemoteIp : IpAddr),
        resolveRemoteIp true isIpBlocked (some (pre ++ key ++ n.text ++ post)) xForwardedFor
            sessionRemoteIp =
          if n.v6 ∨ n.port = none then (if isIpBlocked a then .forbidden else .resolved a)
          else resolveRemoteIp true isIpBlocked none xForwardedFor sessionRemoteIp := by
  have hfwd : forwardedIp (pre ++ key ++ n.text ++ post) =
      if n.v6 ∨ n.port = none then some a else none := by
    split_ifs with hn
    · exact forwardedIp_node_address ha hkey hpre hpost hvis hlen hn
    · obtain ⟨hv, p, hp⟩ : n.v6 = false ∧ ∃ p, n.port = some p := by
        simp only [not_or, Bool.not_eq_true] at hn
        exact ⟨hn.1, Option.ne_none_iff_exists'.1 hn.2⟩
      exact forwardedIp_node_port ha hkey hpre hpost hvis hlen hv hp
  refine ⟨hfwd, fun isIpBlocked xForwardedFor sessionRemoteIp => ?_⟩
  simp only [resolveRemoteIp, Bool.not_true, Bool.false_eq_true, if_false, Option.some_bind,
    Option.none_bind, hfwd]
  split_ifs <;> simp [Option.orElse, *]

/-- A quoted, bracketed IPv6 node with a port, in upper case. -/
def ipv6PortNode : IpNode where
  address := "2001:DB8::17".toList
  v6 := true
  port := some "4711".toList
  quoted := true
  port_digits := by decide

theorem forwardedIp_node_ipv6 :
    ipv6PortNode.ip = some (.v6 (Ipv6Addr.ofHeadTail [0x2001, 0xdb8] [0x17])) ∧
    toAsciiLowercase "For=".toList = "for=".toList ∧
    ¬ "for=".toList <:+: toAsciiLowercase "by=_hidden;".toList ∧
    (∀ c ∈ ";proto=https".toList.head?, isIpChar c.toLower = false) ∧
    ("by=_hidden;".toList ++ "For=".toList ++ ipv6PortNode.text ++ ";proto=https".toList).all
      isVisibleAscii ∧
    ("by=_hidden;".toList ++ "For=".toList ++ ipv6PortNode.text ++ ";proto=https".toList).length ≤
      isizeMax ∧
    (forwardedIp ("by=_hidden;".toList ++ "For=".toList ++ ipv6PortNode.text ++
        ";proto=https".toList) =
      (if ipv6PortNode.v6 ∨ ipv6PortNode.port = none then
        some (.v6 (Ipv6Addr.ofHeadTail [0x2001, 0xdb8] [0x17])) else none) ∧
      ∀ (isIpBlocked : IpAddr → Bool) (xForwardedFor : Option (List Char))
        (sessionRemoteIp : IpAddr),
        resolveRemoteIp true isIpBlocked (some ("by=_hidden;".toList ++ "For=".toList ++
            ipv6PortNode.text ++ ";proto=https".toList)) xForwardedFor sessionRemoteIp =
          if ipv6PortNode.v6 ∨ ipv6PortNode.port = none then
            (if isIpBlocked (.v6 (Ipv6Addr.ofHeadTail [0x2001, 0xdb8] [0x17])) then .forbidden
              else .resolved (.v6 (Ipv6Addr.ofHeadTail [0x2001, 0xdb8] [0x17])))
          else resolveRemoteIp true isIpBlocked none xForwardedFor sessionRemoteIp) :=
  have ha : ipv6PortNode.ip = some (.v6 (Ipv6Addr.ofHeadTail [0x2001, 0xdb8] [0x17])) := by decide
  have hkey : toAsciiLowercase "For=".toList = "for=".toList := by decide
  have hpre : ¬ "for=".toList <:+: toAsciiLowercase "by=_hidden;".toList := by decide
  have hpost : ∀ c ∈ ";proto=https".toList.head?, isIpChar c.toLower = false := by decide
  have hvis : ("by=_hidden;".toList ++ "For=".toList ++ ipv6PortNode.text ++
      ";proto=https".toList).all isVisibleAscii := by decide
  have hlen : ("by=_hidden;".toList ++ "For=".toList ++ ipv6PortNode.text ++
      ";proto=https".toList).length ≤ isizeMax := by decide
  ⟨ha, hkey, hpre, hpost, hvis, hlen,
    forwardedIp_node _ _ _ ipv6PortNode ha hkey hpre hpost hvis hlen⟩

/-- An IPv4 node with a port, quoted as RFC 7239 has it: the scan takes the port into the
address, which then does not parse, and the request is taken to come from the `X-Forwarded-For`
address, or from the proxy itself when there is none. -/
theorem forwardedIp_ipv4_port_falls_back :
    IpAddr.fromStr "192.0.2.60".toList = some (.v4 (Ipv4Addr.ofOctets [192, 0, 2, 60])) ∧
    forwardedIp "for=\"192.0.2.60:8080\"".toList = none ∧
    resolveRemoteIp true (fun _ => false) (some "for=\"192.0.2.60:8080\"".toList)
        (some "203.0.113.9".toList) (.v4 (Ipv4Addr.ofOctets [10, 0, 0, 1])) =
      .resolved (.v4 (Ipv4Addr.ofOctets [203, 0, 113, 9])) ∧
    resolveRemoteIp true (fun _ => false) (some "for=\"192.0.2.60:8080\"".toList) none
        (.v4 (Ipv4Addr.ofOctets [10, 0, 0, 1])) =
      .resolved (.v4 (Ipv4Addr.ofOctets [10, 0, 0, 1])) :=
  ⟨by decide, by decide, by decide, by decide⟩

end MailServer
