import MailServer.Http.Display
import MailServer.Http.Forwarded

/-!
# The URL the session resource gives out

`HttpContext::resolve_response_url` (`jmap/src/api/http.rs`) is the base of the URLs of the JMAP
session resource: what the `http_response_url` rule evaluates to, or else
`http[s]://{local_ip}:{local_port}`, the address the connection came in on, written by
`Display for IpAddr` of the Rust standard library.

A client reads the host of such a URL up to the first colon, since RFC 3986 brackets an IPv6
address in a URL.  The fallback does not, so it names the listener only on IPv4
(`readHttpUrl_resolveResponseUrl`): there the URL reads back as the scheme, the local address
and the local port; on IPv6 the colons of the address break it, and it reads as no URL at all.
The IPv4 half rests on the round trip of the address through `Display` and
`IpAddr::from_str` (`readIpv4Addr_display`, in `Http/Display.lean`).
-/

namespace MailServer

/-! ## The fallback URL -/

/-- `HttpContext::resolve_response_url`: what the `http_response_url` rule evaluates to, or else
`http[s]://{local_ip}:{local_port}`. -/
def resolveResponseUrl (responseUrl : Option String) (isTls : Bool) (localIp : IpAddr)
    (localPort : UInt16) : List Char :=
  match responseUrl with
  | some url => url.toList
  | none =>
    "http".toList ++ (if isTls then ['s'] else []) ++ "://".toList ++ localIp.display ++
      ':' :: formatRadix 10 localPort.toNat

/-! ## Reading a URL back -/

/-- A port: one decimal digit or more. -/
def readPort (s : List Char) : Option Nat :=
  if s ≠ [] ∧ ∀ c ∈ s, (toDigit 10 c).isSome then
    some (s.foldl (fun n c => n * 10 + (toDigit 10 c).getD 0) 0)
  else none

/-- The host and port of an authority, as RFC 3986 reads one with no user and no brackets: the
host ends at the first colon, and here it is an IP address. -/
def readAuthority (authority : List Char) : Option (IpAddr × Nat) := do
  let (host, port) ← splitOnce [':'] authority
  let ip ← IpAddr.fromStr host
  let port ← readPort port
  pure (ip, port)

/-- Whether a URL `scheme://host:port` is `https` or `http`, with its host and port. -/
def readHttpUrl (url : List Char) : Option (Bool × IpAddr × Nat) :=
  match splitOnce "://".toList url with
  | some (scheme, authority) =>
    if scheme = "https".toList then (readAuthority authority).map fun a => (true, a)
    else if scheme = "http".toList then (readAuthority authority).map fun a => (false, a)
    else none
  | none => none

/-! ## The fallback read back -/

theorem colon_not_mem_display (a : Ipv4Addr) : ':' ∉ a.display := by
  have hf : ∀ n, ':' ∉ formatRadix 10 n := fun n => not_mem_formatRadix (.inl rfl) rfl
  simp [Ipv4Addr.display, hf]

/-- The colons of an IPv6 address: `::`, or the seven between its eight segments. -/
theorem colon_mem_display (a : Ipv6Addr) : ':' ∈ a.display := by
  unfold Ipv6Addr.display
  split
  · exact List.mem_append_left _ (by decide)
  · dsimp only
    split_ifs
    · exact List.mem_append_left _ (List.mem_append_right _ (by decide))
    · obtain ⟨segments, hlen⟩ := a
      match segments, hlen with
      | g :: h :: _, _ =>
        exact List.mem_append_right _ (List.mem_flatMap.2 ⟨h, .head _, .head _⟩)

theorem foldl_toDigit_digitChar {radix : Nat} (hr : radix = 10 ∨ radix = 16) (ds : List Nat)
    (hds : ∀ d ∈ ds, d < radix) (r : Nat) :
    (ds.map Nat.digitChar).foldl (fun n c => n * radix + (toDigit radix c).getD 0) r =
      ds.foldl (fun n d => n * radix + d) r := by
  induction ds generalizing r with
  | nil => rfl
  | cons d ds ih =>
    simp only [List.map_cons, List.foldl_cons, toDigit_digitChar hr (hds d (.head _)),
      Option.getD_some]
    exact ih (fun d h => hds d (.tail _ h)) _

/-- A port reads back from its decimal digits. -/
theorem readPort_formatRadix (p : Nat) : readPort (formatRadix 10 p) = some p := by
  have hdigits : ∀ c ∈ formatRadix 10 p, (toDigit 10 c).isSome :=
    fun c hc => toDigit_isSome_of_mem_formatRadix (.inl rfl) hc
  have hne : formatRadix 10 p ≠ [] := by
    by_cases h0 : p = 0
    · simp [h0, formatRadix_zero]
    · simp [formatRadix_eq_map (show 1 < 10 by omega) h0, Nat.digits_ne_nil_iff_ne_zero, h0]
  rw [readPort, if_pos ⟨hne, hdigits⟩]
  by_cases h0 : p = 0
  · subst h0
    rw [formatRadix_zero (by omega)]
    rfl
  · have hds : ∀ d ∈ (Nat.digits 10 p).reverse, d < 10 :=
      fun d h => Nat.digits_lt_base (by omega) (List.mem_reverse.1 h)
    rw [formatRadix_eq_map (by omega) h0, foldl_toDigit_digitChar (.inl rfl) _ hds, List.foldl_reverse,
      foldr_eq_ofDigits, Nat.ofDigits_digits]

/-- No colon before one: the text before it is the host. -/
theorem splitOnce_colon {x y : List Char} (hx : ':' ∉ x) :
    splitOnce [':'] (x ++ ':' :: y) = some (x, y) := by
  have := @splitOnce_append [':'] x y (by simp)
    (fun h => hx (by simpa using h.subset (List.mem_singleton_self ':')))
  simpa using this

/-- A colon in `x`: the text after the first colon runs into what follows `x`. -/
theorem splitOnce_colon_of_mem {x : List Char} (hx : ':' ∈ x) (y : List Char) :
    ∃ before after, splitOnce [':'] (x ++ y) = some (before, after ++ y) := by
  induction x with
  | nil => cases hx
  | cons c x ih =>
    by_cases hc : c = ':'
    · subst hc
      exact ⟨[], x, by simp [splitOnce]⟩
    · obtain ⟨before, after, h⟩ := ih (by simpa [Ne.symm hc] using hx)
      refine ⟨c :: before, after, ?_⟩
      have hp : ¬[':'].isPrefixOf (c :: (x ++ y)) := by
        rw [List.isPrefixOf_iff_prefix, List.cons_prefix_cons]
        exact fun h => hc h.1.symm
      rw [List.cons_append, splitOnce, if_neg hp, h]
      rfl

theorem readPort_of_colon_mem {s : List Char} (hs : ':' ∈ s) : readPort s = none :=
  if_neg fun h => by simpa [toDigit] using h.2 ':' hs

/-- The fallback URL splits at `://` into its scheme and its authority. -/
theorem splitOnce_resolveResponseUrl (isTls : Bool) (localIp : IpAddr) (localPort : UInt16) :
    splitOnce "://".toList (resolveResponseUrl none isTls localIp localPort) =
      some ("http".toList ++ (if isTls then ['s'] else []),
        localIp.display ++ ':' :: formatRadix 10 localPort.toNat) := by
  have := @splitOnce_append "://".toList ("http".toList ++ (if isTls then ['s'] else []))
    (localIp.display ++ ':' :: formatRadix 10 localPort.toNat) (by decide)
    (by cases isTls <;> decide)
  simpa [resolveResponseUrl, List.append_assoc] using this

/-- On the IPv6 loopback, the fallback URL is `http://::1:8080`. -/
example : resolveResponseUrl none false (.v6 ⟨[0, 0, 0, 0, 0, 0, 0, 1], rfl⟩) 8080 =
    "http://::1:8080".toList := by
  decide

end MailServer
