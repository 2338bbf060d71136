import MailServer.Http.Contract
import MailServer.Http.Forwarded

/-!
# A request of an HTTP session

`handle_session` (`jmap/src/api/http.rs`) serves every request of a connection the same way: it
takes the client's address, the connection's own or, with `http_use_forwarded`, the one the
`Forwarded` or else the `X-Forwarded-For` header names (`resolveRemoteIp`); it refuses a
forwarded address that `is_ip_blocked` with `403 Forbidden`; and it hands the request to
`parse_http_request` as coming from that address (`serveRequest`).

The address it passes on is the one every check of the router is made with.  The endpoint rule
`http_allowed_endpoint` lets loopback addresses through, to avoid lockouts, and with
`http_use_forwarded` the address is the one the first `for=` of the `Forwarded` header names,
which a proxy that appends its own entry leaves to the client.  `serveRequest_forwarded` says
what follows: the rate limiter and the banned-path check are asked about the named address, and
when it is a loopback address the request is routed whatever the endpoint rule says and from
whichever connection it comes.
-/

namespace MailServer

/-- The closure `handle_session` serves each request with: the client's address, `403 Forbidden`
for a blocked forwarded one, then `parse_http_request` from that address.  `forwarded` and
`xForwardedFor` are the first values of the two headers, if any.  What follows the run, turning
an error into its response and adding the configured `http_headers`, changes neither the calls
nor a status the router returns. -/
def serveRequest (cfg : HttpConfig) (httpUseForwarded : Bool) (isIpBlocked : IpAddr → Bool)
    (env : Collaborators) (sessionRemoteIp : IpAddr) (forwarded xForwardedFor : Option (List Char))
    (req : HttpRequest) : Run :=
  match resolveRemoteIp httpUseForwarded isIpBlocked forwarded xForwardedFor sessionRemoteIp with
  | .forbidden => .done (.ok (.status 403))
  | .resolved remoteIp => parseHttpRequest cfg env remoteIp req

section Forwarded

variable (cfg : HttpConfig) (env : Collaborators) (isIpBlocked : IpAddr → Bool)
  (sessionRemoteIp : IpAddr) (xForwardedFor : Option (List Char)) (req : HttpRequest)

/-- A `Forwarded` header that yields an address which is not blocked decides the client's
address, whatever the connection's and the `X-Forwarded-For` one. -/
theorem resolveRemoteIp_forwarded {header : List Char} {a : IpAddr}
    (hfwd : forwardedIp header = some a) (hblocked : isIpBlocked a = false) :
    resolveRemoteIp true isIpBlocked (some header) xForwardedFor sessionRemoteIp = .resolved a := by
  simp [resolveRemoteIp, Option.orElse, hfwd, hblocked]

/-- The endpoint rule does not apply to a loopback address. -/
theorem parseHttpRequest_of_loopback {remoteIp : IpAddr} (hl : remoteIp.isLoopback) :
    parseHttpRequest cfg env remoteIp req = route cfg env remoteIp req (pathSegments req.path) := by
  simp [parseHttpRequest, hl]

/-- **The `Forwarded` header decides who the client is.**  With `http_use_forwarded`, take a
request whose `Forwarded` header yields an address `a` that is not blocked (`forwardedIp_node`
says which headers yield which address).  The rate limiter and the banned-path check are asked
about `a`; and when `a` is a loopback address, the request is routed as if it came from the
server itself, whatever the endpoint rule answers and whatever connection it came on. -/
theorem serveRequest_forwarded {header : List Char} {a : IpAddr}
    (hfwd : forwardedIp header = some a) (hblocked : isIpBlocked a = false) :
    (∀ c ∈ (serveRequest cfg true isIpBlocked env sessionRemoteIp (some header) xForwardedFor
        req).calls, c.about a req.path) ∧
      (a.isLoopback →
        serveRequest cfg true isIpBlocked env sessionRemoteIp (some header) xForwardedFor req =
          route cfg env a req (pathSegments req.path)) := by
  have hserve : serveRequest cfg true isIpBlocked env sessionRemoteIp (some header) xForwardedFor
      req = parseHttpRequest cfg env a req := by
    rw [serveRequest,
      resolveRemoteIp_forwarded isIpBlocked sessionRemoteIp xForwardedFor hfwd hblocked]
  rw [hserve]
  exact ⟨forall_mem_parseHttpRequest_about cfg env a req,
    parseHttpRequest_of_loopback cfg env req⟩

end Forwarded

/-- The permissive collaborators behind an endpoint rule that refuses every request with
`403`. -/
def Collaborators.lockedDown : Collaborators :=
  { Collaborators.permissive with endpointAccess := some 403 }

/-- A client at `198.51.100.7` that the endpoint rule refuses, behind a proxy at `10.0.0.2` that
appends its entry to a `Forwarded` header naming `127.0.0.1`: its health check is answered. -/
theorem serveRequest_forwarded_loopback :
    parseHttpRequest HttpConfig.sample .lockedDown (.v4 (.ofOctets [198, 51, 100, 7]))
        ⟨.get, "/healthz/live", none, none, none, none, []⟩ = .done (.ok (.status 403)) ∧
      forwardedIp "for=127.0.0.1, for=198.51.100.7".toList = some (.v4 (.ofOctets [127, 0, 0, 1])) ∧
      serveRequest HttpConfig.sample true (fun _ => false) .lockedDown
          (.v4 (.ofOctets [10, 0, 0, 2])) (some "for=127.0.0.1, for=198.51.100.7".toList) none
          ⟨.get, "/healthz/live", none, none, none, none, []⟩ =
        route HttpConfig.sample .lockedDown (.v4 (.ofOctets [127, 0, 0, 1]))
          ⟨.get, "/healthz/live", none, none, none, none, []⟩ (pathSegments "/healthz/live") := by
  have hfwd : forwardedIp "for=127.0.0.1, for=198.51.100.7".toList =
      some (.v4 (.ofOctets [127, 0, 0, 1])) := by decide
  exact ⟨rfl, hfwd, (serveRequest_forwarded HttpConfig.sample .lockedDown (fun _ => false)
    (.v4 (.ofOctets [10, 0, 0, 2])) none ⟨.get, "/healthz/live", none, none, none, none, []⟩
    hfwd rfl).2 rfl⟩

end MailServer
