import MailServer.Http.Router

/-!
# Who reaches a handler

The checks of `parse_http_request` stand in front of its handlers: `authenticate_headers` before
the JMAP API, the blob endpoints, the session, the management API and the token endpoints that
need a token; the anonymous rate limit before the metadata, autoconfig, OAuth device and token
endpoints, the contact form, the health checks and `robots.txt`.  `parseHttpRequest_guarded`
says that this holds of every request, whatever the collaborators answer: every handler, and
every read of the request body, comes after a check that let the request in, with one exception,
the OAuth client registration.  The lookups the router makes itself, of webadmin resources, ACME
proofs, the logo and the Prometheus metrics, need no check.
-/

namespace MailServer

/-- Whether a call's answer lets the request in: an authentication or an access-token check that
succeeded, or the anonymous rate limit admitting the client. -/
@[simp] def Collaborators.admits (env : Collaborators) : Call → Bool
  | .authenticate allowApiAccess => (env.authenticate allowApiAccess).isOk
  | .anonymousAllowed remoteIp => (env.anonymousAllowed remoteIp).isOk
  | .validateAccessToken grant token => (env.validateAccessToken grant token).isOk
  | _ => false

/-- The calls that hand the request, or its body, on: `fetch_body`, `FormData::from_request` and
the handlers. -/
@[simp] def Call.servesRequest : Call → Bool
  | .fetchBody _ | .formData _ | .handle _ => true
  | _ => false

/-- Whether every call of `calls` that serves the request, but the OAuth client registration,
comes after a call whose answer let the request in. -/
def Collaborators.guarded (env : Collaborators) : List Call → Bool
  | [] => true
  | c :: calls =>
    env.admits c || (!c.servesRequest || c == .handle .oauthRegistration) && env.guarded calls

@[simp] theorem Collaborators.guarded_nil (env : Collaborators) : env.guarded [] = true := rfl

@[simp] theorem Collaborators.guarded_cons (env : Collaborators) (c : Call) (calls : List Call) :
    env.guarded (c :: calls) =
      (env.admits c || (!c.servesRequest || c == .handle .oauthRegistration) && env.guarded calls) :=
  rfl

theorem Call.servesRequest_of_admits (env : Collaborators) {a : Call} (h : env.admits a) :
    a.servesRequest = false := by
  cases a <;> simp_all

/-- What `guarded` promises: before a call that serves the request, but the registration, stands
a call that let the request in. -/
theorem Collaborators.exists_admits_of_guarded (env : Collaborators) {pre post : List Call}
    {c : Call} (h : env.guarded (pre ++ c :: post)) (hc : c.servesRequest)
    (hreg : c ≠ .handle .oauthRegistration) : ∃ a ∈ pre, env.admits a := by
  induction pre with
  | nil =>
    have hadm : env.admits c = false := by
      cases ha : env.admits c
      · rfl
      · rw [Call.servesRequest_of_admits env ha] at hc
        cases hc
    rw [List.nil_append, Collaborators.guarded_cons, hadm, hc] at h
    simp [hreg] at h
  | cons b pre ih =>
    by_cases hb : env.admits b
    · exact ⟨b, .head _, hb⟩
    · obtain ⟨a, ha, hadm⟩ := ih (by simp_all)
      exact ⟨a, .tail _ ha, hadm⟩

section Guarded

variable (env : Collaborators)

/-! ### The steps of the routes -/

@[simp] theorem guarded_bind {α : Type} (x : Except ErrorEvent α) (k : α → Run) :
    env.guarded (Run.bind x k).calls ↔ ∀ a, x = .ok a → env.guarded (k a).calls := by
  cases x <;> simp

@[simp] theorem guarded_ite {p : Prop} [Decidable p] (r s : Run) :
    env.guarded (if p then r else s).calls =
      if p then env.guarded r.calls else env.guarded s.calls :=
  apply_ite (fun r : Run => env.guarded r.calls) p r s

@[simp] theorem guarded_authenticated (allowApiAccess : Bool) (k : AccessToken → Run) :
    env.guarded (authenticated env allowApiAccess k).calls := by
  cases h : env.authenticate allowApiAccess <;> simp [authenticated, h]

@[simp] theorem guarded_anonymous (remoteIp : IpAddr) (k : Run) :
    env.guarded (anonymous env remoteIp k).calls := by
  cases h : env.anonymousAllowed remoteIp <;> simp [anonymous, h]

@[simp] theorem guarded_validated (grant : GrantType) (token : String) (k : Nat → Run) :
    env.guarded (validated env grant token k).calls := by
  cases h : env.validateAccessToken grant token <;> simp [validated, h]

@[simp] theorem guarded_notFound (remoteIp : IpAddr) (path : String) :
    env.guarded (notFound env remoteIp path).calls := by
  simp [notFound]

/-- The registration handler is the one handler served with no check. -/
@[simp] theorem guarded_registration : env.guarded (handled env .oauthRegistration).calls := by
  simp [handled]

/-! ### The routes

Each route is guarded arm by arm, over the shapes `Http/Router.lean` lists for it. -/

variable (cfg : HttpConfig) (remoteIp : IpAddr) (req : HttpRequest) (segs : List String)

@[simp] theorem guarded_routeJmap : env.guarded (routeJmap cfg env remoteIp req segs).calls := by
  rcases routeJmap_cases cfg env remoteIp req segs with
    ⟨-, -, h⟩ | ⟨-, -, h⟩ | ⟨-, -, h⟩ | ⟨-, -, h⟩ | ⟨-, -, h⟩ | ⟨-, h⟩ | ⟨-, h⟩ <;> simp [h]

@[simp] theorem guarded_routeWellKnown :
    env.guarded (routeWellKnown cfg env remoteIp req segs).calls := by
  rcases routeWellKnown_cases cfg env remoteIp req segs with
    ⟨-, -, h⟩ | ⟨-, -, h⟩ | ⟨-, -, h⟩ | ⟨-, -, h⟩ | ⟨-, -, h⟩ | ⟨-, -, h⟩ | ⟨-, -, h⟩ | ⟨-, h⟩ |
    ⟨-, h⟩ <;> simp [h]
  -- the ACME challenge
  split <;> simp

@[simp] theorem guarded_routeAuth : env.guarded (routeAuth env remoteIp req segs).calls := by
  rcases routeAuth_cases env remoteIp req segs with
    ⟨-, -, h⟩ | ⟨-, -, h⟩ | ⟨-, -, h⟩ | ⟨-, -, h⟩ | ⟨-, -, h⟩ | ⟨-, -, h⟩ | ⟨-, h⟩ | ⟨-, h⟩ <;>
    simp [h]

@[simp] theorem guarded_routeApi : env.guarded (routeApi cfg env req segs).calls := by
  rcases routeApi_cases cfg env req segs with
    ⟨-, h⟩ | ⟨-, _, hauth, h⟩ | ⟨-, -, _, _, -, h⟩ | ⟨-, _, -, h⟩
  case inr.inl => simp [h, hauth]
  all_goals simp [h]

@[simp] theorem guarded_routeHealthz :
    env.guarded (routeHealthz cfg env remoteIp req segs).calls :=
  guarded_anonymous env remoteIp _

@[simp] theorem guarded_routeMetrics :
    env.guarded (routeMetrics cfg env remoteIp req segs).calls := by
  rcases routeMetrics_cases cfg env remoteIp req segs with ⟨_, -, h⟩ | h <;> simp [h]

@[simp] theorem guarded_routeWebadmin : env.guarded (routeWebadmin env remoteIp req).calls := by
  simp [routeWebadmin]

@[simp] theorem guarded_routeLogo : env.guarded (routeLogo env remoteIp req).calls := by
  rcases routeLogo_cases env remoteIp req with ⟨_, -, h⟩ | h <;> simp [h]

@[simp] theorem guarded_routeForm : env.guarded (routeForm cfg env remoteIp req).calls := by
  rcases routeForm_cases cfg env remoteIp req with ⟨_, -, -, h⟩ | ⟨-, h⟩ | h <;> simp [h, handled]

theorem guarded_route : env.guarded (route cfg env remoteIp req segs).calls := by
  rcases route_cases cfg env remoteIp req segs with
    ⟨-, h⟩ | ⟨-, h⟩ | ⟨-, h⟩ | ⟨-, h⟩ | ⟨-, h⟩ | ⟨-, h⟩ | ⟨-, h⟩ | ⟨-, h⟩ | ⟨-, h⟩ | ⟨-, h⟩ |
    ⟨-, h⟩ | ⟨-, h⟩ <;> simp [h]

end Guarded

/-- **Every handler comes after a check that let the request in.**  Whatever its collaborators
answer, every handler `parse_http_request` calls, and every read of the request body
(`fetch_body`, `FormData::from_request`), comes after an authentication or an access-token
check that succeeded, or after the anonymous rate limit admitted the client.  The one exception
is the OAuth client registration, `POST /auth/register`, which the router hands on unchecked. -/
theorem parseHttpRequest_guarded (cfg : HttpConfig) (env : Collaborators) (remoteIp : IpAddr)
    (req : HttpRequest) {pre post : List Call} {c : Call}
    (h : (parseHttpRequest cfg env remoteIp req).calls = pre ++ c :: post)
    (hc : c.servesRequest) (hreg : c ≠ .handle .oauthRegistration) :
    ∃ a ∈ pre, env.admits a := by
  have hg : env.guarded (parseHttpRequest cfg env remoteIp req).calls := by
    unfold parseHttpRequest
    split_ifs
    · simp
    · exact guarded_route env cfg remoteIp req _
  exact env.exists_admits_of_guarded (h ▸ hg) hc hreg

/-- A device authorization request: its handler comes after the rate limiter admitted the
client. -/
theorem parseHttpRequest_guarded_deviceAuth :
    ∃ a ∈ [Call.anonymousAllowed (.v4 (.ofOctets [192, 0, 2, 1]))],
      Collaborators.permissive.admits a :=
  @parseHttpRequest_guarded HttpConfig.sample .permissive (.v4 (.ofOctets [192, 0, 2, 1]))
    ⟨.post, "/auth/device", none, none, none, none, []⟩ _ [] (.handle .deviceAuth) rfl rfl
    (by decide)

end MailServer
