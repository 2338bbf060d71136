import MailServer.Http.Router

/-!
# What the router gives its collaborators

Every call `parse_http_request` makes is given what the checks before it established
(`Call.Made`).  A handler that gets an access token gets the one `authenticate_headers`
returned, with API access exactly for the management API; the JMAP API gets the body `fetch_body`
read under that token's limit, once `Request::parse` accepted it; the telemetry API is reached
only in the enterprise edition with the account of a live-tracing or live-metrics token, and the
troubleshooting API only with the account of a troubleshooting token, both only after the
credentials of the request failed; the anonymous handlers only once the rate limiter admitted
the client; the Prometheus metrics only with the configured secret.  `parseHttpRequest_made`
says this of every request, whatever the collaborators answer.

Two facts follow: the rate limiter and the banned-path check are asked about the session's
address and the request's path (`forall_mem_parseHttpRequest_about`), and a CORS preflight
(`OPTIONS`) never runs the authentication; under `/jmap`, `/.well-known`, `/auth` and `/api` it
is answered `204` with no call at all (`parseHttpRequest_options`).

The responses obey the same contract (`Response.Made`, `parseHttpRequest_yields`): each is made
only from what the checks before it established, and a blob download only for an authenticated
request, from what `blob_download` gave for its token, named by the path and typed by the
`accept` parameter.
-/

namespace MailServer

/-! ## The contract -/

/-- What a handler is given, for a request `req` from `remoteIp`. -/
def Handler.Given (cfg : HttpConfig) (env : Collaborators) (remoteIp : IpAddr) (req : HttpRequest) :
    Handler → Prop
  | .jmapRequest bytes token =>
    env.authenticate false = .ok token ∧
      jmapRequestBody req.body cfg.uploadMaxSize token.unlimitedUploads = .ok bytes ∧
      env.parseRequest bytes = .ok ()
  | .blobUpload _ contentType bytes token =>
    env.authenticate false = .ok token ∧
      uploadBody req.body cfg.uploadMaxSize token.unlimitedUploads = .ok bytes ∧
      contentType = req.contentType.getD "application/octet-stream"
  | .eventSource token | .webSocket token | .sessionResource token | .tokenIntrospect token
  | .userinfo token => env.authenticate false = .ok token
  | .apiManage token => env.authenticate true = .ok token
  | .telemetryApi accountId =>
    cfg.enterprise ∧ cfg.isEnterpriseEdition ∧ env.authenticate true = .error .authFailed ∧
      ∃ grant token, grant ≠ .troubleshoot ∧ req.tokenParam = some token ∧
        env.validateAccessToken grant token = .ok accountId
  | .troubleshootApi accountId =>
    env.authenticate true = .error .authFailed ∧
      ∃ token, req.tokenParam = some token ∧
        env.validateAccessToken .troubleshoot token = .ok accountId
  | .autodiscover body => env.anonymousAllowed remoteIp = .ok () ∧ body = fetchBody req.body 8192
  | .contactForm =>
    env.anonymousAllowed remoteIp = .ok () ∧ cfg.contactForm.isSome ∧ env.formData = .ok ()
  | .oauthRegistration => True
  | .oauthMetadata | .oidcMetadata | .autoconfig | .deviceAuth | .tokenRequest =>
    env.anonymousAllowed remoteIp = .ok ()

/-- What the router knows when it makes a call, for a request `req` from `remoteIp` whose path
has the segments `segs`. -/
def Call.Made (cfg : HttpConfig) (env : Collaborators) (remoteIp : IpAddr) (req : HttpRequest)
    (segs : List String) : Call → Prop
  | .authenticate _ => req.method ≠ .options
  | .anonymousAllowed ip => ip = remoteIp
  | .fetchBody maxSize =>
    maxSize = 8192 ∨ ∃ token, env.authenticate false = .ok token ∧
      maxSize = jmapBodyLimit cfg.uploadMaxSize token.unlimitedUploads
  | .parseRequest => True
  | .blobDownload _ => ∃ token, env.authenticate false = .ok token
  | .acmeLookup token => cfg.hasAcmeHttpProviders ∧ segs.get? 3 = some token
  | .exportMetrics =>
    ∃ auth, cfg.prometheus = some auth ∧ ∀ secret ∈ auth, req.authorizationBasic = some secret
  | .logoResource => cfg.enterprise ∧ cfg.isEnterpriseEdition
  | .webadmin path => path = stripSlash req.path ∨ path = "logo.svg"
  | .formData maxSize => cfg.contactForm = some maxSize ∧ env.anonymousAllowed remoteIp = .ok ()
  | .validateAccessToken grant token =>
    env.authenticate true = .error .authFailed ∧
      urlGrant cfg (segs.drop 2) req.tokenParam = some (grant, token)
  | .bannedPath path ip => path = req.path ∧ ip = remoteIp
  | .handle h => h.Given cfg env remoteIp req

/-! ## The steps of the routes -/

section Steps

variable {cfg : HttpConfig} {env : Collaborators} {remoteIp : IpAddr} {req : HttpRequest}
  {segs : List String}

theorem made_done (result : Except ErrorEvent Response) :
    ∀ c ∈ (Run.done result).calls, c.Made cfg env remoteIp req segs := by
  simp

theorem made_after {c : Call} {r : Run} (hc : c.Made cfg env remoteIp req segs)
    (hr : ∀ c ∈ r.calls, c.Made cfg env remoteIp req segs) :
    ∀ d ∈ (Run.after c r).calls, d.Made cfg env remoteIp req segs :=
  List.forall_mem_cons.2 ⟨hc, hr⟩

theorem made_bind {α : Type} {x : Except ErrorEvent α} {k : α → Run}
    (hk : ∀ a, x = .ok a → ∀ c ∈ (k a).calls, c.Made cfg env remoteIp req segs) :
    ∀ c ∈ (Run.bind x k).calls, c.Made cfg env remoteIp req segs := by
  cases x with
  | error e => exact made_done _
  | ok a => exact hk a rfl

theorem made_ite {q : Prop} [Decidable q] {r s : Run}
    (hr : q → ∀ c ∈ r.calls, c.Made cfg env remoteIp req segs)
    (hs : ¬q → ∀ c ∈ s.calls, c.Made cfg env remoteIp req segs) :
    ∀ c ∈ (if q then r else s).calls, c.Made cfg env remoteIp req segs := by
  split_ifs with h
  exacts [hr h, hs h]

theorem made_authenticated {allowApiAccess : Bool} {k : AccessToken → Run}
    (hm : req.method ≠ .options)
    (hk : ∀ token, env.authenticate allowApiAccess = .ok token →
      ∀ c ∈ (k token).calls, c.Made cfg env remoteIp req segs) :
    ∀ c ∈ (authenticated env allowApiAccess k).calls, c.Made cfg env remoteIp req segs :=
  made_after hm (made_bind hk)

theorem made_anonymous {k : Run}
    (hk : env.anonymousAllowed remoteIp = .ok () → ∀ c ∈ k.calls, c.Made cfg env remoteIp req segs) :
    ∀ c ∈ (anonymous env remoteIp k).calls, c.Made cfg env remoteIp req segs :=
  made_after rfl (made_bind fun ⟨⟩ h => hk h)

theorem made_validated {grant : GrantType} {token : String} {k : Nat → Run}
    (hv : env.authenticate true = .error .authFailed ∧
      urlGrant cfg (segs.drop 2) req.tokenParam = some (grant, token))
    (hk : ∀ accountId, env.validateAccessToken grant token = .ok accountId →
      ∀ c ∈ (k accountId).calls, c.Made cfg env remoteIp req segs) :
    ∀ c ∈ (validated env grant token k).calls, c.Made cfg env remoteIp req segs :=
  made_after hv (made_bind hk)

theorem made_handled {h : Handler} (hh : h.Given cfg env remoteIp req) :
    ∀ c ∈ (handled env h).calls, c.Made cfg env remoteIp req segs :=
  made_after hh (made_done _)

theorem made_notFound : ∀ c ∈ (notFound env remoteIp req.path).calls,
    c.Made cfg env remoteIp req segs :=
  made_after ⟨rfl, rfl⟩ (made_bind fun _ _ => made_done _)

theorem made_noContent : ∀ c ∈ noContent.calls, c.Made cfg env remoteIp req segs :=
  made_done _

end Steps

/-- A URL grant carries the request's `token` parameter. -/
theorem urlGrant_token {cfg : HttpConfig} {path : List String} {token? : Option String}
    {grant : GrantType} {token : String} (h : urlGrant cfg path token? = some (grant, token)) :
    token? = some token := by
  unfold urlGrant at h
  split at h <;> (try split_ifs at h) <;> simp_all

/-- A URL grant other than troubleshooting needs the enterprise edition. -/
theorem urlGrant_enterprise {cfg : HttpConfig} {path : List String} {token? : Option String}
    {grant : GrantType} {token : String} (h : urlGrant cfg path token? = some (grant, token))
    (hg : grant ≠ .troubleshoot) : cfg.enterprise ∧ cfg.isEnterpriseEdition := by
  unfold urlGrant at h
  split at h <;> (try split_ifs at h) <;> simp_all

/-- The Prometheus exporter lets a request through exactly with the configured secret, if one
is configured. -/
theorem metrics_secret {auth basic : Option String}
    (h : (auth.any fun auth => basic.all (· != auth)) = false) :
    ∀ secret ∈ auth, basic = some secret := by
  rcases auth with _ | a <;> rcases basic with _ | b <;> simp_all

/-! ## The routes -/

section Routes

variable (cfg : HttpConfig) (env : Collaborators) (remoteIp : IpAddr) (req : HttpRequest)
  (segs : List String)

theorem made_routeJmap :
    ∀ c ∈ (routeJmap cfg env remoteIp req segs).calls, c.Made cfg env remoteIp req segs := by
  rcases routeJmap_cases cfg env remoteIp req segs with
    ⟨-, hm, h⟩ | ⟨-, hm, h⟩ | ⟨-, hm, h⟩ | ⟨-, hm, h⟩ | ⟨-, hm, h⟩ | ⟨-, h⟩ | ⟨-, h⟩ <;> rw [h]
  · refine made_authenticated (by simp [hm]) fun token htoken => ?_
    refine made_after (.inr ⟨token, htoken, rfl⟩) (made_bind fun bytes hbytes => ?_)
    refine made_after trivial (made_bind fun ⟨⟩ hparse => ?_)
    exact made_after ⟨htoken, (Except.mapError_eq_ok _ _ _).1 hbytes, hparse⟩ (made_done _)
  · refine made_authenticated (by simp [hm]) fun token htoken => ?_
    split
    · exact made_after ⟨token, htoken⟩ (made_bind fun _ _ => made_done _)
    · exact made_notFound
  · refine made_authenticated (by simp [hm]) fun token htoken => ?_
    split
    · refine made_after (.inr ⟨token, htoken, rfl⟩) (made_bind fun bytes hbytes => ?_)
      exact made_handled ⟨htoken, (Except.mapError_eq_ok _ _ _).1 hbytes, rfl⟩
    · exact made_notFound
  · exact made_authenticated (by simp [hm]) fun _ htoken => made_handled htoken
  · exact made_authenticated (by simp [hm]) fun _ htoken => made_handled htoken
  · exact made_noContent
  · exact made_notFound

theorem made_routeWellKnown :
    ∀ c ∈ (routeWellKnown cfg env remoteIp req segs).calls, c.Made cfg env remoteIp req segs := by
  rcases routeWellKnown_cases cfg env remoteIp req segs with
    ⟨-, hm, h⟩ | ⟨-, -, h⟩ | ⟨-, -, h⟩ | ⟨-, -, h⟩ | ⟨-, -, h⟩ | ⟨-, -, h⟩ | ⟨-, -, h⟩ | ⟨-, h⟩ |
    ⟨-, h⟩ <;> rw [h]
  · exact made_authenticated (by simp [hm]) fun _ htoken => made_handled htoken
  · exact made_anonymous fun ha => made_handled ha
  · exact made_anonymous fun ha => made_handled ha
  · refine made_ite (fun hacme => ?_) fun _ => made_notFound
    split
    next token htoken => exact made_after ⟨hacme, htoken⟩ (made_bind fun _ _ => made_done _)
    · exact made_notFound
  · exact made_anonymous fun _ => made_done _
  · exact made_anonymous fun ha => made_handled ha
  · exact made_ite (fun _ => made_anonymous fun ha => made_handled ha) fun _ => made_notFound
  · exact made_noContent
  · exact made_notFound

theorem made_routeAuth :
    ∀ c ∈ (routeAuth env remoteIp req segs).calls, c.Made cfg env remoteIp req segs := by
  rcases routeAuth_cases env remoteIp req segs with
    ⟨-, -, h⟩ | ⟨-, -, h⟩ | ⟨-, hm, h⟩ | ⟨-, hm, h⟩ | ⟨-, -, h⟩ | ⟨-, -, h⟩ | ⟨-, h⟩ | ⟨-, h⟩ <;>
    rw [h]
  · exact made_anonymous fun ha => made_handled ha
  · exact made_anonymous fun ha => made_handled ha
  · exact made_authenticated (by simp [hm]) fun _ htoken => made_handled htoken
  · exact made_authenticated (by simp [hm]) fun _ htoken => made_handled htoken
  · exact made_handled trivial
  · exact made_anonymous fun _ => made_done _
  · exact made_noContent
  · exact made_notFound

theorem made_routeApi :
    ∀ c ∈ (routeApi cfg env req segs).calls, c.Made cfg env remoteIp req segs := by
  rcases routeApi_cases cfg env req segs with
    ⟨-, h⟩ | ⟨hm, _, hauth, h⟩ | ⟨hm, hfailed, grant, token, hgrant, h⟩ | ⟨hm, _, -, h⟩ <;> rw [h]
  · exact made_noContent
  · exact made_after hm (made_handled hauth)
  · have htok := urlGrant_token hgrant
    refine made_after hm (made_validated ⟨hfailed, hgrant⟩ fun accountId hv => ?_)
    cases grant with
    | troubleshoot => exact made_handled ⟨hfailed, token, htok, hv⟩
    | liveTracing | liveMetrics =>
      have he := urlGrant_enterprise hgrant (by decide)
      exact made_handled ⟨he.1, he.2, hfailed, _, token, by decide, htok, hv⟩
  · exact made_after hm (made_done _)

theorem made_routeHealthz :
    ∀ c ∈ (routeHealthz cfg env remoteIp req segs).calls, c.Made cfg env remoteIp req segs := by
  rcases routeHealthz_cases cfg env remoteIp req segs with h | h | h <;> rw [h]
  · exact made_anonymous fun _ => made_done _
  · exact made_anonymous fun _ => made_done _
  · exact made_anonymous fun _ => made_notFound

theorem made_routeMetrics :
    ∀ c ∈ (routeMetrics cfg env remoteIp req segs).calls, c.Made cfg env remoteIp req segs := by
  rcases routeMetrics_cases cfg env remoteIp req segs with ⟨auth, hprom, h⟩ | h <;> rw [h]
  · refine made_ite (fun _ => made_done _) fun hsecret => ?_
    refine made_after ⟨auth, hprom, metrics_secret (by simpa using hsecret)⟩ ?_
    exact made_bind fun _ _ => made_done _
  · exact made_notFound

/-- What a webadmin resource lookup leads to. -/
theorem made_webadminResource {path : String} (hpath : path = stripSlash req.path ∨ path = "logo.svg") :
    ∀ c ∈ (Run.after (.webadmin path) <| .bind (env.webadmin path) fun resource =>
        if resource.isEmpty then notFound env remoteIp req.path
        else .done (.ok (.resource resource.contentType resource.contents))).calls,
      c.Made cfg env remoteIp req segs :=
  made_after hpath (made_bind fun _ _ => made_ite (fun _ => made_notFound) fun _ => made_done _)

theorem made_routeWebadmin :
    ∀ c ∈ (routeWebadmin env remoteIp req).calls, c.Made cfg env remoteIp req segs :=
  made_webadminResource cfg env remoteIp req segs (.inl rfl)

theorem made_routeLogo (he : cfg.enterprise ∧ cfg.isEnterpriseEdition) :
    ∀ c ∈ (routeLogo env remoteIp req).calls, c.Made cfg env remoteIp req segs := by
  rcases routeLogo_cases env remoteIp req with ⟨_, -, h⟩ | h <;> rw [h]
  · exact made_after he (made_done _)
  · exact made_after he (made_webadminResource cfg env remoteIp req segs (.inr rfl))

theorem made_routeForm :
    ∀ c ∈ (routeForm cfg env remoteIp req).calls, c.Made cfg env remoteIp req segs := by
  rcases routeForm_cases cfg env remoteIp req with ⟨maxSize, hform, -, h⟩ | ⟨-, h⟩ | h <;> rw [h]
  · refine made_anonymous fun ha => made_after ⟨hform, ha⟩ (made_bind fun ⟨⟩ hf => ?_)
    exact made_handled ⟨ha, by simp [hform], hf⟩
  · exact made_noContent
  · exact made_notFound

theorem made_route :
    ∀ c ∈ (route cfg env remoteIp req segs).calls, c.Made cfg env remoteIp req segs := by
  rcases route_cases cfg env remoteIp req segs with
    ⟨-, h⟩ | ⟨-, h⟩ | ⟨-, h⟩ | ⟨-, h⟩ | ⟨-, h⟩ | ⟨-, h⟩ | ⟨-, h⟩ | ⟨-, h⟩ | ⟨-, h⟩ | ⟨-, h⟩ |
    ⟨-, h⟩ | ⟨-, h⟩ <;> rw [h]
  · exact made_routeJmap cfg env remoteIp req segs
  · exact made_routeWellKnown cfg env remoteIp req segs
  · exact made_routeAuth cfg env remoteIp req segs
  · exact made_routeApi cfg env remoteIp req segs
  · exact made_ite (fun _ => made_anonymous fun ha => made_handled ha) fun _ => made_notFound
  · refine made_ite (fun _ => made_anonymous fun ha => ?_) fun _ => made_notFound
    exact made_after (.inl rfl) (made_handled ⟨ha, rfl⟩)
  · exact made_anonymous fun _ => made_done _
  · exact made_routeHealthz cfg env remoteIp req segs
  · exact made_routeMetrics cfg env remoteIp req segs
  · exact made_ite (made_routeLogo cfg env remoteIp req segs) fun _ =>
      made_routeWebadmin cfg env remoteIp req segs
  · exact made_routeForm cfg env remoteIp req segs
  · exact made_routeWebadmin cfg env remoteIp req segs

/-- The routes under the four prefixes that authenticate. -/
theorem route_of_authenticating (hs : segment segs 1 ∈ ["jmap", ".well-known", "auth", "api"]) :
    route cfg env remoteIp req segs = routeJmap cfg env remoteIp req segs ∨
      route cfg env remoteIp req segs = routeWellKnown cfg env remoteIp req segs ∨
      route cfg env remoteIp req segs = routeAuth env remoteIp req segs ∨
      route cfg env remoteIp req segs = routeApi cfg env req segs := by
  rcases route_cases cfg env remoteIp req segs with
    ⟨-, h⟩ | ⟨-, h⟩ | ⟨-, h⟩ | ⟨-, h⟩ | ⟨hs', -⟩ | ⟨hs', -⟩ | ⟨hs', -⟩ | ⟨hs', -⟩ | ⟨hs', -⟩ |
    ⟨hs', -⟩ | ⟨hs', -⟩ | ⟨hs', -⟩
  · exact .inl h
  · exact .inr (.inl h)
  · exact .inr (.inr (.inl h))
  · exact .inr (.inr (.inr h))
  iterate 7 exact absurd (hs' ▸ hs) (by decide)
  -- the webadmin arm: no prefix of the four
  exact absurd ((List.prefix_append _ _).subset hs) hs'

end Routes

/-- **What each call is given.**  Whatever its collaborators answer, every call
`parse_http_request` makes is given only what the checks before it established: every token a
handler gets is the one `authenticate_headers` returned, every account id a URL grant leads to
is the one `validate_access_token` returned for a grant of its kind, and every body, secret,
path and address is the one `Call.Made` names. -/
theorem parseHttpRequest_made (cfg : HttpConfig) (env : Collaborators) (remoteIp : IpAddr)
    (req : HttpRequest) :
    ∀ c ∈ (parseHttpRequest cfg env remoteIp req).calls,
      c.Made cfg env remoteIp req (pathSegments req.path) := by
  unfold parseHttpRequest
  split_ifs
  · simp
  · exact made_route cfg env remoteIp req _

/-- A JMAP API request is handed on with the token the authentication returned and the body that
was read. -/
theorem parseHttpRequest_made_jmapRequest :
    (Call.handle (.jmapRequest [] ⟨1, false⟩)).Made HttpConfig.sample .permissive
      (.v4 (.ofOctets [192, 0, 2, 1])) ⟨.post, "/jmap/", none, none, none, none, []⟩
      (pathSegments "/jmap/") :=
  parseHttpRequest_made HttpConfig.sample .permissive _ _ _ (by decide)

/-! ## The address and the path the checks are asked about -/

/-- Whether a call is asked about the client at `remoteIp` and the path `path`, if it is asked
about a client at all: the rate limiter about `remoteIp`, the banned-path check about both. -/
@[simp] def Call.about (remoteIp : IpAddr) (path : String) : Call → Bool
  | .anonymousAllowed ip => ip == remoteIp
  | .bannedPath p ip => p == path && ip == remoteIp
  | _ => true

theorem Call.about_of_made {cfg : HttpConfig} {env : Collaborators} {remoteIp : IpAddr}
    {req : HttpRequest} {segs : List String} {c : Call} (h : c.Made cfg env remoteIp req segs) :
    c.about remoteIp req.path := by
  cases c with
  | anonymousAllowed ip => exact beq_iff_eq.2 h
  | bannedPath path ip => simp [h.1, h.2]
  | _ => rfl

/-- The rate limiter and the banned-path check of `parse_http_request` are asked about the
session's address and the request's path. -/
theorem forall_mem_parseHttpRequest_about (cfg : HttpConfig) (env : Collaborators)
    (remoteIp : IpAddr) (req : HttpRequest) :
    ∀ c ∈ (parseHttpRequest cfg env remoteIp req).calls, c.about remoteIp req.path := by
  unfold parseHttpRequest
  split_ifs
  · simp
  · exact fun c hc => Call.about_of_made (made_route cfg env remoteIp req _ c hc)

/-! ## CORS preflights -/

/-- Whether a call authenticates the request. -/
@[simp] def Call.isAuthenticate : Call → Bool
  | .authenticate _ => true
  | _ => false

theorem Call.isAuthenticate_of_made {cfg : HttpConfig} {env : Collaborators} {remoteIp : IpAddr}
    {req : HttpRequest} {segs : List String} {c : Call} (hm : req.method = .options)
    (h : c.Made cfg env remoteIp req segs) : c.isAuthenticate = false := by
  cases c with
  | authenticate => exact absurd hm h
  | _ => rfl

section Preflight

variable (cfg : HttpConfig) (env : Collaborators) (remoteIp : IpAddr) (req : HttpRequest)
  (segs : List String) (hm : req.method = .options)
include hm

theorem routeJmap_options : routeJmap cfg env remoteIp req segs = noContent := by
  rcases routeJmap_cases cfg env remoteIp req segs with
    ⟨-, hm', -⟩ | ⟨-, hm', -⟩ | ⟨-, hm', -⟩ | ⟨-, hm', -⟩ | ⟨-, hm', -⟩ | ⟨-, h⟩ | ⟨hm', -⟩
  iterate 5 exact absurd (hm.symm.trans hm') (by decide)
  exacts [h, absurd hm hm']

theorem routeWellKnown_options : routeWellKnown cfg env remoteIp req segs = noContent := by
  rcases routeWellKnown_cases cfg env remoteIp req segs with
    ⟨-, hm', -⟩ | ⟨-, hm', -⟩ | ⟨-, hm', -⟩ | ⟨-, hm', -⟩ | ⟨-, hm', -⟩ | ⟨-, hm', -⟩ |
    ⟨-, hm', -⟩ | ⟨-, h⟩ | ⟨hm', -⟩
  iterate 7 exact absurd (hm.symm.trans hm') (by decide)
  exacts [h, absurd hm hm']

theorem routeAuth_options : routeAuth env remoteIp req segs = noContent := by
  rcases routeAuth_cases env remoteIp req segs with
    ⟨-, hm', -⟩ | ⟨-, hm', -⟩ | ⟨-, hm', -⟩ | ⟨-, hm', -⟩ | ⟨-, hm', -⟩ | ⟨-, hm', -⟩ | ⟨-, h⟩ |
    ⟨hm', -⟩
  iterate 6 exact absurd (hm.symm.trans hm') (by decide)
  exacts [h, absurd hm hm']

theorem routeApi_options : routeApi cfg env req segs = noContent := by
  simp [routeApi, hm]

end Preflight

/-- **A CORS preflight never authenticates.**  Whatever path it asks for, no call of an
`OPTIONS` request is an authentication; under `/jmap`, `/.well-known`, `/auth` and `/api`, once
past the endpoint rule, it is answered `204 No Content` with no call at all. -/
theorem parseHttpRequest_options (cfg : HttpConfig) (env : Collaborators) (remoteIp : IpAddr)
    (req : HttpRequest) (hm : req.method = .options) :
    (∀ c ∈ (parseHttpRequest cfg env remoteIp req).calls, c.isAuthenticate = false) ∧
      (segment (pathSegments req.path) 1 ∈ ["jmap", ".well-known", "auth", "api"] →
        (env.endpointAccess.getD 200 = 200 ∨ remoteIp.isLoopback) →
        parseHttpRequest cfg env remoteIp req = noContent) := by
  refine ⟨?_, fun hs hgate => ?_⟩
  · unfold parseHttpRequest
    split_ifs
    · simp
    · exact fun c hc => Call.isAuthenticate_of_made hm (made_route cfg env remoteIp req _ c hc)
  · unfold parseHttpRequest
    rw [if_neg (by rcases hgate with h | h <;> simp [h])]
    rcases route_of_authenticating cfg env remoteIp req _ hs with h | h | h | h <;>
      simp [h, routeJmap_options, routeWellKnown_options, routeAuth_options, routeApi_options, hm]

/-- A preflight of the management API is answered `204` with no call. -/
theorem parseHttpRequest_options_api :
    parseHttpRequest HttpConfig.sample .permissive (.v4 (.ofOctets [192, 0, 2, 1]))
      ⟨.options, "/api/principal", none, none, none, none, []⟩ = noContent :=
  (parseHttpRequest_options HttpConfig.sample .permissive _ _ rfl).2 (by decide) (.inl rfl)

/-! ## What each response is made of -/

/-- What a response of the routes is made from, for a request `req` from `remoteIp` whose path
has the segments `segs`: each status, resource, download and handler only from what the checks
before it established. -/
def Response.Made (cfg : HttpConfig) (env : Collaborators) (remoteIp : IpAddr) (req : HttpRequest)
    (segs : List String) : Response → Prop
  | .status code =>
    code = 204 ∧ req.method = .options ∨
      (code = 200 ∨ code = 503) ∧ env.anonymousAllowed remoteIp = .ok ()
  | .resource contentType contents =>
    contentType = "text/plain" ∧
        ((cfg.hasAcmeHttpProviders ∧ ∃ token, segs.get? 3 = some token ∧
            env.acmeProof token = .ok (some contents)) ∨
          env.anonymousAllowed remoteIp = .ok () ∧
            (cfg.mtaStsPolicy = some contents ∨ contents = robotsTxt)) ∨
      contentType = "text/plain; version=0.0.4" ∧
        (∃ auth, cfg.prometheus = some auth ∧ ∀ secret ∈ auth, req.authorizationBasic = some secret) ∧
        env.exportMetrics = .ok contents ∨
      (∃ path, (path = stripSlash req.path ∨ path = "logo.svg") ∧
        env.webadmin path = .ok ⟨contentType, contents⟩ ∧ contents ≠ []) ∨
      cfg.enterprise ∧ cfg.isEnterpriseEdition ∧ env.logoResource = .ok (some ⟨contentType, contents⟩)
  | .download filename contentType blob =>
    segs.get? 5 = some filename ∧ contentType = req.accept.getD "application/octet-stream" ∧
      ∃ token blobId, env.authenticate false = .ok token ∧
        (segs.get? 4).bind env.parseBlobId = some blobId ∧
        env.blobDownload blobId token = .ok (some blob)
  | .jwks => env.anonymousAllowed remoteIp = .ok ()
  | .handler h => h.Given cfg env remoteIp req

/-- Every response of the run `r` satisfies `p`. -/
def Run.Yields (p : Response → Prop) (r : Run) : Prop := ∀ resp, r.result = .ok resp → p resp

section YieldSteps

variable {p : Response → Prop} {env : Collaborators} {remoteIp : IpAddr}

theorem yields_error (e : ErrorEvent) : Run.Yields p (.done (.error e)) :=
  fun _ h => nomatch h

theorem yields_ok {resp : Response} (h : p resp) : Run.Yields p (.done (.ok resp)) :=
  fun _ hr => Except.ok.inj hr ▸ h

theorem Run.Yields.after {c : Call} {r : Run} (h : Run.Yields p r) : Run.Yields p (.after c r) :=
  h

theorem yields_bind {α : Type} {x : Except ErrorEvent α} {k : α → Run}
    (hk : ∀ a, x = .ok a → Run.Yields p (k a)) : Run.Yields p (.bind x k) := by
  cases x with
  | error e => exact yields_error e
  | ok a => exact hk a rfl

theorem yields_ite {q : Prop} [Decidable q] {r s : Run} (hr : q → Run.Yields p r)
    (hs : ¬q → Run.Yields p s) : Run.Yields p (if q then r else s) := by
  split_ifs with h
  exacts [hr h, hs h]

theorem yields_authenticated {allowApiAccess : Bool} {k : AccessToken → Run}
    (hk : ∀ token, env.authenticate allowApiAccess = .ok token → Run.Yields p (k token)) :
    Run.Yields p (authenticated env allowApiAccess k) :=
  Run.Yields.after (yields_bind hk)

theorem yields_anonymous {k : Run} (hk : env.anonymousAllowed remoteIp = .ok () → Run.Yields p k) :
    Run.Yields p (anonymous env remoteIp k) :=
  Run.Yields.after (yields_bind fun ⟨⟩ h => hk h)

theorem yields_handled {h : Handler} (hh : p (.handler h)) : Run.Yields p (handled env h) := by
  refine Run.Yields.after ?_
  cases hr : env.handle h with
  | error e => exact yields_error e
  | ok u => exact yields_ok hh

theorem yields_notFound {path : String} : Run.Yields p (notFound env remoteIp path) :=
  Run.Yields.after (yields_bind fun _ _ => yields_error _)

end YieldSteps

section RouteResponses

variable (cfg : HttpConfig) (env : Collaborators) (remoteIp : IpAddr) (req : HttpRequest)
  (segs : List String)

theorem yields_noContent (hm : req.method = .options) :
    Run.Yields (Response.Made cfg env remoteIp req segs) noContent :=
  yields_ok (.inl ⟨rfl, hm⟩)

theorem yields_routeJmap :
    Run.Yields (Response.Made cfg env remoteIp req segs) (routeJmap cfg env remoteIp req segs) := by
  rcases routeJmap_cases cfg env remoteIp req segs with
    ⟨-, -, h⟩ | ⟨-, -, h⟩ | ⟨-, -, h⟩ | ⟨-, -, h⟩ | ⟨-, -, h⟩ | ⟨hm, h⟩ | ⟨-, h⟩ <;> rw [h]
  · refine yields_authenticated fun token htoken => .after (yields_bind fun bytes hbytes => ?_)
    refine .after (yields_bind fun ⟨⟩ hparse => .after (yields_ok ?_))
    exact ⟨htoken, (Except.mapError_eq_ok _ _ _).1 hbytes, hparse⟩
  · refine yields_authenticated fun token htoken => ?_
    split
    next blobId name _ hblobId hname =>
      refine .after (yields_bind fun blob hblob => ?_)
      split
      · exact yields_ok ⟨hname, rfl, token, blobId, htoken, hblobId, hblob⟩
      · exact yields_error _
    · exact yields_notFound
  · refine yields_authenticated fun token htoken => ?_
    split
    · refine .after (yields_bind fun bytes hbytes => yields_handled ?_)
      exact ⟨htoken, (Except.mapError_eq_ok _ _ _).1 hbytes, rfl⟩
    · exact yields_notFound
  · exact yields_authenticated fun _ htoken => yields_handled htoken
  · exact yields_authenticated fun _ htoken => yields_handled htoken
  · exact yields_noContent cfg env remoteIp req segs hm
  · exact yields_notFound

theorem yields_routeWellKnown : Run.Yields (Response.Made cfg env remoteIp req segs)
    (routeWellKnown cfg env remoteIp req segs) := by
  rcases routeWellKnown_cases cfg env remoteIp req segs with
    ⟨-, -, h⟩ | ⟨-, -, h⟩ | ⟨-, -, h⟩ | ⟨-, -, h⟩ | ⟨-, -, h⟩ | ⟨-, -, h⟩ | ⟨-, -, h⟩ | ⟨hm, h⟩ |
    ⟨-, h⟩ <;> rw [h]
  · exact yields_authenticated fun _ htoken => yields_handled htoken
  · exact yields_anonymous fun ha => yields_handled ha
  · exact yields_anonymous fun ha => yields_handled ha
  · refine yields_ite (fun hacme => ?_) fun _ => yields_notFound
    split
    next token htoken =>
      refine .after (yields_bind fun proof hproof => ?_)
      split
      · exact yields_ok (.inl ⟨rfl, .inl ⟨hacme, token, htoken, hproof⟩⟩)
      · exact yields_error _
    · exact yields_notFound
  · refine yields_anonymous fun ha => ?_
    split
    next hpolicy => exact yields_ok (.inl ⟨rfl, .inr ⟨ha, .inl hpolicy⟩⟩)
    · exact yields_error _
  · exact yields_anonymous fun ha => yields_handled ha
  · exact yields_ite (fun _ => yields_anonymous fun ha => yields_handled ha) fun _ => yields_notFound
  · exact yields_noContent cfg env remoteIp req segs hm
  · exact yields_notFound

theorem yields_routeAuth :
    Run.Yields (Response.Made cfg env remoteIp req segs) (routeAuth env remoteIp req segs) := by
  rcases routeAuth_cases env remoteIp req segs with
    ⟨-, -, h⟩ | ⟨-, -, h⟩ | ⟨-, -, h⟩ | ⟨-, -, h⟩ | ⟨-, -, h⟩ | ⟨-, -, h⟩ | ⟨hm, h⟩ | ⟨-, h⟩ <;>
    rw [h]
  · exact yields_anonymous fun ha => yields_handled ha
  · exact yields_anonymous fun ha => yields_handled ha
  · exact yields_authenticated fun _ htoken => yields_handled htoken
  · exact yields_authenticated fun _ htoken => yields_handled htoken
  · exact yields_handled trivial
  · exact yields_anonymous fun ha => yields_ok ha
  · exact yields_noContent cfg env remoteIp req segs hm
  · exact yields_notFound

theorem yields_routeApi :
    Run.Yields (Response.Made cfg env remoteIp req segs) (routeApi cfg env req segs) := by
  rcases routeApi_cases cfg env req segs with
    ⟨hm, h⟩ | ⟨-, _, hauth, h⟩ | ⟨-, hfailed, grant, token, hgrant, h⟩ | ⟨-, _, -, h⟩ <;> rw [h]
  · exact yields_noContent cfg env remoteIp req segs hm
  · exact .after (yields_handled hauth)
  · have htok := urlGrant_token hgrant
    refine .after (.after (yields_bind fun accountId hv => ?_))
    cases grant with
    | troubleshoot => exact yields_handled ⟨hfailed, token, htok, hv⟩
    | liveTracing | liveMetrics =>
      have he := urlGrant_enterprise hgrant (by decide)
      exact yields_handled ⟨he.1, he.2, hfailed, _, token, by decide, htok, hv⟩
  · exact .after (yields_error _)

theorem yields_routeHealthz : Run.Yields (Response.Made cfg env remoteIp req segs)
    (routeHealthz cfg env remoteIp req segs) := by
  rcases routeHealthz_cases cfg env remoteIp req segs with h | h | h <;> rw [h]
  · exact yields_anonymous fun ha => yields_ok (.inr ⟨.inl rfl, ha⟩)
  · exact yields_anonymous fun ha => yields_ok (.inr ⟨by split_ifs <;> simp, ha⟩)
  · exact yields_anonymous fun _ => yields_notFound

theorem yields_routeMetrics : Run.Yields (Response.Made cfg env remoteIp req segs)
    (routeMetrics cfg env remoteIp req segs) := by
  rcases routeMetrics_cases cfg env remoteIp req segs with ⟨auth, hprom, h⟩ | h <;> rw [h]
  · refine yields_ite (fun _ => yields_error _) fun hsecret => .after (yields_bind fun _ h => ?_)
    exact yields_ok (.inr (.inl ⟨rfl, ⟨auth, hprom, metrics_secret (by simpa using hsecret)⟩, h⟩))
  · exact yields_notFound

/-- What a webadmin resource lookup answers. -/
theorem yields_webadminResource {path : String}
    (hpath : path = stripSlash req.path ∨ path = "logo.svg") :
    Run.Yields (Response.Made cfg env remoteIp req segs)
      (Run.after (.webadmin path) <| .bind (env.webadmin path) fun resource =>
        if resource.isEmpty then notFound env remoteIp req.path
        else .done (.ok (.resource resource.contentType resource.contents))) := by
  refine .after (yields_bind fun resource hr => yields_ite (fun _ => yields_notFound) fun he => ?_)
  refine yields_ok (.inr (.inr (.inl ⟨path, hpath, hr, ?_⟩)))
  simpa [Resource.isEmpty] using he

theorem yields_routeWebadmin :
    Run.Yields (Response.Made cfg env remoteIp req segs) (routeWebadmin env remoteIp req) :=
  yields_webadminResource cfg env remoteIp req segs (.inl rfl)

theorem yields_routeLogo (he : cfg.enterprise ∧ cfg.isEnterpriseEdition) :
    Run.Yields (Response.Made cfg env remoteIp req segs) (routeLogo env remoteIp req) := by
  rcases routeLogo_cases env remoteIp req with ⟨_, hlogo, h⟩ | h <;> rw [h]
  · exact .after (yields_ok (.inr (.inr (.inr ⟨he.1, he.2, hlogo⟩))))
  · exact .after (yields_webadminResource cfg env remoteIp req segs (.inr rfl))

theorem yields_routeForm :
    Run.Yields (Response.Made cfg env remoteIp req segs) (routeForm cfg env remoteIp req) := by
  rcases routeForm_cases cfg env remoteIp req with ⟨maxSize, hform, -, h⟩ | ⟨hm, h⟩ | h <;> rw [h]
  · refine yields_anonymous fun ha => .after (yields_bind fun ⟨⟩ hf => yields_handled ?_)
    exact ⟨ha, by simp [hform], hf⟩
  · exact yields_noContent cfg env remoteIp req segs hm
  · exact yields_notFound

theorem yields_route :
    Run.Yields (Response.Made cfg env remoteIp req segs) (route cfg env remoteIp req segs) := by
  rcases route_cases cfg env remoteIp req segs with
    ⟨-, h⟩ | ⟨-, h⟩ | ⟨-, h⟩ | ⟨-, h⟩ | ⟨-, h⟩ | ⟨-, h⟩ | ⟨-, h⟩ | ⟨-, h⟩ | ⟨-, h⟩ | ⟨-, h⟩ |
    ⟨-, h⟩ | ⟨-, h⟩ <;> rw [h]
  · exact yields_routeJmap cfg env remoteIp req segs
  · exact yields_routeWellKnown cfg env remoteIp req segs
  · exact yields_routeAuth cfg env remoteIp req segs
  · exact yields_routeApi cfg env remoteIp req segs
  · exact yields_ite (fun _ => yields_anonymous fun ha => yields_handled ha) fun _ => yields_notFound
  · refine yields_ite (fun _ => yields_anonymous fun ha => ?_) fun _ => yields_notFound
    exact .after (yields_handled ⟨ha, rfl⟩)
  · exact yields_anonymous fun ha => yields_ok (.inl ⟨rfl, .inr ⟨ha, .inr rfl⟩⟩)
  · exact yields_routeHealthz cfg env remoteIp req segs
  · exact yields_routeMetrics cfg env remoteIp req segs
  · exact yields_ite (yields_routeLogo cfg env remoteIp req segs) fun _ =>
      yields_routeWebadmin cfg env remoteIp req segs
  · exact yields_routeForm cfg env remoteIp req segs
  · exact yields_routeWebadmin cfg env remoteIp req segs

end RouteResponses

/-- The responses of `parse_http_request`: those of the routes, and the status of the endpoint
rule refusing a client that is not on a loopback address. -/
theorem yields_parseHttpRequest (cfg : HttpConfig) (env : Collaborators) (remoteIp : IpAddr)
    (req : HttpRequest) :
    Run.Yields (fun resp => resp.Made cfg env remoteIp req (pathSegments req.path) ∨
        resp = .status (env.endpointAccess.getD 200) ∧ env.endpointAccess.getD 200 ≠ 200 ∧
          remoteIp.isLoopback = false)
      (parseHttpRequest cfg env remoteIp req) := by
  unfold parseHttpRequest
  split_ifs with hgate
  · exact yields_ok (.inr ⟨rfl, hgate.1, by simpa using hgate.2⟩)
  · exact fun resp h => .inl (yields_route cfg env remoteIp req _ resp h)

/-- **What each response is made of.**  Whatever its collaborators answer, every response
`parse_http_request` returns is made only from what the checks before it established
(`Response.Made`), or is the status of the endpoint rule refusing a client that is not on a
loopback address.  A blob download, in particular, is returned only to an authenticated request,
with the blob `blob_download` gave for that token and the blob id of the path, named by the
fifth segment of the path and typed by the `accept` parameter of the query; a resource carries
the content type the router or its lookup gave it. -/
theorem parseHttpRequest_yields (cfg : HttpConfig) (env : Collaborators) (remoteIp : IpAddr)
    (req : HttpRequest) {resp : Response}
    (h : (parseHttpRequest cfg env remoteIp req).result = .ok resp) :
    resp.Made cfg env remoteIp req (pathSegments req.path) ∨
      resp = .status (env.endpointAccess.getD 200) ∧ env.endpointAccess.getD 200 ≠ 200 ∧
        remoteIp.isLoopback = false :=
  yields_parseHttpRequest cfg env remoteIp req resp h

/-- `robots.txt` is answered with the text of the router, once the rate limiter admits the
client. -/
theorem parseHttpRequest_yields_robots :
    (parseHttpRequest HttpConfig.sample .permissive (.v4 (.ofOctets [192, 0, 2, 1]))
        ⟨.get, "/robots.txt", none, none, none, none, []⟩).result =
        .ok (.resource "text/plain" robotsTxt) ∧
      ((Response.resource "text/plain" robotsTxt).Made HttpConfig.sample .permissive
          (.v4 (.ofOctets [192, 0, 2, 1])) ⟨.get, "/robots.txt", none, none, none, none, []⟩
          (pathSegments "/robots.txt") ∨
        Response.resource "text/plain" robotsTxt =
            .status (Collaborators.permissive.endpointAccess.getD 200) ∧
          Collaborators.permissive.endpointAccess.getD 200 ≠ 200 ∧
          (IpAddr.v4 (.ofOctets [192, 0, 2, 1])).isLoopback = false) :=
  have h : (parseHttpRequest HttpConfig.sample .permissive (.v4 (.ofOctets [192, 0, 2, 1]))
      ⟨.get, "/robots.txt", none, none, none, none, []⟩).result =
        .ok (.resource "text/plain" robotsTxt) := rfl
  ⟨h, parseHttpRequest_yields _ _ _ _ h⟩

end MailServer
