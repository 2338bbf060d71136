import MailServer.Http.FetchBody
import MailServer.Http.IpAddr
import Mathlib.Data.List.Basic

/-!
# The dispatch table of the HTTP front end

`parse_http_request` (`jmap/src/api/http.rs`) routes a request by the segments of its path and
its method to the handler that answers it, after the checks each route asks for: the
authentication of the request (`authenticate_headers`), or the rate limit on anonymous requests
(`is_http_anonymous_request_allowed`).  Everything it calls lives outside this file: the
authenticator, the rate limiter, the stores and the handlers of the other modules.  Their
answers are the fields of `Collaborators`, and the theorems quantify over them, so that they hold
whatever those collaborators do.  A run of the router is the list of calls it makes, in order,
and what it returns (`Run`).

Before any route, the endpoint rule `http_allowed_endpoint` may refuse the request with a status
of its own, except from a loopback address.  What the routes guarantee is proved in the modules
that import this one: the order of the checks and the handlers (`parseHttpRequest_guarded`), what
each call is given (`parseHttpRequest_made`), and the CORS preflights
(`parseHttpRequest_options`).  They rest on one lemma per route, proved here, that lists every
shape its run can take (`routeJmap_cases` and the others): the arm of the route's match, with the
segment and the method that chose it.
-/

namespace MailServer

/-! ## Requests, answers and calls -/

/-- The request methods `parse_http_request` tells apart; every other method is `other`. -/
inductive Method
  | get
  | post
  | options
  | other
deriving DecidableEq, Repr

/-- The part of a request the router reads: the method, the path, the `accept` query parameter
(`form_urlencoded`), the `token` parameter of `UrlParams`, the `Content-Type` header that passed
`to_str`, the secret of a basic `Authorization` header, and the frames of the body. -/
structure HttpRequest where
  method : Method
  path : String
  accept : Option String
  tokenParam : Option String
  contentType : Option String
  authorizationBasic : Option String
  body : List FrameResult

/-- The `trc::Error`s of the router, by the event that tells them apart: the ones it raises
itself, and `other` for every other event a collaborator fails with. -/
inductive ErrorEvent
  | authFailed
  | resourceNotFound
  | limit (e : LimitEvent)
  | other (n : Nat)
deriving DecidableEq, Repr

/-- An `AccessToken`: its account, and the one permission the router reads, `UnlimitedUploads`. -/
structure AccessToken where
  accountId : Nat
  unlimitedUploads : Bool
deriving DecidableEq, Repr

/-- The `GrantType`s of the tokens the management API accepts in its URL. -/
inductive GrantType
  | liveTracing
  | liveMetrics
  | troubleshoot
deriving DecidableEq, Repr

/-- A webadmin `Resource`: its content type and its bytes. -/
structure Resource where
  contentType : String
  contents : List UInt8
deriving DecidableEq, Repr

/-- `Resource::is_empty`: a resource with no bytes. -/
def Resource.isEmpty (r : Resource) : Bool := r.contents.isEmpty

/-- The handlers of the other modules the router hands a request to, with what it gives them. -/
inductive Handler
  | jmapRequest (body : List UInt8) (token : AccessToken)
  | blobUpload (accountId : Nat) (contentType : String) (bytes : List UInt8) (token : AccessToken)
  | eventSource (token : AccessToken)
  | webSocket (token : AccessToken)
  | sessionResource (token : AccessToken)
  | oauthMetadata
  | oidcMetadata
  | autoconfig
  | deviceAuth
  | tokenRequest
  | tokenIntrospect (token : AccessToken)
  | userinfo (token : AccessToken)
  | oauthRegistration
  | apiManage (token : AccessToken)
  | telemetryApi (accountId : Nat)
  | troubleshootApi (accountId : Nat)
  | autodiscover (body : Option (List UInt8))
  | contactForm
deriving DecidableEq, Repr

/-- The responses of the router: a bare status (`StatusCode::into_http_response`), a resource, a
blob download, the OpenID key set of the configuration, or what a handler answered. -/
inductive Response
  | status (code : Nat)
  | resource (contentType : String) (contents : List UInt8)
  | download (filename contentType : String) (blob : List UInt8)
  | jwks
  | handler (h : Handler)
deriving DecidableEq, Repr

/-- The calls the router makes, with what it gives them. -/
inductive Call
  | authenticate (allowApiAccess : Bool)
  | anonymousAllowed (remoteIp : IpAddr)
  | fetchBody (maxSize : Nat)
  | parseRequest
  | blobDownload (blobId : Nat)
  | acmeLookup (token : String)
  | exportMetrics
  | logoResource
  | webadmin (path : String)
  | formData (maxSize : Nat)
  | validateAccessToken (grant : GrantType) (token : String)
  | bannedPath (path : String) (remoteIp : IpAddr)
  | handle (h : Handler)
deriving DecidableEq

/-- The answers of the collaborators of `parse_http_request`, for one request: the endpoint rule
(`eval_if` of `http_allowed_endpoint`, `None` when no rule applies), `authenticate_headers` with
its `allow_api_access` flag, the anonymous rate limiter, `Request::parse`, `Id::from_bytes`,
`BlobId::from_base32`, `blob_download`, the ACME key lookup, `export_prometheus_metrics`,
`logo_resource`, the webadmin resources, `FormData::from_request`, `validate_access_token`,
`is_http_banned_path`, and the handlers that can fail. -/
structure Collaborators where
  endpointAccess : Option Nat
  authenticate : Bool → Except ErrorEvent AccessToken
  anonymousAllowed : IpAddr → Except ErrorEvent Unit
  parseRequest : List UInt8 → Except ErrorEvent Unit
  parseId : String → Option Nat
  parseBlobId : String → Option Nat
  blobDownload : Nat → AccessToken → Except ErrorEvent (Option (List UInt8))
  acmeProof : String → Except ErrorEvent (Option (List UInt8))
  exportMetrics : Except ErrorEvent (List UInt8)
  logoResource : Except ErrorEvent (Option Resource)
  webadmin : String → Except ErrorEvent Resource
  formData : Except ErrorEvent Unit
  validateAccessToken : GrantType → String → Except ErrorEvent Nat
  isBannedPath : String → IpAddr → Except ErrorEvent Bool
  handle : Handler → Except ErrorEvent Unit

/-- The configuration the router reads: `upload_max_size`, whether ACME has HTTP providers, the
MTA-STS policy (as text), whether a data store is configured, the Prometheus exporter and its
secret, whether the server is built with the `enterprise` feature and runs the enterprise
edition, and the contact form with its `max_size`. -/
structure HttpConfig where
  uploadMaxSize : Nat
  hasAcmeHttpProviders : Bool
  mtaStsPolicy : Option (List UInt8)
  hasDataStore : Bool
  prometheus : Option (Option String)
  enterprise : Bool
  isEnterpriseEdition : Bool
  contactForm : Option Nat

/-- How a run of the router goes: the calls it makes, in order, and what it returns. -/
structure Run where
  calls : List Call
  result : Except ErrorEvent Response

/-- A return with no further call. -/
def Run.done (result : Except ErrorEvent Response) : Run := ⟨[], result⟩

/-- A call, then the run that follows it. -/
def Run.after (c : Call) (r : Run) : Run := ⟨c :: r.calls, r.result⟩

@[simp] theorem Run.done_calls (result : Except ErrorEvent Response) :
    (Run.done result).calls = [] := rfl

@[simp] theorem Run.after_calls (c : Call) (r : Run) : (Run.after c r).calls = c :: r.calls := rfl

@[simp] theorem Run.after_result (c : Call) (r : Run) : (Run.after c r).result = r.result := rfl

/-! ## The steps every route is made of -/

/-- `x?` and what follows it: the error of `x`, or the run `k` goes on with from its value. -/
def Run.bind {α : Type} (x : Except ErrorEvent α) (k : α → Run) : Run :=
  match x with
  | .ok a => k a
  | .error e => .done (.error e)

@[simp] theorem Except.isOk_ok {α : Type} (a : α) : (Except.ok a : Except ErrorEvent α).isOk = true :=
  rfl

@[simp] theorem Except.isOk_error {α : Type} (e : ErrorEvent) :
    (Except.error e : Except ErrorEvent α).isOk = false :=
  rfl

@[simp] theorem Except.mapError_eq_ok {α ε : Type} (f : ε → ErrorEvent) (x : Except ε α) (a : α) :
    x.mapError f = .ok a ↔ x = .ok a := by
  cases x with
  | error e => exact ⟨fun h => (nomatch h), fun h => (nomatch h)⟩
  | ok b =>
    show (Except.ok b : Except ErrorEvent α) = .ok a ↔ _
    simp only [Except.ok.injEq]

@[simp] theorem Run.bind_ok {α : Type} (a : α) (k : α → Run) : Run.bind (.ok a) k = k a := rfl

@[simp] theorem Run.bind_error {α : Type} (e : ErrorEvent) (k : α → Run) :
    Run.bind (.error e) k = .done (.error e) := rfl

/-- `path.split('/')`: the segments of a path, with the empty one before its leading `/`. -/
def pathSegments (path : String) : List String := (path.toList.splitOn '/').map String.mk

/-- `path.next().unwrap_or_default()` at the `i`-th segment. -/
def segment (segs : List String) (i : Nat) : String := segs.getD i ""

/-- `let (_in_flight, access_token) = self.authenticate_headers(&req, &session, ..).await?;` and
what follows it. -/
def authenticated (env : Collaborators) (allowApiAccess : Bool) (k : AccessToken → Run) : Run :=
  .after (.authenticate allowApiAccess) (.bind (env.authenticate allowApiAccess) k)

/-- `self.is_http_anonymous_request_allowed(&session.remote_ip).await?;` and what follows it. -/
def anonymous (env : Collaborators) (remoteIp : IpAddr) (k : Run) : Run :=
  .after (.anonymousAllowed remoteIp) (.bind (env.anonymousAllowed remoteIp) fun () => k)

/-- `let token_info = self.validate_access_token(grant_type.into(), token).await?;` and what
follows it. -/
def validated (env : Collaborators) (grant : GrantType) (token : String) (k : Nat → Run) : Run :=
  .after (.validateAccessToken grant token) (.bind (env.validateAccessToken grant token) k)

/-- `return self.handle_…(..).await;` for a handler that can fail. -/
def handled (env : Collaborators) (h : Handler) : Run :=
  .after (.handle h) <| .done ((env.handle h).map fun () => .handler h)

/-- The end of every route that does not return: the banned-path check, which only records the
ban, then `ResourceEvent::NotFound`. -/
def notFound (env : Collaborators) (remoteIp : IpAddr) (path : String) : Run :=
  .after (.bannedPath path remoteIp) <|
    .bind (env.isBannedPath path remoteIp) fun _ => .done (.error .resourceNotFound)

/-- `StatusCode::NO_CONTENT.into_http_response()`, the answer to a CORS preflight. -/
def noContent : Run := .done (.ok (.status 204))

@[simp] theorem noContent_calls : noContent.calls = [] := rfl

/-! ## The routes -/

section Routes

variable (cfg : HttpConfig) (env : Collaborators) (remoteIp : IpAddr) (req : HttpRequest)
  (segs : List String)

/-- The `"jmap"` arm: the API, blob downloads and uploads, the event source and the WebSocket. -/
def routeJmap : Run :=
  match segment segs 2, req.method with
  | "", .post =>
    authenticated env false fun token =>
      .after (.fetchBody (jmapBodyLimit cfg.uploadMaxSize token.unlimitedUploads)) <|
        .bind ((jmapRequestBody req.body cfg.uploadMaxSize token.unlimitedUploads).mapError .limit)
          fun bytes =>
            .after .parseRequest <|
              .bind (env.parseRequest bytes) fun () =>
                .after (.handle (.jmapRequest bytes token))
                  (.done (.ok (.handler (.jmapRequest bytes token))))
  | "download", .get =>
    authenticated env false fun token =>
      match (segs.get? 3).bind env.parseId, (segs.get? 4).bind env.parseBlobId, segs.get? 5 with
      | some _, some blobId, some name =>
        .after (.blobDownload blobId) <|
          .bind (env.blobDownload blobId token) fun blob => .done <|
            match blob with
            | some blob => .ok (.download name (req.accept.getD "application/octet-stream") blob)
            | none => .error .resourceNotFound
      | _, _, _ => notFound env remoteIp req.path
  | "upload", .post =>
    authenticated env false fun token =>
      match (segs.get? 3).bind env.parseId with
      | some accountId =>
        .after (.fetchBody (jmapBodyLimit cfg.uploadMaxSize token.unlimitedUploads)) <|
          .bind ((uploadBody req.body cfg.uploadMaxSize token.unlimitedUploads).mapError .limit)
            fun bytes => handled env
              (.blobUpload accountId (req.contentType.getD "application/octet-stream") bytes token)
      | none => notFound env remoteIp req.path
  | "eventsource", .get => authenticated env false fun token => handled env (.eventSource token)
  | "ws", .get => authenticated env false fun token => handled env (.webSocket token)
  | _, .options => noContent
  | _, _ => notFound env remoteIp req.path

/-- The `".well-known"` arm: the JMAP session, the OAuth and OpenID metadata, ACME challenges,
MTA-STS and autoconfig.  When ACME has no HTTP provider, no later arm matches a `GET` of
`acme-challenge`. -/
def routeWellKnown : Run :=
  match segment segs 2, req.method with
  | "jmap", .get => authenticated env false fun token => handled env (.sessionResource token)
  | "oauth-authorization-server", .get => anonymous env remoteIp (handled env .oauthMetadata)
  | "openid-configuration", .get => anonymous env remoteIp (handled env .oidcMetadata)
  | "acme-challenge", .get =>
    if cfg.hasAcmeHttpProviders then
      match segs.get? 3 with
      | some token =>
        .after (.acmeLookup token) <|
          .bind (env.acmeProof token) fun proof => .done <|
            match proof with
            | some proof => .ok (.resource "text/plain" proof)
            | none => .error .resourceNotFound
      | none => notFound env remoteIp req.path
    else notFound env remoteIp req.path
  | "mta-sts.txt", .get =>
    anonymous env remoteIp <| .done <|
      match cfg.mtaStsPolicy with
      | some policy => .ok (.resource "text/plain" policy)
      | none => .error .resourceNotFound
  | "mail-v1.xml", .get => anonymous env remoteIp (handled env .autoconfig)
  | "autoconfig", .get =>
    if segment segs 3 = "mail" ∧ segment segs 4 = "config-v1.1.xml" then
      anonymous env remoteIp (handled env .autoconfig)
    else notFound env remoteIp req.path
  | _, .options => noContent
  | _, _ => notFound env remoteIp req.path

/-- The `"auth"` arm: the OAuth device, token, introspection, userinfo, registration and key-set
endpoints. -/
def routeAuth : Run :=
  match segment segs 2, req.method with
  | "device", .post => anonymous env remoteIp (handled env .deviceAuth)
  | "token", .post => anonymous env remoteIp (handled env .tokenRequest)
  | "introspect", .post =>
    authenticated env false fun token => handled env (.tokenIntrospect token)
  | "userinfo", .get => authenticated env false fun token => handled env (.userinfo token)
  | "register", .post => handled env .oauthRegistration
  | "jwks.json", .get => anonymous env remoteIp (.done (.ok .jwks))
  | _, .options => noContent
  | _, _ => notFound env remoteIp req.path

/-- The grant a management API request without credentials may carry in its URL: live tracing
and metrics in the enterprise edition, troubleshooting always; `path` is the path after
`/api/`. -/
def urlGrant (path : List String) (token : Option String) : Option (GrantType × String) :=
  match path.head?, path.get? 1, token with
  | some "telemetry", some "traces", some token =>
    if cfg.enterprise ∧ cfg.isEnterpriseEdition then some (.liveTracing, token)
    else none
  | some "telemetry", some "metrics", some token =>
    if cfg.enterprise ∧ cfg.isEnterpriseEdition then some (.liveMetrics, token)
    else none
  | some "troubleshoot", _, some token => some (.troubleshoot, token)
  | _, _, _ => none

/-- The `"api"` arm: the management API, which accepts the credentials of a request, or for a
failed authentication a token in the URL. -/
def routeApi : Run :=
  if req.method = .options then noContent
  else
    .after (.authenticate true) <|
      match env.authenticate true with
      | .ok token => handled env (.apiManage token)
      | .error err =>
        if err = .authFailed then
          match urlGrant cfg (segs.drop 2) req.tokenParam with
          | some (grant, token) =>
            validated env grant token fun accountId =>
              match grant with
              | .troubleshoot => handled env (.troubleshootApi accountId)
              | _ => handled env (.telemetryApi accountId)
          | none => .done (.error err)
        else .done (.error err)

/-- `User-agent: *\nDisallow: /\n`, the answer to `/robots.txt`. -/
def robotsTxt : List UInt8 := "User-agent: *\nDisallow: /\n".toList.map fun c => c.toNat.toUInt8

/-- The `"healthz"` arm: liveness, and readiness when a data store is configured. -/
def routeHealthz : Run :=
  anonymous env remoteIp <|
    match segment segs 2 with
    | "live" => .done (.ok (.status 200))
    | "ready" => .done (.ok (.status (if cfg.hasDataStore then 200 else 503)))
    | _ => notFound env remoteIp req.path

/-- The `"metrics"` arm: the Prometheus exporter, behind the secret it may be configured with. -/
def routeMetrics : Run :=
  match segment segs 2 with
  | "prometheus" =>
    match cfg.prometheus with
    | some auth =>
      if auth.any fun auth => req.authorizationBasic.all (· != auth) then
        .done (.error .authFailed)
      else
        .after .exportMetrics <|
          .bind env.exportMetrics fun text => .done (.ok (.resource "text/plain; version=0.0.4" text))
    | none => notFound env remoteIp req.path
  | _ => notFound env remoteIp req.path

/-- `path.strip_prefix('/').unwrap_or(path)`. -/
def stripSlash (path : String) : String :=
  match path.toList with
  | '/' :: rest => String.mk rest
  | _ => path

/-- The `_` arm: a webadmin resource under the path. -/
def routeWebadmin : Run :=
  let path := stripSlash req.path
  .after (.webadmin path) <|
    .bind (env.webadmin path) fun resource =>
      if resource.isEmpty then notFound env remoteIp req.path
      else .done (.ok (.resource resource.contentType resource.contents))

/-- The `"logo.svg"` arm of the enterprise edition: the logo of the host, or else the webadmin
one.  An error of `logo_resource` is only recorded. -/
def routeLogo : Run :=
  .after .logoResource <|
    match env.logoResource with
    | .ok (some resource) => .done (.ok (.resource resource.contentType resource.contents))
    | _ =>
      .after (.webadmin "logo.svg") <|
        .bind (env.webadmin "logo.svg") fun resource =>
          if resource.isEmpty then notFound env remoteIp req.path
          else .done (.ok (.resource resource.contentType resource.contents))

/-- The `"form"` arm: the contact form, when one is configured. -/
def routeForm : Run :=
  match cfg.contactForm, req.method with
  | some maxSize, .post =>
    anonymous env remoteIp <|
      .after (.formData maxSize) (.bind env.formData fun () => handled env .contactForm)
  | some _, .options => noContent
  | _, _ => notFound env remoteIp req.path

/-- The routes, by the first segment of the path. -/
def route : Run :=
  match segment segs 1 with
  | "jmap" => routeJmap cfg env remoteIp req segs
  | ".well-known" => routeWellKnown cfg env remoteIp req segs
  | "auth" => routeAuth env remoteIp req segs
  | "api" => routeApi cfg env req segs
  | "mail" =>
    if req.method = .get ∧ segment segs 2 = "config-v1.1.xml" then
      anonymous env remoteIp (handled env .autoconfig)
    else notFound env remoteIp req.path
  | "autodiscover" =>
    if req.method = .post ∧ segment segs 2 = "autodiscover.xml" then
      anonymous env remoteIp <|
        .after (.fetchBody 8192) (handled env (.autodiscover (fetchBody req.body 8192)))
    else notFound env remoteIp req.path
  | "robots.txt" => anonymous env remoteIp (.done (.ok (.resource "text/plain" robotsTxt)))
  | "healthz" => routeHealthz cfg env remoteIp req segs
  | "metrics" => routeMetrics cfg env remoteIp req segs
  | "logo.svg" =>
    if cfg.enterprise ∧ cfg.isEnterpriseEdition then routeLogo env remoteIp req
    else routeWebadmin env remoteIp req
  | "form" => routeForm cfg env remoteIp req
  | _ => routeWebadmin env remoteIp req

end Routes

/-! ## The shapes of the routes

One lemma per route lists every shape its run can take: the arm of its match, with the segment
and the method the arm was chosen on.  The invariants of `Http/Access.lean` and
`Http/Contract.lean` are read off these lemmas arm by arm, with no match of a route split again.
A `_ , .options` arm answers every preflight the arms before it leave, since none of them is for
`OPTIONS`; the last arm, `notFound`, is for every other method. -/

section Shapes

variable (cfg : HttpConfig) (env : Collaborators) (remoteIp : IpAddr) (req : HttpRequest)
  (segs : List String)

theorem routeJmap_cases :
    (segment segs 2 = "" ∧ req.method = .post ∧ routeJmap cfg env remoteIp req segs =
      authenticated env false fun token =>
        .after (.fetchBody (jmapBodyLimit cfg.uploadMaxSize token.unlimitedUploads)) <|
          .bind ((jmapRequestBody req.body cfg.uploadMaxSize token.unlimitedUploads).mapError .limit)
            fun bytes =>
              .after .parseRequest <|
                .bind (env.parseRequest bytes) fun () =>
                  .after (.handle (.jmapRequest bytes token))
                    (.done (.ok (.handler (.jmapRequest bytes token))))) ∨
    (segment segs 2 = "download" ∧ req.method = .get ∧ routeJmap cfg env remoteIp req segs =
      authenticated env false fun token =>
        match (segs.get? 3).bind env.parseId, (segs.get? 4).bind env.parseBlobId, segs.get? 5 with
        | some _, some blobId, some name =>
          .after (.blobDownload blobId) <|
            .bind (env.blobDownload blobId token) fun blob => .done <|
              match blob with
              | some blob => .ok (.download name (req.accept.getD "application/octet-stream") blob)
              | none => .error .resourceNotFound
        | _, _, _ => notFound env remoteIp req.path) ∨
    (segment segs 2 = "upload" ∧ req.method = .post ∧ routeJmap cfg env remoteIp req segs =
      authenticated env false fun token =>
        match (segs.get? 3).bind env.parseId with
        | some accountId =>
          .after (.fetchBody (jmapBodyLimit cfg.uploadMaxSize token.unlimitedUploads)) <|
            .bind ((uploadBody req.body cfg.uploadMaxSize token.unlimitedUploads).mapError .limit)
              fun bytes => handled env
                (.blobUpload accountId (req.contentType.getD "application/octet-stream") bytes token)
        | none => notFound env remoteIp req.path) ∨
    (segment segs 2 = "eventsource" ∧ req.method = .get ∧ routeJmap cfg env remoteIp req segs =
      authenticated env false fun token => handled env (.eventSource token)) ∨
    (segment segs 2 = "ws" ∧ req.method = .get ∧ routeJmap cfg env remoteIp req segs =
      authenticated env false fun token => handled env (.webSocket token)) ∨
    (req.method = .options ∧ routeJmap cfg env remoteIp req segs = noContent) ∨
    (req.method ≠ .options ∧
      routeJmap cfg env remoteIp req segs = notFound env remoteIp req.path) := by
  generalize hr : routeJmap cfg env remoteIp req segs = r
  unfold routeJmap at hr
  split at hr
  · exact .inl ⟨‹_›, ‹_›, hr.symm⟩
  · exact .inr <| .inl ⟨‹_›, ‹_›, hr.symm⟩
  · exact .inr <| .inr <| .inl ⟨‹_›, ‹_›, hr.symm⟩
  · exact .inr <| .inr <| .inr <| .inl ⟨‹_›, ‹_›, hr.symm⟩
  · exact .inr <| .inr <| .inr <| .inr <| .inl ⟨‹_›, ‹_›, hr.symm⟩
  · exact .inr <| .inr <| .inr <| .inr <| .inr <| .inl ⟨‹_›, hr.symm⟩
  next _ _ hm _ _ _ _ _ => exact .inr <| .inr <| .inr <| .inr <| .inr <| .inr ⟨hm, hr.symm⟩

theorem routeWellKnown_cases :
    (segment segs 2 = "jmap" ∧ req.method = .get ∧ routeWellKnown cfg env remoteIp req segs =
      authenticated env false fun token => handled env (.sessionResource token)) ∨
    (segment segs 2 = "oauth-authorization-server" ∧ req.method = .get ∧
      routeWellKnown cfg env remoteIp req segs =
        anonymous env remoteIp (handled env .oauthMetadata)) ∨
    (segment segs 2 = "openid-configuration" ∧ req.method = .get ∧
      routeWellKnown cfg env remoteIp req segs =
        anonymous env remoteIp (handled env .oidcMetadata)) ∨
    (segment segs 2 = "acme-challenge" ∧ req.method = .get ∧
      routeWellKnown cfg env remoteIp req segs =
        if cfg.hasAcmeHttpProviders then
          match segs.get? 3 with
          | some token =>
            .after (.acmeLookup token) <|
              .bind (env.acmeProof token) fun proof => .done <|
                match proof with
                | some proof => .ok (.resource "text/plain" proof)
                | none => .error .resourceNotFound
          | none => notFound env remoteIp req.path
        else notFound env remoteIp req.path) ∨
    (segment segs 2 = "mta-sts.txt" ∧ req.method = .get ∧
      routeWellKnown cfg env remoteIp req segs =
        anonymous env remoteIp (.done <|
          match cfg.mtaStsPolicy with
          | some policy => .ok (.resource "text/plain" policy)
          | none => .error .resourceNotFound)) ∨
    (segment segs 2 = "mail-v1.xml" ∧ req.method = .get ∧
      routeWellKnown cfg env remoteIp req segs = anonymous env remoteIp (handled env .autoconfig)) ∨
    (segment segs 2 = "autoconfig" ∧ req.method = .get ∧
      routeWellKnown cfg env remoteIp req segs =
        if segment segs 3 = "mail" ∧ segment segs 4 = "config-v1.1.xml" then
          anonymous env remoteIp (handled env .autoconfig)
        else notFound env remoteIp req.path) ∨
    (req.method = .options ∧ routeWellKnown cfg env remoteIp req segs = noContent) ∨
    (req.method ≠ .options ∧
      routeWellKnown cfg env remoteIp req segs = notFound env remoteIp req.path) := by
  generalize hr : routeWellKnown cfg env remoteIp req segs = r
  unfold routeWellKnown at hr
  split at hr
  · exact .inl ⟨‹_›, ‹_›, hr.symm⟩
  · exact .inr <| .inl ⟨‹_›, ‹_›, hr.symm⟩
  · exact .inr <| .inr <| .inl ⟨‹_›, ‹_›, hr.symm⟩
  · exact .inr <| .inr <| .inr <| .inl ⟨‹_›, ‹_›, hr.symm⟩
  · exact .inr <| .inr <| .inr <| .inr <| .inl ⟨‹_›, ‹_›, hr.symm⟩
  · exact .inr <| .inr <| .inr <| .inr <| .inr <| .inl ⟨‹_›, ‹_›, hr.symm⟩
  · exact .inr <| .inr <| .inr <| .inr <| .inr <| .inr <| .inl ⟨‹_›, ‹_›, hr.symm⟩
  · exact .inr <| .inr <| .inr <| .inr <| .inr <| .inr <| .inr <| .inl ⟨‹_›, hr.symm⟩
  next _ _ hm _ _ _ _ _ _ _ =>
    exact .inr <| .inr <| .inr <| .inr <| .inr <| .inr <| .inr <| .inr ⟨hm, hr.symm⟩

theorem routeAuth_cases :
    (segment segs 2 = "device" ∧ req.method = .post ∧
      routeAuth env remoteIp req segs = anonymous env remoteIp (handled env .deviceAuth)) ∨
    (segment segs 2 = "token" ∧ req.method = .post ∧
      routeAuth env remoteIp req segs = anonymous env remoteIp (handled env .tokenRequest)) ∨
    (segment segs 2 = "introspect" ∧ req.method = .post ∧ routeAuth env remoteIp req segs =
      authenticated env false fun token => handled env (.tokenIntrospect token)) ∨
    (segment segs 2 = "userinfo" ∧ req.method = .get ∧ routeAuth env remoteIp req segs =
      authenticated env false fun token => handled env (.userinfo token)) ∨
    (segment segs 2 = "register" ∧ req.method = .post ∧
      routeAuth env remoteIp req segs = handled env .oauthRegistration) ∨
    (segment segs 2 = "jwks.json" ∧ req.method = .get ∧
      routeAuth env remoteIp req segs = anonymous env remoteIp (.done (.ok .jwks))) ∨
    (req.method = .options ∧ routeAuth env remoteIp req segs = noContent) ∨
    (req.method ≠ .options ∧ routeAuth env remoteIp req segs = notFound env remoteIp req.path) := by
  generalize hr : routeAuth env remoteIp req segs = r
  unfold routeAuth at hr
  split at hr
  · exact .inl ⟨‹_›, ‹_›, hr.symm⟩
  · exact .inr <| .inl ⟨‹_›, ‹_›, hr.symm⟩
  · exact .inr <| .inr <| .inl ⟨‹_›, ‹_›, hr.symm⟩
  · exact .inr <| .inr <| .inr <| .inl ⟨‹_›, ‹_›, hr.symm⟩
  · exact .inr <| .inr <| .inr <| .inr <| .inl ⟨‹_›, ‹_›, hr.symm⟩
  · exact .inr <| .inr <| .inr <| .inr <| .inr <| .inl ⟨‹_›, ‹_›, hr.symm⟩
  · exact .inr <| .inr <| .inr <| .inr <| .inr <| .inr <| .inl ⟨‹_›, hr.symm⟩
  next _ _ hm _ _ _ _ _ _ =>
    exact .inr <| .inr <| .inr <| .inr <| .inr <| .inr <| .inr ⟨hm, hr.symm⟩

/-- The management API: a preflight; the credentials of the request; for credentials that
failed, a grant in the URL and the account its token names; or the error of the
authentication. -/
theorem routeApi_cases :
    (req.method = .options ∧ routeApi cfg env req segs = noContent) ∨
    (req.method ≠ .options ∧ ∃ token, env.authenticate true = .ok token ∧
      routeApi cfg env req segs = .after (.authenticate true) (handled env (.apiManage token))) ∨
    (req.method ≠ .options ∧ env.authenticate true = .error .authFailed ∧
      ∃ grant token, urlGrant cfg (segs.drop 2) req.tokenParam = some (grant, token) ∧
        routeApi cfg env req segs = .after (.authenticate true)
          (validated env grant token fun accountId =>
            match grant with
            | .troubleshoot => handled env (.troubleshootApi accountId)
            | _ => handled env (.telemetryApi accountId))) ∨
    (req.method ≠ .options ∧ ∃ err, env.authenticate true = .error err ∧
      routeApi cfg env req segs = .after (.authenticate true) (.done (.error err))) := by
  unfold routeApi
  split_ifs with hm
  · exact .inl ⟨hm, rfl⟩
  · cases hauth : env.authenticate true with
    | ok token => exact .inr (.inl ⟨hm, token, rfl, rfl⟩)
    | error err =>
      refine .inr (.inr ?_)
      by_cases herr : err = .authFailed
      · subst herr
        rcases hgrant : urlGrant cfg (segs.drop 2) req.tokenParam with _ | ⟨grant, token⟩
        · exact .inr ⟨hm, _, rfl, by simp [hgrant]⟩
        · exact .inl ⟨hm, rfl, grant, token, rfl, by simp [hgrant]⟩
      · exact .inr ⟨hm, err, rfl, by simp [herr]⟩

theorem routeHealthz_cases :
    routeHealthz cfg env remoteIp req segs = anonymous env remoteIp (.done (.ok (.status 200))) ∨
    routeHealthz cfg env remoteIp req segs =
      anonymous env remoteIp (.done (.ok (.status (if cfg.hasDataStore then 200 else 503)))) ∨
    routeHealthz cfg env remoteIp req segs =
      anonymous env remoteIp (notFound env remoteIp req.path) := by
  unfold routeHealthz
  split <;> simp

/-- The Prometheus exporter: behind its secret when one is configured, else not found. -/
theorem routeMetrics_cases :
    (∃ auth, cfg.prometheus = some auth ∧ routeMetrics cfg env remoteIp req segs =
      if auth.any fun auth => req.authorizationBasic.all (· != auth) then .done (.error .authFailed)
      else .after .exportMetrics <|
        .bind env.exportMetrics fun text =>
          .done (.ok (.resource "text/plain; version=0.0.4" text))) ∨
    routeMetrics cfg env remoteIp req segs = notFound env remoteIp req.path := by
  unfold routeMetrics
  split
  · split
    next auth hprom => exact .inl ⟨auth, hprom, rfl⟩
    · exact .inr rfl
  · exact .inr rfl

/-- The logo: the host's, when `logo_resource` finds one, else the webadmin one. -/
theorem routeLogo_cases :
    (∃ resource, env.logoResource = .ok (some resource) ∧ routeLogo env remoteIp req =
      .after .logoResource (.done (.ok (.resource resource.contentType resource.contents)))) ∨
    routeLogo env remoteIp req = .after .logoResource (.after (.webadmin "logo.svg") <|
      .bind (env.webadmin "logo.svg") fun resource =>
        if resource.isEmpty then notFound env remoteIp req.path
        else .done (.ok (.resource resource.contentType resource.contents))) := by
  unfold routeLogo
  split
  next resource hlogo => exact .inl ⟨resource, hlogo, rfl⟩
  · exact .inr rfl

theorem routeForm_cases :
    (∃ maxSize, cfg.contactForm = some maxSize ∧ req.method = .post ∧
      routeForm cfg env remoteIp req = anonymous env remoteIp
        (.after (.formData maxSize) (.bind env.formData fun () => handled env .contactForm))) ∨
    (req.method = .options ∧ routeForm cfg env remoteIp req = noContent) ∨
    routeForm cfg env remoteIp req = notFound env remoteIp req.path := by
  unfold routeForm
  split
  next maxSize hform hm => exact .inl ⟨maxSize, hform, hm, rfl⟩
  next hm => exact .inr (.inl ⟨hm, rfl⟩)
  · exact .inr (.inr rfl)

theorem route_cases :
    (segment segs 1 = "jmap" ∧
      route cfg env remoteIp req segs = routeJmap cfg env remoteIp req segs) ∨
    (segment segs 1 = ".well-known" ∧
      route cfg env remoteIp req segs = routeWellKnown cfg env remoteIp req segs) ∨
    (segment segs 1 = "auth" ∧ route cfg env remoteIp req segs = routeAuth env remoteIp req segs) ∨
    (segment segs 1 = "api" ∧ route cfg env remoteIp req segs = routeApi cfg env req segs) ∨
    (segment segs 1 = "mail" ∧ route cfg env remoteIp req segs =
      if req.method = .get ∧ segment segs 2 = "config-v1.1.xml" then
        anonymous env remoteIp (handled env .autoconfig)
      else notFound env remoteIp req.path) ∨
    (segment segs 1 = "autodiscover" ∧ route cfg env remoteIp req segs =
      if req.method = .post ∧ segment segs 2 = "autodiscover.xml" then
        anonymous env remoteIp <|
          .after (.fetchBody 8192) (handled env (.autodiscover (fetchBody req.body 8192)))
      else notFound env remoteIp req.path) ∨
    (segment segs 1 = "robots.txt" ∧ route cfg env remoteIp req segs =
      anonymous env remoteIp (.done (.ok (.resource "text/plain" robotsTxt)))) ∨
    (segment segs 1 = "healthz" ∧
      route cfg env remoteIp req segs = routeHealthz cfg env remoteIp req segs) ∨
    (segment segs 1 = "metrics" ∧
      route cfg env remoteIp req segs = routeMetrics cfg env remoteIp req segs) ∨
    (segment segs 1 = "logo.svg" ∧ route cfg env remoteIp req segs =
      if cfg.enterprise ∧ cfg.isEnterpriseEdition then routeLogo env remoteIp req
      else routeWebadmin env remoteIp req) ∨
    (segment segs 1 = "form" ∧ route cfg env remoteIp req segs = routeForm cfg env remoteIp req) ∨
    (segment segs 1 ∉ ["jmap", ".well-known", "auth", "api", "mail", "autodiscover", "robots.txt",
        "healthz", "metrics", "logo.svg", "form"] ∧
      route cfg env remoteIp req segs = routeWebadmin env remoteIp req) := by
  generalize hr : route cfg env remoteIp req segs = r
  unfold route at hr
  split at hr
  · exact .inl ⟨‹_›, hr.symm⟩
  · exact .inr <| .inl ⟨‹_›, hr.symm⟩
  · exact .inr <| .inr <| .inl ⟨‹_›, hr.symm⟩
  · exact .inr <| .inr <| .inr <| .inl ⟨‹_›, hr.symm⟩
  · exact .inr <| .inr <| .inr <| .inr <| .inl ⟨‹_›, hr.symm⟩
  · exact .inr <| .inr <| .inr <| .inr <| .inr <| .inl ⟨‹_›, hr.symm⟩
  · exact .inr <| .inr <| .inr <| .inr <| .inr <| .inr <| .inl ⟨‹_›, hr.symm⟩
  · exact .inr <| .inr <| .inr <| .inr <| .inr <| .inr <| .inr <| .inl ⟨‹_›, hr.symm⟩
  · exact .inr <| .inr <| .inr <| .inr <| .inr <| .inr <| .inr <| .inr <| .inl ⟨‹_›, hr.symm⟩
  · exact .inr <| .inr <| .inr <| .inr <| .inr <| .inr <| .inr <| .inr <| .inr <|
      .inl ⟨‹_›, hr.symm⟩
  · exact .inr <| .inr <| .inr <| .inr <| .inr <| .inr <| .inr <| .inr <| .inr <| .inr <|
      .inl ⟨‹_›, hr.symm⟩
  · refine .inr <| .inr <| .inr <| .inr <| .inr <| .inr <| .inr <| .inr <| .inr <| .inr <| .inr
      ⟨?_, hr.symm⟩
    simp only [List.mem_cons, List.mem_singleton, List.not_mem_nil, or_false, not_or]
    exact ⟨‹_›, ‹_›, ‹_›, ‹_›, ‹_›, ‹_›, ‹_›, ‹_›, ‹_›, ‹_›, ‹_›⟩

end Shapes

/-- `parse_http_request`: the endpoint rule, which refuses a request with its status unless it
comes from a loopback address, then the route.  `remoteIp` is `session.remote_ip`, the one field
of `HttpSessionData` the router reads. -/
def parseHttpRequest (cfg : HttpConfig) (env : Collaborators) (remoteIp : IpAddr)
    (req : HttpRequest) : Run :=
  if env.endpointAccess.getD 200 ≠ 200 ∧ !remoteIp.isLoopback then
    .done (.ok (.status (env.endpointAccess.getD 200)))
  else route cfg env remoteIp req (pathSegments req.path)

/-! ## A configuration and collaborators to run the router on -/

/-- A configuration with the default upload limit, no ACME HTTP provider, no MTA-STS policy, a
data store, no Prometheus exporter, the community edition and no contact form. -/
def HttpConfig.sample : HttpConfig where
  uploadMaxSize := 50000000
  hasAcmeHttpProviders := false
  mtaStsPolicy := none
  hasDataStore := true
  prometheus := none
  enterprise := false
  isEnterpriseEdition := false
  contactForm := none

/-- Collaborators that let every request through: no endpoint rule applies, every credential and
token is valid, the rate limiter admits every client, and every lookup and handler succeeds. -/
def Collaborators.permissive : Collaborators where
  endpointAccess := none
  authenticate := fun _ => .ok ⟨1, false⟩
  anonymousAllowed := fun _ => .ok ()
  parseRequest := fun _ => .ok ()
  parseId := fun _ => some 1
  parseBlobId := fun _ => some 1
  blobDownload := fun _ _ => .ok none
  acmeProof := fun _ => .ok none
  exportMetrics := .ok []
  logoResource := .ok none
  webadmin := fun _ => .ok ⟨"", []⟩
  formData := .ok ()
  validateAccessToken := fun _ _ => .ok 1
  isBannedPath := fun _ _ => .ok false
  handle := fun _ => .ok ()

end MailServer
