import MailServer.Http.Response
import MailServer.Http.Session

/-!
# What a session sends back

The closure `handle_session` (`jmap/src/api/http.rs`) serves a request with ends the way it
began.  The outcome of `parse_http_request`, a response or an error, becomes an `HttpResponse`
(`ToHttpResponse`); `HttpResponse::build` turns that into the `hyper` response; and the headers
of `http_headers` are put in, each in place of what the response has under its name.  The
refusal of a blocked forwarded address is built and returned before that loop.

`build` ends in `unwrap`, so it panics when a header value it sets is not a valid `HeaderValue`,
that is, when it holds an ASCII control character other than the tab.  The values it sets are
constants, the content types of resources and of the handlers' responses, and, for a blob
download, the file name from the path and the content type from the `accept` parameter of the
query, which `form_urlencoded` decodes from its `%XX` escapes.

* `respond_getAll`: what every reply carries under each header name: the last value
  `http_headers` gives the name, else what the response set; the refusal of a blocked forwarded
  address carries its content type and nothing else.
* `respond_eq_none_iff`: the requests whose reply panics: a download whose file name or
  `accept` parameter holds a control character, or a resource or a handler's response that
  holds one in its own values.  No error and no bare status does.
* `attachmentFilename_downloadResponse`: a download that builds sends one `Content-Disposition`,
  which reads back the blob's file name exactly when the name holds no backslash.
* `respond_eq_none_of_download`: with collaborators whose own values are valid, only a download
  lets a request make its reply panic, through the file name in its path or its `accept`
  parameter.
-/

namespace MailServer

/-! ## Header values -/

theorem UInt8.le_iff_toNat {a b : UInt8} : a ≤ b ↔ a.toNat ≤ b.toNat := Iff.rfl

theorem UInt8.eq_iff_toNat {a b : UInt8} : a = b ↔ a.toNat = b.toNat :=
  ⟨congrArg _, UInt8.toNat.inj⟩

/-- Modelled from the spec: `is_valid` of the `http` crate's `HeaderValue`: the bytes a header value
may hold, all but the ASCII controls other than the tab. -/
def HeaderValue.isValid (b : UInt8) : Bool := b ≥ 32 && b != 127 || b == 9

/-- Modelled from the spec: `HeaderValue::from_str`: the value, when every byte of its UTF-8
encoding is valid. -/
def HeaderValue.fromStr (s : String) : Option String :=
  if s.toUTF8.data.toList.all HeaderValue.isValid then some s else none

/-- The characters a header value may hold: a tab, or any character but an ASCII control. -/
def isHeaderSafe (c : Char) : Bool := c.toNat == 9 || 32 ≤ c.toNat && c.toNat != 127

theorem HeaderValue.isValid_iff (b : UInt8) :
    HeaderValue.isValid b ↔ b.toNat = 9 ∨ 32 ≤ b.toNat ∧ b.toNat ≠ 127 := by
  simp only [HeaderValue.isValid, ge_iff_le, UInt8.le_iff_toNat, UInt8.eq_iff_toNat,
    Bool.or_eq_true, Bool.and_eq_true, decide_eq_true_eq, bne_iff_ne, ne_eq, beq_iff_eq]
  exact Or.comm

/-- A byte with its top bit set is valid; every byte of the encoding of a character beyond ASCII
is one. -/
theorem HeaderValue.isValid_or (x k : UInt8) (hk : k.toNat.testBit 7) :
    HeaderValue.isValid (x ||| k) := by
  have hor : (x ||| k).toNat = x.toNat ||| k.toNat := BitVec.toNat_or _ _
  have : 128 ≤ (x ||| k).toNat :=
    hor ▸ Nat.testBit_implies_ge (i := 7) (by rw [Nat.testBit_or, hk, Bool.or_true])
  rw [HeaderValue.isValid_iff]
  omega

/-- The UTF-8 encoding of a character is a valid header value exactly when the character is
safe. -/
theorem all_isValid_utf8EncodeChar (c : Char) :
    (String.utf8EncodeChar c).all HeaderValue.isValid = isHeaderSafe c := by
  by_cases hc : c.toNat ≤ 127
  · -- one byte, the character's code
    have hbyte : c.val.toUInt8.toNat = c.toNat := show c.toNat % 256 = c.toNat by omega
    have henc : String.utf8EncodeChar c = [c.val.toUInt8] := if_pos hc
    rw [henc, List.all_cons, List.all_nil, Bool.and_true, Bool.eq_iff_iff,
      HeaderValue.isValid_iff, hbyte]
    simp [isHeaderSafe]
  · -- bytes with their top bit set
    have hsafe : isHeaderSafe c := by simp [isHeaderSafe]; omega
    have hc' : ¬c.val ≤ 0x7f := hc
    rw [hsafe]
    delta String.utf8EncodeChar
    simp only [if_neg hc']
    split_ifs <;> simp (disch := decide) [HeaderValue.isValid_or]

/-- `HeaderValue::from_str` over the characters of the value. -/
theorem HeaderValue.fromStr_eq (s : String) :
    HeaderValue.fromStr s = if s.data.all isHeaderSafe then some s else none := by
  have hbytes : s.toUTF8.data.toList = s.data.flatMap String.utf8EncodeChar := rfl
  simp only [HeaderValue.fromStr, hbytes, List.all_flatMap, all_isValid_utf8EncodeChar]

/-! ## Header maps -/

/-- Modelled from the spec: the entries of a `HeaderMap`, in the order they were made: each a header
name, lowercase as `HeaderName` keeps it, with its values in the order they were added. -/
structure HeaderMap where
  entries : List (String × List String)

/-- Modelled from the spec: `HeaderMap::new`. -/
def HeaderMap.empty : HeaderMap := ⟨[]⟩

/-- Modelled from the spec: `HeaderMap::get_all`: the values under `name`. -/
def HeaderMap.getAll (m : HeaderMap) (name : String) : List String :=
  (m.entries.lookup name).getD []

/-- Modelled from the spec: the entry of `name` with its values changed by `f`, or, when there is
none, a new entry at the end with the values `f []`. -/
def modifyEntry (name : String) (f : List String → List String) :
    List (String × List String) → List (String × List String)
  | [] => [(name, f [])]
  | (n, values) :: rest =>
    if n = name then (n, f values) :: rest else (n, values) :: modifyEntry name f rest

/-- Modelled from the spec: `HeaderMap::try_append`: `value` after the values under `name`. -/
def HeaderMap.append (m : HeaderMap) (name value : String) : HeaderMap :=
  ⟨modifyEntry name (· ++ [value]) m.entries⟩

/-- Modelled from the spec: `HeaderMap::insert`: `value` in place of the values under `name`. -/
def HeaderMap.insert (m : HeaderMap) (name value : String) : HeaderMap :=
  ⟨modifyEntry name (fun _ => [value]) m.entries⟩

theorem lookup_cons_pair {β : Type} {k n : String} {values : β} {rest : List (String × β)} :
    ((k, values) :: rest).lookup n = if n = k then some values else rest.lookup n := by
  rw [List.lookup_cons]
  split <;> simp_all

/-- `modifyEntry` changes the values under `name` by `f`, and no other. -/
theorem getD_lookup_modifyEntry (name n : String) (f : List String → List String)
    (entries : List (String × List String)) :
    ((modifyEntry name f entries).lookup n).getD [] =
      if n = name then f ((entries.lookup name).getD []) else (entries.lookup n).getD [] := by
  induction entries with
  | nil => by_cases h : n = name <;> simp [modifyEntry, lookup_cons_pair, h]
  | cons e rest ih =>
    obtain ⟨k, values⟩ := e
    by_cases hk : k = name
    · subst hk
      by_cases h : n = k <;> simp [modifyEntry, lookup_cons_pair, h]
    · by_cases h : n = k
      · subst h
        simp [modifyEntry, lookup_cons_pair, hk]
      · simp [modifyEntry, lookup_cons_pair, hk, Ne.symm hk, h, ih]

@[simp] theorem HeaderMap.getAll_empty (n : String) : HeaderMap.empty.getAll n = [] := rfl

@[simp] theorem HeaderMap.getAll_append (m : HeaderMap) (name value n : String) :
    (m.append name value).getAll n = if n = name then m.getAll name ++ [value] else m.getAll n :=
  getD_lookup_modifyEntry name n _ m.entries

@[simp] theorem HeaderMap.getAll_insert (m : HeaderMap) (name value n : String) :
    (m.insert name value).getAll n = if n = name then [value] else m.getAll n :=
  getD_lookup_modifyEntry name n _ m.entries

/-- Headers appended one after the other: under each name, its values in their order. -/
theorem HeaderMap.getAll_foldl_append (headers : List (String × String)) (m : HeaderMap)
    (n : String) :
    (headers.foldl (fun m h => m.append h.1 h.2) m).getAll n =
      m.getAll n ++ (headers.filter (·.1 == n)).map Prod.snd := by
  induction headers generalizing m with
  | nil => simp
  | cons h headers ih =>
    by_cases hn : h.1 = n
    · simp [ih, hn]
    · simp [ih, hn, Ne.symm hn]

/-- Headers inserted one after the other: under each name, the last value given it, or else
what the map had. -/
theorem HeaderMap.getAll_foldl_insert (headers : List (String × String)) (m : HeaderMap)
    (n : String) :
    (headers.foldl (fun m h => m.insert h.1 h.2) m).getAll n =
      match headers.reverse.lookup n with
      | some value => [value]
      | none => m.getAll n := by
  induction headers using List.reverseRecOn with
  | nil => rfl
  | append_singleton headers h ih =>
    obtain ⟨k, v⟩ := h
    rw [List.foldl_append, List.foldl_cons, List.foldl_nil, HeaderMap.getAll_insert,
      List.reverse_append, List.reverse_singleton, List.singleton_append, lookup_cons_pair]
    split_ifs <;> simp [ih]

/-! ## Building a response -/

/-- The `hyper` response `build` makes: the status, the headers and the body. -/
structure Reply where
  status : Nat
  headers : HeaderMap
  body : HttpResponseBody

/-- `HttpResponse::build`: the status, then each header of `headers` appended once its value is a
`HeaderValue`; `none` where one is not, on which the `unwrap` that ends `build` panics. -/
def HttpResponse.build (r : HttpResponse) : Option Reply :=
  (r.headers.foldlM (fun m h => (HeaderValue.fromStr h.2).map (m.append h.1))
    HeaderMap.empty).map fun headers => ⟨r.status, headers, r.body⟩

/-- Whether every value of a list of headers is a valid `HeaderValue`. -/
def headersSafe (headers : List (String × String)) : Bool :=
  headers.all fun h => h.2.data.all isHeaderSafe

theorem foldlM_fromStr (headers : List (String × String)) (m : HeaderMap) :
    headers.foldlM (fun m h => (HeaderValue.fromStr h.2).map (m.append h.1)) m =
      if headersSafe headers then some (headers.foldl (fun m h => m.append h.1 h.2) m)
      else none := by
  induction headers generalizing m with
  | nil => rfl
  | cons h headers ih =>
    rw [List.foldlM_cons, HeaderValue.fromStr_eq]
    by_cases hs : h.2.data.all isHeaderSafe
    · rw [if_pos hs, Option.map_some', Option.bind_eq_bind, Option.some_bind, ih]
      simp only [headersSafe, List.all_cons, hs, Bool.true_and, List.foldl_cons]
    · rw [if_neg hs]
      simp only [headersSafe, List.all_cons, hs, Bool.false_and]
      rfl

/-- `build` panics exactly when a header value it sets is not valid. -/
theorem HttpResponse.build_eq_none_iff (r : HttpResponse) :
    r.build = none ↔ headersSafe r.headers = false := by
  simp [HttpResponse.build, foldlM_fromStr]

/-- What `build` sends: the status, the body, and under each name the values `headers` gives
it. -/
theorem HttpResponse.getAll_of_build {r : HttpResponse} {reply : Reply} (h : r.build = some reply)
    (n : String) :
    reply.status = r.status ∧ reply.headers.getAll n = (r.headers.filter (·.1 == n)).map Prod.snd := by
  simp only [HttpResponse.build, foldlM_fromStr] at h
  split_ifs at h
  · cases h
    simp [HeaderMap.getAll_foldl_append]
  · cases h

/-! ## The responses of the outcomes -/

/-- A `JsonResponse`: its status, its contents as `serde_json` writes them, and whether
`no_cache` was called. -/
structure JsonResponse where
  status : Nat
  inner : String
  noCache : Bool

/-- `JsonResponse::new`. -/
def JsonResponse.new (inner : String) : JsonResponse := ⟨200, inner, false⟩

/-- `JsonResponse::into_http_response`. -/
def JsonResponse.intoHttpResponse (j : JsonResponse) : HttpResponse where
  status := j.status
  contentType := "application/json; charset=utf-8"
  contentDisposition := ""
  cacheControl := if !j.noCache then "" else "no-store, no-cache, must-revalidate"
  body := .text j.inner

/-- `StatusCode::from_u16`: the status codes are the numbers from 100 to 999. -/
def statusFromU16 (status : Nat) : Option Nat :=
  if 100 ≤ status ∧ status < 1000 then some status else none

/-- An error as `ToHttpResponse for &trc::Error` sends it: a management event as its
`ManagementApiError`, any other as the `RequestError` of `to_request_error` with its status, each
with its JSON. -/
inductive ErrorReply
  | management (json : String)
  | request (status : Nat) (json : String)

/-- `ToHttpResponse` for `&trc::Error`: `JsonResponse::new` of the `ManagementApiError`, or
`ToHttpResponse for RequestError`, whose status falls back to `400` when it is not one. -/
def ErrorReply.intoHttpResponse : ErrorReply → HttpResponse
  | .management json => (JsonResponse.new json).intoHttpResponse
  | .request status json =>
    .newText ((statusFromU16 status).getD 400) "application/problem+json" json

/-- What the code outside `src/` makes of the outcomes of the router: the responses of the
handlers and of the OpenID key set, the JSON of the `RequestError` a bare status is sent with,
and the reply to each error. -/
structure Replies where
  handler : Handler → HttpResponse
  jwks : HttpResponse
  problem : Nat → String
  error : ErrorEvent → ErrorReply

/-- `ToHttpResponse for StatusCode`: the status, with the problem that gives its canonical
reason. -/
def statusResponse (problem : Nat → String) (code : Nat) : HttpResponse :=
  .newText code "application/problem+json" (problem code)

/-- The `HttpResponse` of an outcome of `parse_http_request`: `into_http_response` of the
response, or of the error. -/
def responseOf (replies : Replies) : Except ErrorEvent Response → HttpResponse
  | .ok (.status code) => statusResponse replies.problem code
  | .ok (.resource contentType contents) => Resource.intoHttpResponse ⟨contentType, contents⟩
  | .ok (.download filename contentType blob) =>
    DownloadResponse.intoHttpResponse ⟨filename, contentType, blob⟩
  | .ok .jwks => replies.jwks
  | .ok (.handler h) => replies.handler h
  | .error e => (replies.error e).intoHttpResponse

/-- The headers of `http_headers` put into a built response, one after the other
(`headers.insert`). -/
def Reply.addHeaders (httpHeaders : List (String × String)) (r : Reply) : Reply :=
  { r with headers := httpHeaders.foldl (fun m h => m.insert h.1 h.2) r.headers }

/-- What the closure of `handle_session` sends for a request, `none` where `build` panics:
`403 Forbidden`, as it is built, for a blocked forwarded address; else the outcome of
`parse_http_request` from the client's address, built, with `http_headers` put in. -/
def respond (cfg : HttpConfig) (httpUseForwarded : Bool) (isIpBlocked : IpAddr → Bool)
    (httpHeaders : List (String × String)) (replies : Replies) (env : Collaborators)
    (sessionRemoteIp : IpAddr) (forwarded xForwardedFor : Option (List Char))
    (req : HttpRequest) : Option Reply :=
  match resolveRemoteIp httpUseForwarded isIpBlocked forwarded xForwardedFor sessionRemoteIp with
  | .forbidden => (statusResponse replies.problem 403).build
  | .resolved remoteIp =>
    (responseOf replies (parseHttpRequest cfg env remoteIp req).result).build.map
      (Reply.addHeaders httpHeaders)

/-! ## Which responses build -/

/-- A binary response made by `new_binary` has its content type and no other header. -/
theorem headers_newBinary (status : Nat) (contentType : String) (body : List UInt8) :
    (HttpResponse.newBinary status contentType body).headers = [("content-type", contentType)] :=
  rfl

theorem headersSafe_statusResponse (problem : Nat → String) (code : Nat) :
    headersSafe (statusResponse problem code).headers :=
  rfl

theorem headersSafe_errorReply (e : ErrorReply) : headersSafe e.intoHttpResponse.headers := by
  cases e <;> rfl

theorem all_isHeaderSafe_escapeQuotes (x : List Char) :
    (escapeQuotes x).all isHeaderSafe = x.all isHeaderSafe := by
  induction x with
  | nil => rfl
  | cons c x ih =>
    have hb : isHeaderSafe '\\' = true := rfl
    by_cases hc : c = '"' <;> simp [escapeQuotes, hc, hb, ih]

/-- A download's values are valid exactly when its file name and content type are safe: the
quoting adds only safe characters. -/
theorem headersSafe_downloadResponse (d : DownloadResponse) :
    headersSafe d.intoHttpResponse.headers ↔
      d.filename.data.all isHeaderSafe ∧ d.contentType.data.all isHeaderSafe := by
  have hcd : d.intoHttpResponse.contentDisposition.data =
      "attachment; filename=\"".data ++ (escapeQuotes d.filename.data ++ ['"']) := by
    simp [DownloadResponse.intoHttpResponse]
  have hprefix : "attachment; filename=\"".data.all isHeaderSafe = true := rfl
  have hcc : "private, immutable, max-age=31536000".data.all isHeaderSafe = true := rfl
  have hq : isHeaderSafe '"' = true := rfl
  rw [headers_downloadResponse]
  simp only [headersSafe, List.all_cons, List.all_nil, hcd, List.all_append,
    all_isHeaderSafe_escapeQuotes, hprefix, hcc, hq]
  simp only [DownloadResponse.intoHttpResponse, Bool.and_true, Bool.true_and, Bool.and_eq_true]
  exact And.comm

/-- **The file name of a download reads back exactly when it holds no backslash.**  For every
download whose file name and content type are safe, `build` succeeds and sends one
`Content-Disposition` value, which names, as RFC 6266 reads it, the blob's file name if the name
holds no backslash, and another name or none at all if it does. -/
theorem attachmentFilename_downloadResponse (d : DownloadResponse)
    (hname : d.filename.data.all isHeaderSafe) (htype : d.contentType.data.all isHeaderSafe) :
    ∃ reply, d.intoHttpResponse.build = some reply ∧ ∃ value,
      reply.headers.getAll "content-disposition" = [value] ∧
      (attachmentFilename value = some d.filename ↔ '\\' ∉ d.filename.data) := by
  have hsafe := (headersSafe_downloadResponse d).2 ⟨hname, htype⟩
  obtain ⟨reply, hb⟩ := Option.ne_none_iff_exists'.1 fun h =>
    absurd ((HttpResponse.build_eq_none_iff d.intoHttpResponse).1 h) (by simp [hsafe])
  refine ⟨reply, hb, _, ?_, attachmentFilename_contentDisposition d⟩
  rw [(HttpResponse.getAll_of_build hb _).2, headers_downloadResponse]
  rfl

theorem attachmentFilename_downloadResponse_report :
    "report.txt".data.all isHeaderSafe ∧ "text/plain".data.all isHeaderSafe ∧
    ∃ reply, (DownloadResponse.intoHttpResponse ⟨"report.txt", "text/plain", []⟩).build =
        some reply ∧ ∃ value, reply.headers.getAll "content-disposition" = [value] ∧
      (attachmentFilename value = some "report.txt" ↔ '\\' ∉ "report.txt".data) :=
  ⟨rfl, rfl, attachmentFilename_downloadResponse ⟨"report.txt", "text/plain", []⟩ rfl rfl⟩

/-- The outcomes whose response `build` panics on: a download whose file name or content type is
not safe, a resource whose content type is not, and a response of the key set or of a handler
that holds a value that is not valid.  Errors and bare statuses always build. -/
theorem build_responseOf_eq_none_iff (replies : Replies) (o : Except ErrorEvent Response) :
    (responseOf replies o).build = none ↔
      match o with
      | .ok (.download filename contentType _) =>
        filename.data.all isHeaderSafe = false ∨ contentType.data.all isHeaderSafe = false
      | .ok (.resource contentType _) => contentType.data.all isHeaderSafe = false
      | .ok .jwks => replies.jwks.build = none
      | .ok (.handler h) => (replies.handler h).build = none
      | _ => False := by
  rcases o with e | (code | ⟨contentType, contents⟩ | ⟨filename, contentType, blob⟩ | _ | h)
  · simp [HttpResponse.build_eq_none_iff, responseOf, headersSafe_errorReply]
  · simp [HttpResponse.build_eq_none_iff, responseOf, headersSafe_statusResponse]
  · show (HttpResponse.newBinary 200 contentType contents).build = none ↔ _
    rw [HttpResponse.build_eq_none_iff, headers_newBinary]
    simp [headersSafe]
  · rw [HttpResponse.build_eq_none_iff, Bool.eq_false_iff, ne_eq, responseOf,
      headersSafe_downloadResponse]
    simp only [Bool.not_eq_true, not_and_or]
  · exact Iff.rfl
  · exact Iff.rfl

/-- Replies that answer every handler with an empty `200`, send the key set as an empty JSON
array, every bare status with an empty problem, and every error as a `400` problem. -/
def Replies.sample : Replies where
  handler := fun _ => .newEmpty 200
  jwks := (JsonResponse.new "[]").intoHttpResponse
  problem := fun _ => ""
  error := fun _ => .request 400 ""

/-- A resource the router returns has a safe content type when the collaborators' resources
do: the router's own content types are constants. -/
theorem isHeaderSafe_of_resource_made {cfg : HttpConfig} {env : Collaborators}
    {remoteIp : IpAddr} {req : HttpRequest} {contentType : String} {contents : List UInt8}
    (hweb : ∀ path r, env.webadmin path = .ok r → r.contentType.data.all isHeaderSafe)
    (hlogo : ∀ r, env.logoResource = .ok (some r) → r.contentType.data.all isHeaderSafe)
    (hmade : (Response.resource contentType contents).Made cfg env remoteIp req
      (pathSegments req.path)) :
    contentType.data.all isHeaderSafe := by
  rcases hmade with ⟨rfl, -⟩ | ⟨rfl, -⟩ | ⟨path, -, hr, -⟩ | ⟨-, -, hr⟩
  · rfl
  · rfl
  · exact hweb path _ hr
  · exact hlogo _ hr

section Respond

variable (cfg : HttpConfig) (httpUseForwarded : Bool) (isIpBlocked : IpAddr → Bool)
  (httpHeaders : List (String × String)) (replies : Replies) (env : Collaborators)
  (sessionRemoteIp : IpAddr) (forwarded xForwardedFor : Option (List Char)) (req : HttpRequest)

/-- **What every reply carries under each header name.**  A reply sent for a request carries,
under each name, the last value `http_headers` gives it, and under the other names what the
response of the router's outcome set.  The one exception is the refusal of a blocked forwarded
address, which `handle_session` returns before it adds `http_headers`: it carries its content
type and nothing else. -/
theorem respond_getAll {reply : Reply}
    (hreply : respond cfg httpUseForwarded isIpBlocked httpHeaders replies env sessionRemoteIp
      forwarded xForwardedFor req = some reply) (name : String) :
    reply.headers.getAll name =
      match resolveRemoteIp httpUseForwarded isIpBlocked forwarded xForwardedFor
          sessionRemoteIp with
      | .forbidden => if name = "content-type" then ["application/problem+json"] else []
      | .resolved remoteIp =>
        match httpHeaders.reverse.lookup name with
        | some value => [value]
        | none =>
          ((responseOf replies (parseHttpRequest cfg env remoteIp req).result).headers.filter
            (·.1 == name)).map Prod.snd := by
  unfold respond at hreply
  cases hres : resolveRemoteIp httpUseForwarded isIpBlocked forwarded xForwardedFor
    sessionRemoteIp with
  | forbidden =>
    rw [hres] at hreply
    rw [(HttpResponse.getAll_of_build hreply name).2]
    by_cases h : name = "content-type"
    · simp [statusResponse, HttpResponse.newText, HttpResponse.headers, h]
    · simp [statusResponse, HttpResponse.newText, HttpResponse.headers, h, Ne.symm h]
  | resolved remoteIp =>
    rw [hres] at hreply
    obtain ⟨b, hb, rfl⟩ := Option.map_eq_some'.1 hreply
    rw [Reply.addHeaders, HeaderMap.getAll_foldl_insert]
    split <;> simp [(HttpResponse.getAll_of_build hb name).2]

/-- **Which replies panic.**  `build` panics on the reply to a request exactly when the request
is not refused and the router's outcome is a download whose file name or content type, the
`accept` parameter, holds a control character, a resource whose content type holds one, or a
response of the key set or of a handler that holds one.  No error and no bare status does, and
neither does the refusal of a blocked forwarded address. -/
theorem respond_eq_none_iff :
    respond cfg httpUseForwarded isIpBlocked httpHeaders replies env sessionRemoteIp forwarded
        xForwardedFor req = none ↔
      ∃ remoteIp, resolveRemoteIp httpUseForwarded isIpBlocked forwarded xForwardedFor
          sessionRemoteIp = .resolved remoteIp ∧
        match (parseHttpRequest cfg env remoteIp req).result with
        | .ok (.download filename contentType _) =>
          filename.data.all isHeaderSafe = false ∨ contentType.data.all isHeaderSafe = false
        | .ok (.resource contentType _) => contentType.data.all isHeaderSafe = false
        | .ok .jwks => replies.jwks.build = none
        | .ok (.handler h) => (replies.handler h).build = none
        | _ => False := by
  unfold respond
  cases hres : resolveRemoteIp httpUseForwarded isIpBlocked forwarded xForwardedFor
    sessionRemoteIp with
  | forbidden =>
    simp [HttpResponse.build_eq_none_iff, headersSafe_statusResponse]
  | resolved remoteIp =>
    rw [Option.map_eq_none', build_responseOf_eq_none_iff]
    constructor
    · exact fun h => ⟨remoteIp, rfl, h⟩
    · rintro ⟨_, ⟨⟩, h⟩
      exact h

/-- **Only a download lets a request make its reply panic.**  Take collaborators whose webadmin
resources and host logo have safe content types, and whose key set and handler responses build.
Then `build` panics on the reply to a request only when the router returned a blob download,
named by the fifth segment of the path and typed by the `accept` parameter of the query, one of
which holds a control character. -/
theorem respond_eq_none_of_download
    (hweb : ∀ path r, env.webadmin path = .ok r → r.contentType.data.all isHeaderSafe)
    (hlogo : ∀ r, env.logoResource = .ok (some r) → r.contentType.data.all isHeaderSafe)
    (hjwks : replies.jwks.build ≠ none) (hhandler : ∀ h, (replies.handler h).build ≠ none)
    (hreply : respond cfg httpUseForwarded isIpBlocked httpHeaders replies env sessionRemoteIp
      forwarded xForwardedFor req = none) :
    ∃ remoteIp filename blob,
      resolveRemoteIp httpUseForwarded isIpBlocked forwarded xForwardedFor sessionRemoteIp =
          .resolved remoteIp ∧
        (parseHttpRequest cfg env remoteIp req).result =
          .ok (.download filename (req.accept.getD "application/octet-stream") blob) ∧
        (pathSegments req.path).get? 5 = some filename ∧
        (filename.data.all isHeaderSafe = false ∨
          (req.accept.getD "application/octet-stream").data.all isHeaderSafe = false) := by
  unfold respond at hreply
  cases hres : resolveRemoteIp httpUseForwarded isIpBlocked forwarded xForwardedFor
    sessionRemoteIp with
  | forbidden =>
    rw [hres, HttpResponse.build_eq_none_iff, headersSafe_statusResponse] at hreply
    cases hreply
  | resolved remoteIp =>
    rw [hres, Option.map_eq_none', build_responseOf_eq_none_iff] at hreply
    have hmade : ∀ resp, (parseHttpRequest cfg env remoteIp req).result = .ok resp → _ :=
      yields_parseHttpRequest cfg env remoteIp req
    generalize hr : (parseHttpRequest cfg env remoteIp req).result = result at hreply hmade
    rcases result with e | (code | ⟨contentType, contents⟩ | ⟨filename, contentType, blob⟩ | _ | h)
    · exact hreply.elim
    · exact hreply.elim
    · rcases hmade _ rfl with hm | ⟨⟨⟩, -⟩
      have := isHeaderSafe_of_resource_made hweb hlogo hm
      simp_all
    · rcases hmade _ rfl with ⟨hname, rfl, -⟩ | ⟨⟨⟩, -⟩
      exact ⟨remoteIp, filename, blob, rfl, hr, hname, hreply⟩
    · exact absurd hreply hjwks
    · exact absurd hreply (hhandler h)

end Respond

/-- A health check behind an `X-Frame-Options` header: the reply carries it beside the problem's
content type. -/
theorem respond_getAll_healthz :
    respond HttpConfig.sample false (fun _ => false) [("x-frame-options", "DENY")] .sample
        .permissive (.v4 (.ofOctets [192, 0, 2, 1])) none none
        ⟨.get, "/healthz/live", none, none, none, none, []⟩ =
      some ⟨200, ⟨[("content-type", ["application/problem+json"]), ("x-frame-options", ["DENY"])]⟩,
        .text ""⟩ ∧
    HeaderMap.getAll
        ⟨[("content-type", ["application/problem+json"]), ("x-frame-options", ["DENY"])]⟩
        "x-frame-options" = ["DENY"] :=
  have hreply : respond HttpConfig.sample false (fun _ => false) [("x-frame-options", "DENY")]
      .sample .permissive (.v4 (.ofOctets [192, 0, 2, 1])) none none
      ⟨.get, "/healthz/live", none, none, none, none, []⟩ =
    some ⟨200, ⟨[("content-type", ["application/problem+json"]), ("x-frame-options", ["DENY"])]⟩,
      .text ""⟩ := rfl
  ⟨hreply, (respond_getAll _ _ _ _ _ _ _ _ _ _ hreply "x-frame-options").trans rfl⟩

/-- The permissive collaborators with a store that has every blob, empty. -/
def Collaborators.withBlobs : Collaborators :=
  { Collaborators.permissive with blobDownload := fun _ _ => .ok (some []) }

/-- `GET /jmap/download/a/b/report.txt?accept=text/plain%0A`: `form_urlencoded` decodes the
`accept` parameter to a value that ends in a line feed, and the reply panics. -/
theorem respond_eq_none_of_download_accept :
    respond HttpConfig.sample false (fun _ => false) [] .sample .withBlobs
        (.v4 (.ofOctets [192, 0, 2, 1])) none none
        ⟨.get, "/jmap/download/a/b/report.txt", some "text/plain\n", none, none, none, []⟩ = none ∧
      ∃ remoteIp filename blob,
        resolveRemoteIp false (fun _ => false) none none (.v4 (.ofOctets [192, 0, 2, 1])) =
            .resolved remoteIp ∧
          (parseHttpRequest HttpConfig.sample .withBlobs remoteIp
              ⟨.get, "/jmap/download/a/b/report.txt", some "text/plain\n", none, none, none, []⟩).result =
            .ok (.download filename ((some "text/plain\n").getD "application/octet-stream") blob) ∧
          (pathSegments "/jmap/download/a/b/report.txt").get? 5 = some filename ∧
          (filename.data.all isHeaderSafe = false ∨
            ((some "text/plain\n").getD "application/octet-stream").data.all isHeaderSafe = false) :=
  have hreply : respond HttpConfig.sample false (fun _ => false) [] .sample .withBlobs
      (.v4 (.ofOctets [192, 0, 2, 1])) none none
      ⟨.get, "/jmap/download/a/b/report.txt", some "text/plain\n", none, none, none, []⟩ = none :=
    rfl
  ⟨hreply, respond_eq_none_of_download HttpConfig.sample false (fun _ => false) [] .sample
    .withBlobs _ none none _ (fun _ _ h => by cases h; rfl) (fun _ h => by cases h)
    (Option.isSome_iff_ne_none.1 rfl) (fun _ => Option.isSome_iff_ne_none.1 rfl) hreply⟩

end MailServer
