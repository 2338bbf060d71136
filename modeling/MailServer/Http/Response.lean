import MailServer.Http.Router
import Mathlib.Data.String.Basic

/-!
# The responses of the HTTP front end

`HttpResponse::build` (`jmap/src/api/http.rs`) turns a response into the status and headers
hyper sends: a text body gets its `Content-Type`; a binary one its `Content-Type`, and its
`Content-Disposition` and `Cache-Control` when they are set; a stream both of those; an empty
body none; a WebSocket upgrade the four headers of the handshake.

A blob download is sent as an attachment: `DownloadResponse::into_http_response` writes
`attachment; filename="…"`, with every double quote of the file name behind a backslash.  A
client reads the name back as RFC 6266 says, from a quoted string of RFC 7230, where a backslash
takes the character after it literally (`attachmentFilename`).  The quoting escapes the quote but
not the backslash, so the name comes back exactly when it holds no backslash
(`attachmentFilename_contentDisposition`): a backslash before another character is dropped, and
one at the end of the name takes the closing quote for part of it.
-/

namespace MailServer

/-! ## Responses and their headers -/

/-- `HttpResponseBody`. -/
inductive HttpResponseBody
  | text (value : String)
  | binary (bytes : List UInt8)
  | empty
  | stream
  | websocketUpgrade (derivedKey : String)

/-- `HttpResponse`, before `build`. -/
structure HttpResponse where
  status : Nat
  contentType : String
  contentDisposition : String
  cacheControl : String
  body : HttpResponseBody

/-- `HttpResponse::new_empty`. -/
def HttpResponse.newEmpty (status : Nat) : HttpResponse := ⟨status, "", "", "", .empty⟩

/-- `HttpResponse::new_text`. -/
def HttpResponse.newText (status : Nat) (contentType body : String) : HttpResponse :=
  ⟨status, contentType, "", "", .text body⟩

/-- `HttpResponse::new_binary`. -/
def HttpResponse.newBinary (status : Nat) (contentType : String) (body : List UInt8) :
    HttpResponse :=
  ⟨status, contentType, "", "", .binary body⟩

/-- `HttpResponse::size`: the length of a text or binary body. -/
def HttpResponse.size (r : HttpResponse) : Nat :=
  match r.body with
  | .text value => value.utf8ByteSize
  | .binary value => value.length
  | _ => 0

/-- The headers `HttpResponse::build` sets, in order. -/
def HttpResponse.headers (r : HttpResponse) : List (String × String) :=
  match r.body with
  | .text _ => [("content-type", r.contentType)]
  | .binary _ =>
    [("content-type", r.contentType)] ++
      (if r.contentDisposition.isEmpty then [] else [("content-disposition", r.contentDisposition)]) ++
      (if r.cacheControl.isEmpty then [] else [("cache-control", r.cacheControl)])
  | .empty => []
  | .stream => [("content-type", r.contentType), ("cache-control", r.cacheControl)]
  | .websocketUpgrade derivedKey =>
    [("connection", "upgrade"), ("upgrade", "websocket"), ("sec-websocket-accept", derivedKey),
      ("sec-websocket-protocol", "jmap")]

/-- `Resource::into_http_response`. -/
def Resource.intoHttpResponse (r : Resource) : HttpResponse :=
  .newBinary 200 r.contentType r.contents

/-! ## Downloads -/

/-- `DownloadResponse`: the file name, the content type and the bytes of a blob. -/
structure DownloadResponse where
  filename : String
  contentType : String
  blob : List UInt8

/-- `str::replace('"', "\\\"")`: a backslash before every double quote. -/
def escapeQuotes : List Char → List Char
  | [] => []
  | c :: s => (if c = '"' then ['\\', '"'] else [c]) ++ escapeQuotes s

/-- `DownloadResponse::into_http_response`. -/
def DownloadResponse.intoHttpResponse (d : DownloadResponse) : HttpResponse where
  status := 200
  contentType := d.contentType
  contentDisposition := "attachment; filename=\"" ++ ⟨escapeQuotes d.filename.data⟩ ++ "\""
  cacheControl := "private, immutable, max-age=31536000"
  body := .binary d.blob

/-! ## Reading the file name back -/

/-- RFC 7230's `quoted-string` after its opening quote: its text up to the closing quote, where
a backslash takes the character after it literally, and what follows the closing quote; `none`
when no closing quote ends it. -/
def readQuoted : List Char → Option (List Char × List Char)
  | [] => none
  | '"' :: rest => some ([], rest)
  | '\\' :: c :: rest => (readQuoted rest).map fun (v, r) => (c :: v, r)
  | c :: rest => (readQuoted rest).map fun (v, r) => (c :: v, r)

theorem length_escapeQuotes (x : List Char) :
    (escapeQuotes x).length = x.length + x.count '"' := by
  induction x with
  | nil => rfl
  | cons c x ih => by_cases hc : c = '"' <;> simp [escapeQuotes, hc, ih, List.count_cons] <;> omega

theorem count_escapeQuotes (x : List Char) : (escapeQuotes x).count '"' = x.count '"' := by
  induction x with
  | nil => rfl
  | cons c x ih => by_cases hc : c = '"' <;> simp [escapeQuotes, hc, ih, List.count_cons]

theorem readQuoted_cons {c : Char} (hq : c ≠ '"') (hb : c ≠ '\\') (rest : List Char) :
    readQuoted (c :: rest) = (readQuoted rest).map fun (v, r) => (c :: v, r) := by
  rw [readQuoted]
  · exact hq
  · exact fun _ _ h => absurd h hb

/-- A character the reader keeps comes first in what it returns. -/
theorem exists_of_map_cons {c : Char} {rest v r : List Char}
    (h : ((readQuoted rest).map fun (v, r) => (c :: v, r)) = some (v, r)) :
    ∃ v', readQuoted rest = some (v', r) ∧ v = c :: v' := by
  obtain ⟨⟨v', r'⟩, h', hv⟩ := Option.map_eq_some'.1 h
  simp only [Prod.mk.injEq] at hv
  exact ⟨v', hv.2 ▸ h', hv.1.symm⟩

/-- What the reader returns is bounded by what it reads: each double quote it passes over, but
the closing one, stands behind a backslash, which it drops. -/
theorem readQuoted_length_le {s v r : List Char} (h : readQuoted s = some (v, r)) :
    v.length + s.count '"' + r.length ≤ s.length + r.count '"' := by
  induction s using readQuoted.induct generalizing v r with
  | case1 => simp [readQuoted] at h
  | case2 rest =>
    simp only [readQuoted, Option.some.injEq, Prod.mk.injEq] at h
    obtain ⟨rfl, rfl⟩ := h
    simp [List.count_cons]
    omega
  | case3 c rest ih =>
    obtain ⟨v', h', rfl⟩ := exists_of_map_cons (by simpa only [readQuoted] using h)
    have := ih h'
    simp [List.count_cons]
    split_ifs <;> omega
  | case4 c rest hq hb ih =>
    rw [readQuoted] at h
    · obtain ⟨v', h', rfl⟩ := exists_of_map_cons h
      have := ih h'
      simp only [List.count_cons, List.length_cons, beq_iff_eq, if_neg hq]
      omega
    · exact hq
    · exact hb

/-- A name without a backslash is read back from its quoting, whatever follows the closing
quote. -/
theorem readQuoted_escapeQuotes {x : List Char} (hx : '\\' ∉ x) (rest : List Char) :
    readQuoted (escapeQuotes x ++ '"' :: rest) = some (x, rest) := by
  induction x with
  | nil => simp [escapeQuotes, readQuoted]
  | cons c x ih =>
    have hc : c ≠ '\\' := fun h => hx (h ▸ List.mem_cons_self _ _)
    have ih' := ih fun h => hx (List.mem_cons_of_mem _ h)
    by_cases hq : c = '"'
    · subst hq
      simp [escapeQuotes, readQuoted, ih']
    · simp [escapeQuotes, hq, readQuoted_cons hq hc, ih']

/-- A name with a backslash is not: the reader drops a backslash before another character, and
takes the closing quote after a final one for part of the name. -/
theorem not_mem_of_readQuoted_escapeQuotes {x : List Char}
    (h : readQuoted (escapeQuotes x ++ ['"']) = some (x, [])) : '\\' ∉ x := by
  induction x with
  | nil => simp
  | cons c x ih =>
    by_cases hb : c = '\\'
    · -- the backslash takes the next character literally: the rest then reads back one
      -- character longer than the bound allows
      subst hb
      obtain ⟨e, t, ht⟩ := List.exists_cons_of_ne_nil (by simp : escapeQuotes x ++ ['"'] ≠ [])
      have hx : escapeQuotes ('\\' :: x) ++ ['"'] = '\\' :: e :: t := by
        simp [escapeQuotes, ht]
      rw [hx, readQuoted] at h
      obtain ⟨v', h', hv⟩ := exists_of_map_cons h
      obtain ⟨rfl, rfl⟩ := List.cons.inj hv
      have hlen := congrArg List.length ht
      have hcount := congrArg (List.count '"') ht
      have := readQuoted_length_le h'
      simp [length_escapeQuotes, count_escapeQuotes, List.count_cons] at hlen hcount this
      omega
    · have hkeep : ∀ {v}, readQuoted (escapeQuotes (c :: x) ++ ['"']) = some (v, []) →
          ∃ v', readQuoted (escapeQuotes x ++ ['"']) = some (v', []) ∧ v = c :: v' := by
        intro v hv
        by_cases hq : c = '"'
        · subst hq
          exact exists_of_map_cons (by simpa [escapeQuotes, readQuoted] using hv)
        · exact exists_of_map_cons (by simpa [escapeQuotes, hq, readQuoted_cons hq hb] using hv)
      obtain ⟨v', h', hv⟩ := hkeep h
      obtain ⟨-, rfl⟩ := List.cons.inj hv
      exact List.not_mem_cons_of_ne_of_not_mem (Ne.symm hb) (ih h')

theorem readQuoted_escapeQuotes_iff (x : List Char) :
    readQuoted (escapeQuotes x ++ ['"']) = some (x, []) ↔ '\\' ∉ x :=
  ⟨not_mem_of_readQuoted_escapeQuotes, fun hx => readQuoted_escapeQuotes hx []⟩

/-- The file name of a `Content-Disposition` value `attachment; filename="…"`, as RFC 6266 reads
it: a quoted string that ends the value. -/
def attachmentFilename (value : String) : Option String :=
  if "attachment; filename=\"".data.isPrefixOf value.data then
    match readQuoted (value.data.drop "attachment; filename=\"".length) with
    | some (name, []) => some ⟨name⟩
    | _ => none
  else none

/-- The headers of a download: its content type, the `Content-Disposition` that
`into_http_response` wrote, and the caching of a private resource that never changes. -/
theorem headers_downloadResponse (d : DownloadResponse) :
    d.intoHttpResponse.headers =
      [("content-type", d.contentType),
        ("content-disposition", d.intoHttpResponse.contentDisposition),
        ("cache-control", "private, immutable, max-age=31536000")] := by
  have hd : d.intoHttpResponse.contentDisposition.isEmpty = false := by
    rw [Bool.eq_false_iff, ne_eq, String.isEmpty_iff]
    intro h
    have := congrArg String.data h
    simp [DownloadResponse.intoHttpResponse] at this
  have hc : "private, immutable, max-age=31536000".isEmpty = false := by decide
  show [("content-type", d.contentType)] ++
      (if d.intoHttpResponse.contentDisposition.isEmpty then []
        else [("content-disposition", d.intoHttpResponse.contentDisposition)]) ++
      (if "private, immutable, max-age=31536000".isEmpty then []
        else [("cache-control", "private, immutable, max-age=31536000")]) = _
  rw [hd, hc]
  rfl

/-- The `Content-Disposition` value of a download names, as RFC 6266 reads it, the blob's file
name exactly when the name holds no backslash. -/
theorem attachmentFilename_contentDisposition (d : DownloadResponse) :
    attachmentFilename d.intoHttpResponse.contentDisposition = some d.filename ↔
      '\\' ∉ d.filename.data := by
  have hvalue : d.intoHttpResponse.contentDisposition.data =
      "attachment; filename=\"".data ++ (escapeQuotes d.filename.data ++ ['"']) := by
    simp [DownloadResponse.intoHttpResponse]
  rw [attachmentFilename, hvalue, if_pos (List.isPrefixOf_iff_prefix.2 (List.prefix_append _ _)),
    show "attachment; filename=\"".length = "attachment; filename=\"".data.length from rfl,
    List.drop_left, ← readQuoted_escapeQuotes_iff]
  constructor
  · intro h
    split at h
    · rename_i name hname
      exact congrArg String.data (Option.some.inj h) ▸ hname
    · cases h
  · intro h
    rw [h]

/-- A backslash before another character is dropped; one at the end leaves no name at all. -/
example : attachmentFilename
      (DownloadResponse.intoHttpResponse ⟨"a\\b.txt", "text/plain", []⟩).contentDisposition =
      some "ab.txt" ∧
    attachmentFilename
      (DownloadResponse.intoHttpResponse ⟨"dir\\", "text/plain", []⟩).contentDisposition = none := by
  decide

end MailServer
