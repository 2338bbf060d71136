import Mathlib.Data.List.Basic

/-!
# Reading a request body under a size limit

`fetch_body` reads the frames of an HTTP request body into one buffer, and gives up, returning
`None`, at the first data frame that would take the buffer past `max_size`; a `max_size` of `0`
means no limit.  The loop stops quietly at the first error the stream yields, keeping what it
has read.

The loop is modelled twice: as `fetchBodyLoop`, the recursion over the frames the `while let`
runs, and as the state machine `fetchBodyStep` whose states are the frames still to come and the
buffer; `fetchBodyLoop_step` says that the loop is the machine run to its end, and
`FetchReach.exists_done` that the run from the request reaches the turn that returns what
`fetch_body` returns.  Over every run the buffer never holds more than the limit
(`FetchReach.length_le`), and the buffer and the frames still to come hold the body's data
(`FetchReach.bodyData_eq`); `fetchBody_eq` reads the result off these two invariants, and
`fetchBody_limit` states the contract: for a nonzero limit, `fetch_body` returns the body's data
exactly when it fits, and `None` exactly when it does not.

The JMAP API and upload endpoints read their bodies through it, both under `upload_max_size`
(`jmapBodyLimit`), and turn `None` into `LimitEvent::SizeRequest` or `SizeUpload`.
-/

namespace MailServer

/-- A frame of a request body, as `Frame::data_ref` sees it: data, or trailers. -/
inductive Frame
  | data (bytes : List UInt8)
  | trailers
deriving DecidableEq, Repr

/-- `Frame::data_ref`. -/
def Frame.dataRef : Frame → Option (List UInt8)
  | .data bytes => some bytes
  | .trailers => none

/-- What `req.frame().await` yields until it returns `None`: a frame, or an error (whose value
the loop never reads). -/
abbrev FrameResult := Except Unit Frame

/-- `fetch_body`'s `while let` loop over the frames still to come, with the bytes read so far.
`bytes.len() + data.len()` cannot overflow: both are at most `isize::MAX`. -/
def fetchBodyLoop (maxSize : Nat) : List FrameResult → List UInt8 → Option (List UInt8)
  | .ok frame :: rest, bytes =>
    match frame.dataRef with
    | some data =>
      if bytes.length + data.length ≤ maxSize ∨ maxSize = 0 then
        fetchBodyLoop maxSize rest (bytes ++ data)
      else none
    | none => fetchBodyLoop maxSize rest bytes
  | _, bytes => some bytes

/-- `fetch_body`: the request is the frames it yields; `session_id` only labels the trace
events. -/
def fetchBody (req : List FrameResult) (maxSize : Nat) : Option (List UInt8) :=
  fetchBodyLoop maxSize req []

/-- The data a request carries: its data frames, up to the first error or the end. -/
def bodyData : List FrameResult → List UInt8
  | .ok frame :: rest => frame.dataRef.getD [] ++ bodyData rest
  | _ => []

/-! ## The loop as a state machine -/

/-- A state of the loop: the frames still to come and the bytes read so far. -/
structure FetchState where
  frames : List FrameResult
  bytes : List UInt8

/-- What one turn of the loop does: go on to the next frame, or return. -/
inductive FetchTurn
  | next (s : FetchState)
  | done (result : Option (List UInt8))

/-- One turn of the loop. -/
def fetchBodyStep (maxSize : Nat) (s : FetchState) : FetchTurn :=
  match s.frames with
  | .ok frame :: rest =>
    match frame.dataRef with
    | some data =>
      if s.bytes.length + data.length ≤ maxSize ∨ maxSize = 0 then .next ⟨rest, s.bytes ++ data⟩
      else .done none
    | none => .next ⟨rest, s.bytes⟩
  | _ => .done (some s.bytes)

/-- The loop is the machine run to its end: one turn, then the loop from where it leads. -/
theorem fetchBodyLoop_step (maxSize : Nat) (s : FetchState) :
    fetchBodyLoop maxSize s.frames s.bytes = match fetchBodyStep maxSize s with
      | .next s' => fetchBodyLoop maxSize s'.frames s'.bytes
      | .done r => r := by
  rcases s with ⟨_ | ⟨_ | frame, rest⟩, bytes⟩
  case mk.cons.ok =>
    simp only [fetchBodyLoop, fetchBodyStep]
    cases frame.dataRef <;> simp only
    split <;> rfl
  all_goals rfl

/-- Everything a turn can do: it takes one frame, and either skips it or appends its data, which
fits the limit or meets no limit. -/
theorem fetchBodyStep_next {maxSize : Nat} {s s' : FetchState}
    (h : fetchBodyStep maxSize s = .next s') :
    ∃ frame, s.frames = .ok frame :: s'.frames ∧
      (frame.dataRef = none ∧ s'.bytes = s.bytes ∨
        ∃ data, frame.dataRef = some data ∧ (s.bytes.length + data.length ≤ maxSize ∨ maxSize = 0) ∧
          s'.bytes = s.bytes ++ data) := by
  rcases s with ⟨_ | ⟨_ | frame, rest⟩, bytes⟩ <;> simp only [fetchBodyStep, reduceCtorEq] at h
  refine ⟨frame, ?_⟩
  cases hd : frame.dataRef with
  | none =>
    simp only [hd] at h
    cases h
    exact ⟨rfl, .inl ⟨rfl, rfl⟩⟩
  | some data =>
    simp only [hd] at h
    split at h
    · cases h
      exact ⟨rfl, .inr ⟨data, rfl, ‹_›, rfl⟩⟩
    · cases h

/-- The states the loop of `fetch_body req` passes through. -/
inductive FetchReach (maxSize : Nat) (req : List FrameResult) : FetchState → Prop
  | init : FetchReach maxSize req ⟨req, []⟩
  | step {s s' : FetchState} : FetchReach maxSize req s → fetchBodyStep maxSize s = .next s' →
      FetchReach maxSize req s'

/-- **The buffer never exceeds the limit.** -/
theorem FetchReach.length_le {maxSize : Nat} {req : List FrameResult} {s : FetchState}
    (hmax : 0 < maxSize) (h : FetchReach maxSize req s) : s.bytes.length ≤ maxSize := by
  induction h with
  | init => simp
  | step _ hs ih =>
    obtain ⟨-, -, ⟨-, hb⟩ | ⟨data, -, hfit, hb⟩⟩ := fetchBodyStep_next hs
    · rwa [hb]
    · rw [hb, List.length_append]; omega

/-- Everything a turn that returns can do: meet the end of the frames or an error, and return the
bytes read; or meet a data frame that does not fit a nonzero limit, and return `None`. -/
theorem fetchBodyStep_done {maxSize : Nat} {s : FetchState} {r : Option (List UInt8)}
    (h : fetchBodyStep maxSize s = .done r) :
    r = some s.bytes ∧ bodyData s.frames = [] ∨
      r = none ∧ 0 < maxSize ∧ maxSize < s.bytes.length + (bodyData s.frames).length := by
  rcases s with ⟨_ | ⟨_ | frame, rest⟩, bytes⟩
  case mk.cons.ok =>
    simp only [fetchBodyStep] at h
    cases hd : frame.dataRef with
    | none => simp [hd] at h
    | some data =>
      simp only [hd] at h
      split at h
      · cases h
      · cases h
        refine .inr ⟨rfl, ?_⟩
        simp only [bodyData, hd, Option.getD_some, List.length_append]
        omega
  all_goals cases h; exact .inl ⟨rfl, rfl⟩

/-- The data a run has read and the data still to come make up the body's data. -/
theorem FetchReach.bodyData_eq {maxSize : Nat} {req : List FrameResult} {s : FetchState}
    (h : FetchReach maxSize req s) : s.bytes ++ bodyData s.frames = bodyData req := by
  induction h with
  | init => rfl
  | step _ hs ih =>
    obtain ⟨frame, hf, ⟨hd, hb⟩ | ⟨data, hd, -, hb⟩⟩ := fetchBodyStep_next hs <;>
      rw [← ih, hf, bodyData, hd, hb] <;> simp

/-- **The run ends with the loop's result.**  From every state the machine reaches, it goes on
to a state whose turn returns what `fetch_body`'s loop returns from there. -/
theorem FetchReach.exists_done {maxSize : Nat} {req : List FrameResult} {s : FetchState}
    (h : FetchReach maxSize req s) :
    ∃ t, FetchReach maxSize req t ∧
      fetchBodyStep maxSize t = .done (fetchBodyLoop maxSize s.frames s.bytes) := by
  obtain ⟨frames, bytes⟩ := s
  induction frames generalizing bytes with
  | nil => exact ⟨_, h, rfl⟩
  | cons r rest ih =>
    rw [fetchBodyLoop_step]
    cases hs : fetchBodyStep maxSize ⟨r :: rest, bytes⟩ with
    | done r' => exact ⟨_, h, hs⟩
    | next s' =>
      obtain ⟨_, hf, -⟩ := fetchBodyStep_next hs
      obtain ⟨frames', bytes'⟩ := s'
      obtain rfl : rest = frames' := (List.cons.inj hf).2
      exact ih bytes' (h.step hs)

/-! ## The result -/

/-- `fetch_body`'s result, read off the run from the request: the body's data when it fits the
limit or there is none, and `None` otherwise. -/
theorem fetchBody_eq (req : List FrameResult) (maxSize : Nat) :
    fetchBody req maxSize =
      if maxSize = 0 ∨ (bodyData req).length ≤ maxSize then some (bodyData req) else none := by
  obtain ⟨t, ht, hdone⟩ := (@FetchReach.init maxSize req).exists_done
  have hdata := ht.bodyData_eq
  rcases fetchBodyStep_done hdone with ⟨hr, hb⟩ | ⟨hr, hpos, hover⟩
  · rw [hb, List.append_nil] at hdata
    have hfit : maxSize = 0 ∨ (bodyData req).length ≤ maxSize :=
      (Nat.eq_zero_or_pos maxSize).imp id fun hpos => hdata ▸ ht.length_le hpos
    rw [fetchBody, hr, if_pos hfit, hdata]
  · have hlen : maxSize < (bodyData req).length := by
      rw [← hdata, List.length_append]; exact hover
    rw [fetchBody, hr, if_neg (by omega)]

/-- **`fetch_body` enforces its limit exactly.**  For a nonzero limit it returns the body's data
when that fits and `None` when it does not, and its buffer never holds more than the limit; a
limit of `0` lets every body through. -/
theorem fetchBody_limit :
    (∀ (req : List FrameResult) (maxSize : Nat), 0 < maxSize →
      fetchBody req maxSize =
        if (bodyData req).length ≤ maxSize then some (bodyData req) else none) ∧
    (∀ (req : List FrameResult) (maxSize : Nat) (s : FetchState), 0 < maxSize →
      FetchReach maxSize req s → s.bytes.length ≤ maxSize) ∧
    (∀ req : List FrameResult, fetchBody req 0 = some (bodyData req)) :=
  ⟨fun req maxSize hmax => by simp [fetchBody_eq, Nat.pos_iff_ne_zero.mp hmax],
    fun _ _ _ hmax h => h.length_le hmax, fun req => by simp [fetchBody_eq]⟩

/-! ## The JMAP endpoints -/

/-- The limit the JMAP API (`POST /jmap`) and upload (`POST /jmap/upload/…`) endpoints read a
body under: `upload_max_size`, or none for a token with the `UnlimitedUploads` permission. -/
def jmapBodyLimit (uploadMaxSize : Nat) (unlimitedUploads : Bool) : Nat :=
  if !unlimitedUploads then uploadMaxSize else 0

/-- The `trc::LimitEvent`s a body over the limit raises. -/
inductive LimitEvent
  | sizeRequest
  | sizeUpload
deriving DecidableEq, Repr

/-- The body of a JMAP API request: `fetch_body(..).ok_or_else(|| LimitEvent::SizeRequest)`. -/
def jmapRequestBody (req : List FrameResult) (uploadMaxSize : Nat) (unlimitedUploads : Bool) :
    Except LimitEvent (List UInt8) :=
  match fetchBody req (jmapBodyLimit uploadMaxSize unlimitedUploads) with
  | some bytes => .ok bytes
  | none => .error .sizeRequest

/-- The body of an upload: `None => Err(LimitEvent::SizeUpload)`. -/
def uploadBody (req : List FrameResult) (uploadMaxSize : Nat) (unlimitedUploads : Bool) :
    Except LimitEvent (List UInt8) :=
  match fetchBody req (jmapBodyLimit uploadMaxSize unlimitedUploads) with
  | some bytes => .ok bytes
  | none => .error .sizeUpload

theorem fetchBody_jmapBodyLimit (req : List FrameResult) (uploadMaxSize : Nat)
    (unlimitedUploads : Bool) :
    fetchBody req (jmapBodyLimit uploadMaxSize unlimitedUploads) =
      if unlimitedUploads ∨ uploadMaxSize = 0 ∨ (bodyData req).length ≤ uploadMaxSize then
        some (bodyData req)
      else none := by
  rw [fetchBody_eq]
  cases unlimitedUploads <;> simp [jmapBodyLimit]

/-- **Both JMAP endpoints read their body under `upload_max_size`.**  An API request and an
upload are accepted with the body's data exactly when the token may upload without limit,
`upload_max_size` is `0`, or the data fits `upload_max_size`; otherwise the request fails with
`SizeRequest` and the upload with `SizeUpload`. -/
theorem jmap_body_limit (req : List FrameResult) (uploadMaxSize : Nat) (unlimitedUploads : Bool) :
    jmapRequestBody req uploadMaxSize unlimitedUploads =
      (if unlimitedUploads ∨ uploadMaxSize = 0 ∨ (bodyData req).length ≤ uploadMaxSize then
        .ok (bodyData req) else .error .sizeRequest) ∧
    uploadBody req uploadMaxSize unlimitedUploads =
      (if unlimitedUploads ∨ uploadMaxSize = 0 ∨ (bodyData req).length ≤ uploadMaxSize then
        .ok (bodyData req) else .error .sizeUpload) := by
  simp only [jmapRequestBody, uploadBody, fetchBody_jmapBodyLimit]
  constructor <;> split_ifs <;> rfl

end MailServer
