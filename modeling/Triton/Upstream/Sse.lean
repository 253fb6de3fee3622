/-
# Decoding an event stream

The body of a streaming answer arrives in byte chunks that know nothing of
frames. The decoder collects them in a buffer, takes out every frame that a blank
line ends, and turns each into an event. It gives up on a transport fault, on a
silent or endless upstream, and on a frame that outgrows the buffer's cap.
-/

import Triton.Core.Stream
import Triton.Lib.Framing
import Triton.Lib.Utf8

namespace Triton.Upstream

open Triton.Core Triton.Lib

/-- Cap on the bytes of an unfinished frame. -/
def maxFrameBytes : ℕ := 1024 * 1024

/-- The blank line of a body with line feeds. -/
def blankLf : Bytes := [10, 10]

/-- The blank line of a body with carriage returns. -/
def blankCrLf : Bytes := [13, 10, 13, 10]

/-- Where the first frame of a buffer ends, and how long its blank line is. -/
def findBoundary (buf : Bytes) : Option (ℕ × ℕ) :=
  let lf := (position blankLf buf).map fun i => (i, 2)
  let crlf := (position blankCrLf buf).map fun i => (i, 4)
  match lf, crlf with
  | some a, some b => some (if a.1 ≤ b.1 then a else b)
  | some a, none => some a
  | none, some b => some b
  | none, none => none

/-- What the lines of a frame have said so far. -/
structure Fields where
  event : Option String
  dataLines : List String
  deriving DecidableEq, Repr

/-- Take in one field. Names outside the vocabulary are skipped. -/
def Fields.put (fields : Fields) (name value : String) : Fields :=
  match name with
  | "event" => { fields with event := some value }
  | "data" => { fields with dataLines := fields.dataLines ++ [value] }
  | _ => fields

@[simp] theorem Fields.put_event (fields : Fields) (value : String) :
    fields.put "event" value = { fields with event := some value } := rfl

@[simp] theorem Fields.put_data (fields : Fields) (value : String) :
    fields.put "data" value = { fields with dataLines := fields.dataLines ++ [value] } := rfl

/-- Take in one line. Blank lines and comments say nothing; a line without a
colon is a field without a value. -/
def Fields.readLine (fields : Fields) (raw : String) : Fields :=
  let line := (Text.stripTail raw "\r").getD raw
  if line.isEmpty || Text.startsWith line ":" then fields
  else
    match Text.splitOnce ':' line with
    | some (name, value) => fields.put name ((Text.stripHead value " ").getD value)
    | none => fields.put line ""

section Decode

variable (json : JsonText)

/-- The event of one frame; `none` for bytes that are not UTF-8 and for a frame
that names no event and carries no data. -/
def parseFrame (block : Bytes) : Option StreamEvent :=
  (Utf8.decode block).bind fun text =>
    let fields := (Text.split '\n' text).foldl Fields.readLine ⟨none, []⟩
    if fields.event.isNone && fields.dataLines.isEmpty then none
    else
      some (StreamEvent.parse json (fields.event.getD "message")
        ("\n".intercalate fields.dataLines))

end Decode

/-- The blank lines a frame may end with. -/
def blankLines : List Bytes := [blankLf, blankCrLf]

theorem separated_iff {buf : Bytes} {stop width : ℕ} :
    Separated blankLines buf stop width ↔
      (width = 2 ∧ blankLf <+: buf.drop stop) ∨ (width = 4 ∧ blankCrLf <+: buf.drop stop) := by
  simp only [Separated, blankLines, List.mem_cons, List.not_mem_nil, or_false, exists_eq_or_imp,
    exists_eq_left]
  exact Iff.or (and_congr_left' eq_comm) (and_congr_left' eq_comm)

theorem firstSeparator_of {buf : Bytes} {stop width : ℕ}
    (here : Separated blankLines buf stop width)
    (noLf : ∀ earlier < stop, ¬ blankLf <+: buf.drop earlier)
    (noCrLf : ∀ earlier < stop, ¬ blankCrLf <+: buf.drop earlier) :
    FirstSeparator blankLines buf stop width := by
  constructor
  · exact here
  · intro earlier lt width' separated
    rcases separated_iff.mp separated with ⟨_, starts⟩ | ⟨_, starts⟩
    · exact noLf earlier lt starts
    · exact noCrLf earlier lt starts

/-- The boundary found is the first blank line of either kind. -/
theorem firstSeparator_of_findBoundary {buf : Bytes} {stop width : ℕ}
    (found : findBoundary buf = some (stop, width)) :
    FirstSeparator blankLines buf stop width := by
  rw [findBoundary] at found
  cases lf : position blankLf buf with
  | none =>
    have noLf := position_eq_none (by decide) lf
    cases crlf : position blankCrLf buf with
    | none => simp [lf, crlf] at found
    | some b =>
      obtain ⟨hereB, firstB⟩ := position_eq_some crlf
      simp only [lf, crlf, Option.map_none, Option.map_some, Option.some.injEq] at found
      cases found
      exact firstSeparator_of (separated_iff.mpr (.inr ⟨rfl, hereB⟩))
        (fun earlier _ => noLf earlier) firstB
  | some a =>
    obtain ⟨hereA, firstA⟩ := position_eq_some lf
    cases crlf : position blankCrLf buf with
    | none =>
      have noCrLf := position_eq_none (by decide) crlf
      simp only [lf, crlf, Option.map_none, Option.map_some, Option.some.injEq] at found
      cases found
      exact firstSeparator_of (separated_iff.mpr (.inl ⟨rfl, hereA⟩)) firstA
        (fun earlier _ => noCrLf earlier)
    | some b =>
      obtain ⟨hereB, firstB⟩ := position_eq_some crlf
      simp only [lf, crlf, Option.map_some, Option.some.injEq] at found
      -- the kind that starts first wins
      split at found
      · rename_i le
        cases found
        exact firstSeparator_of (separated_iff.mpr (.inl ⟨rfl, hereA⟩)) firstA
          (fun earlier lt => firstB earlier (lt.trans_le le))
      · rename_i gt
        cases found
        exact firstSeparator_of (separated_iff.mpr (.inr ⟨rfl, hereB⟩))
          (fun earlier lt => firstA earlier (lt.trans (Nat.lt_of_not_le gt))) firstB

theorem not_separated_of_findBoundary {buf : Bytes} (found : findBoundary buf = none)
    (stop width : ℕ) : ¬ Separated blankLines buf stop width := by
  rw [findBoundary] at found
  cases lf : position blankLf buf <;> cases crlf : position blankCrLf buf <;>
    simp only [lf, crlf, Option.map_none, Option.map_some, reduceCtorEq] at found
  rw [separated_iff]
  rintro (⟨_, starts⟩ | ⟨_, starts⟩)
  · exact position_eq_none (by decide) lf stop starts
  · exact position_eq_none (by decide) crlf stop starts

/-- Frames end at blank lines of either kind. Neither kind occurs inside the other. -/
def sseFraming : Framing UInt8 where
  separators := blankLines
  nonempty := by decide
  unnested := by decide
  cut := findBoundary
  sound := firstSeparator_of_findBoundary
  complete := not_separated_of_findBoundary

theorem cut_empty : sseFraming.cut [] = none := by decide

section Decode

variable (json : JsonText)

theorem parseFrame_empty : parseFrame json [] = none := by
  rw [← Utf8.encode_empty, parseFrame, Utf8.decode_encode]
  rfl

/-- Take every finished frame out of a buffer: what is left of it, and the events
of the frames. -/
def drainFrames (buf : Bytes) : Bytes × List StreamEvent :=
  match _found : findBoundary buf with
  | none => (buf, [])
  | some (stop, width) =>
    let later := drainFrames (buf.drop (stop + width))
    (later.1, (parseFrame json (buf.take stop)).toList ++ later.2)
termination_by buf.length
decreasing_by
  have inside := sseFraming.cut_inside _found
  rw [List.length_drop]
  omega

/-- The events of a list of frames; a frame that says nothing gives none. -/
def frameEvents (frames : List (Bytes × Bytes)) : List StreamEvent :=
  frames.filterMap fun frame => parseFrame json frame.1

theorem drainFrames_eq (buf : Bytes) :
    drainFrames json buf =
      ((sseFraming.split buf).2, frameEvents json (sseFraming.split buf).1) := by
  fun_induction drainFrames json buf with
  | case1 buf found =>
    rw [sseFraming.split_of_none found]
    rfl
  | case2 buf stop width found later ih =>
    rw [sseFraming.split_of_some found, show later = _ from ih]
    cases parsed : parseFrame json (buf.take stop) <;> simp [frameEvents, parsed]

end Decode

/-- The two limits on a stream, in nanoseconds. -/
structure Limits where
  idleTimeout : ℕ
  maxDuration : ℕ
  deriving DecidableEq, Repr

def maxDurationError (maxDuration : ℕ) : StreamEvent :=
  .errorWithDetail
    (.tool ("upstream stream exceeded max duration (" ++ toString (maxDuration / 1000000) ++ "ms)"))
    "upstream_stream_max_duration"

def idleTimeoutError (idleTimeout : ℕ) : StreamEvent :=
  .errorWithDetail
    (.tool ("upstream stream idle timeout (" ++ toString (idleTimeout / 1000000) ++
      "ms without a frame)"))
    "upstream_stream_idle_timeout"

def frameOverflowError : StreamEvent :=
  .errorWithDetail
    (.tool ("upstream SSE frame exceeded " ++ toString maxFrameBytes ++
      " bytes without a boundary"))
    "upstream_stream_frame_overflow"

def transportError (fault : String) : StreamEvent :=
  .errorWithDetail (.tool ("upstream stream error: " ++ fault)) "upstream_stream_transport"

/-- How a wait for the next chunk ends. -/
inductive Outcome where
  | elapsed (later : ℕ)
  | chunk (bytes : Bytes)
  | fault (message : String)
  | closed

/-- One round of the loop that has to wait: the clock before the wait, and how
the wait ends. -/
structure Round where
  now : ℕ
  outcome : Outcome

structure Decoder where
  buf : Bytes
  pending : List StreamEvent
  done : Bool

namespace Decoder

def init : Decoder := ⟨[], [], false⟩

variable (json : JsonText) (limits : Limits) (deadline : ℕ)

/-- Close the stream with one more event. -/
def fail (st : Decoder) (event : StreamEvent) : Decoder :=
  { st with pending := st.pending ++ [event], done := true }

/-- Go through one round of the loop that has to wait. -/
def receive (st : Decoder) (round : Round) : Decoder :=
  if deadline ≤ round.now then st.fail (maxDurationError limits.maxDuration)
  else
    match round.outcome with
    | .elapsed later =>
      if deadline ≤ later then st.fail (maxDurationError limits.maxDuration)
      else st.fail (idleTimeoutError limits.idleTimeout)
    | .chunk bytes =>
      let (buf, events) := drainFrames json (st.buf ++ bytes)
      let st := { st with buf := buf, pending := st.pending ++ events }
      if maxFrameBytes < buf.length then { st with buf := [] }.fail frameOverflowError else st
    | .fault message => st.fail (transportError message)
    | .closed =>
      { buf := []
        pending := st.pending ++ (parseFrame json st.buf).toList
        done := true }

/-- The events the stream yields: those pending, then, unless it is done, those
of the rounds to come. A stream with no round left is still waiting. -/
def collect (st : Decoder) (rounds : List Round) : List StreamEvent :=
  match _queue : st.pending with
  | event :: later => event :: collect { st with pending := later } rounds
  | [] =>
    if st.done then []
    else
      match rounds with
      | [] => []
      | round :: rounds => collect (st.receive json limits deadline round) rounds
termination_by (rounds.length, st.pending.length)
decreasing_by
  · apply Prod.Lex.right
    simp [_queue]
  · apply Prod.Lex.left
    simp

theorem collect_pending (st : Decoder) (rounds : List Round) :
    st.collect json limits deadline rounds =
      st.pending ++ { st with pending := [] }.collect json limits deadline rounds := by
  obtain ⟨buf, pending, done⟩ := st
  induction pending with
  | nil => rfl
  | cons event later ih =>
    rw [collect.eq_def]
    show event :: collect json limits deadline ⟨buf, later, done⟩ rounds = _
    rw [ih]
    rfl

theorem collect_round {st : Decoder} (idle : st.pending = []) (going : st.done = false)
    (round : Round) (rounds : List Round) :
    st.collect json limits deadline (round :: rounds) =
      (st.receive json limits deadline round).collect json limits deadline rounds := by
  obtain ⟨buf, pending, done⟩ := st
  cases idle
  cases going
  rw [collect.eq_def]
  rfl

/-- From any buffer without a finished frame, the chunks yield the frames of the
buffer and all the chunks taken together. -/
theorem collect_chunks {buf : Bytes} (unfinished : sseFraming.cut buf = none)
    {chunks : List Bytes} {rounds : List Round}
    (fits : sseFraming.Fits maxFrameBytes (buf ++ chunks.flatten))
    (inTime : ∀ round ∈ rounds, round.now < deadline)
    (arrived : rounds.map Round.outcome = chunks.map Outcome.chunk ++ [.closed]) :
    collect json limits deadline ⟨buf, [], false⟩ rounds =
      frameEvents json (sseFraming.split (buf ++ chunks.flatten)).1 ++
        (parseFrame json (sseFraming.split (buf ++ chunks.flatten)).2).toList := by
  induction chunks generalizing buf rounds with
  | nil =>
    obtain ⟨round, rounds, rfl, closed, _⟩ := List.map_eq_cons_iff.mp arrived
    have early := Nat.not_le_of_lt (inTime round List.mem_cons_self)
    have received : receive json limits deadline ⟨buf, [], false⟩ round =
        ⟨[], (parseFrame json buf).toList, true⟩ := by
      simp [receive, early, closed]
    rw [collect_round json limits deadline rfl rfl, received, collect_pending, collect.eq_def,
      List.flatten_nil, List.append_nil, sseFraming.split_of_none unfinished]
    simp [frameEvents]
  | cons chunk chunks ih =>
    obtain ⟨round, rounds, rfl, came, later⟩ := List.map_eq_cons_iff.mp arrived
    rw [List.flatten_cons, ← List.append_assoc] at fits ⊢
    have held := sseFraming.length_rest_le fits
    have rest := ih (sseFraming.cut_rest (buf ++ chunk)) fits.rest_append
      (fun round mem => inTime round (List.mem_cons_of_mem _ mem)) later
    have early := Nat.not_le_of_lt (inTime round List.mem_cons_self)
    have received : receive json limits deadline ⟨buf, [], false⟩ round =
        ⟨(sseFraming.split (buf ++ chunk)).2,
          frameEvents json (sseFraming.split (buf ++ chunk)).1, false⟩ := by
      simp [receive, early, came, drainFrames_eq, Nat.not_lt_of_le held]
    rw [collect_round json limits deadline rfl rfl, received, collect_pending, rest,
      sseFraming.split_append (buf ++ chunk)]
    simp [frameEvents]

end Decoder

/-- Decode a body received over the given rounds. -/
def decodeSse (json : JsonText) (limits : Limits) (started : ℕ) (rounds : List Round) :
    List StreamEvent :=
  Decoder.init.collect json limits (started + limits.maxDuration) rounds

/-- However a body is cut into chunks, it decodes to the events of its frames
followed by that of an unfinished last frame. -/
theorem decodeSse_chunks (json : JsonText) (limits : Limits) (started : ℕ) (chunks : List Bytes)
    (rounds : List Round) (fits : sseFraming.Fits maxFrameBytes chunks.flatten)
    (inTime : ∀ round ∈ rounds, round.now < started + limits.maxDuration)
    (arrived : rounds.map Round.outcome = chunks.map Outcome.chunk ++ [.closed]) :
    decodeSse json limits started rounds =
      (sseFraming.split chunks.flatten).1.filterMap (fun frame => parseFrame json frame.1) ++
        (parseFrame json (sseFraming.split chunks.flatten).2).toList := by
  exact Decoder.collect_chunks json limits (started + limits.maxDuration) cut_empty fits inTime
    arrived

/-- The JSON texts of the sample payloads. -/
def sampleJson : JsonText where
  print
    | .object [("delta", .string "a\nb")] => "\x7b\"delta\":\"a\\nb\"\x7d"
    | .object [("error", .string "auth"), ("message", .string "auth: no")] =>
      "\x7b\"error\":\"auth\",\"message\":\"auth: no\"\x7d"
    | _ => "null"
  parse
    | "\x7b\"delta\":\"a\\nb\"\x7d" => some (.object [("delta", .string "a\nb")])
    | "\x7b\"error\":\"auth\",\"message\":\"auth: no\"\x7d" =>
      some (.object [("error", .string "auth"), ("message", .string "auth: no")])
    | "null" => some .null
    | _ => none

def sampleFrame : Bytes :=
  Utf8.encode "event: token\r\ndata: \x7b\"delta\":\"a\\nb\"\x7d"

def sampleRest : Bytes := Utf8.encode "event: task\ndata: null"

theorem parseFrame_sampleFrame : parseFrame sampleJson sampleFrame = some (.token "a\nb") := by
  rw [parseFrame, sampleFrame, Utf8.decode_encode]
  rfl

theorem parseFrame_sampleRest : parseFrame sampleJson sampleRest = some (.task .null) := by
  rw [parseFrame, sampleRest, Utf8.decode_encode]
  rfl

/-- The blank line after the first frame is cut in two, and the last frame has
none. -/
theorem straddled_boundary_decodes :
    decodeSse sampleJson ⟨50, 100⟩ 7
        [⟨7, .chunk (sampleFrame ++ [13, 10, 13])⟩, ⟨8, .chunk (10 :: sampleRest)⟩, ⟨9, .closed⟩] =
      [.token "a\nb", .task .null] := by
  have body : [sampleFrame ++ [13, 10, 13], 10 :: sampleRest].flatten =
      sampleFrame ++ blankCrLf ++ sampleRest := by
    simp [blankCrLf]
  have frame : sseFraming.cut (sampleFrame ++ blankCrLf) =
      some (sampleFrame.length, blankCrLf.length) := by
    decide +kernel
  have rest : sseFraming.cut sampleRest = none := by decide +kernel
  rw [decodeSse_chunks sampleJson ⟨50, 100⟩ 7 [sampleFrame ++ [13, 10, 13], 10 :: sampleRest] _
    (sseFraming.fits_of_length_le (by decide +kernel)) (by decide) rfl, body,
    sseFraming.split_frame_append frame, sseFraming.split_of_none rest]
  simp [parseFrame_sampleFrame, parseFrame_sampleRest]

end Triton.Upstream
