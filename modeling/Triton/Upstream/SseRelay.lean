/-
# Events over the wire

An event written as a frame and read back by the decoder on the other side. The
payload is one line of JSON, so the only blank line of a frame is the one that
ends it, and the reader finds the name and the payload where the writer put them.
-/

import Triton.Upstream.Sse

namespace Triton.Upstream

open Triton.Core Triton.Lib

theorem stripTail_return {raw : String} (absent : '\r' ∉ raw.toList) :
    Text.stripTail raw "\r" = none := by
  apply if_neg
  intro ends
  have suffix : ['\r'] <:+ raw.toList := List.isSuffixOf_iff_suffix.mp ends
  exact absent (suffix.subset (List.mem_singleton_self _))

/-- A line in the form the writer gives it is taken in as that field. -/
theorem Fields.readLine_field (fields : Fields) (name value : String) (nonempty : name ≠ "")
    (plain : ':' ∉ name.toList) (noReturn : '\r' ∉ (name ++ ": " ++ value).toList) :
    fields.readLine (name ++ ": " ++ value) = fields.put name value := by
  obtain ⟨c, rest, letters⟩ : ∃ c rest, name.toList = c :: rest := by
    apply List.exists_cons_of_ne_nil
    intro empty
    exact nonempty (String.toList_inj.mp empty)
  have started : Text.startsWith (name ++ ": " ++ value) ":" = false := by
    apply Bool.eq_false_iff.mpr
    intro starts
    have start : [':'] <+: (name ++ ": " ++ value).toList := List.isPrefixOf_iff_prefix.mp starts
    simp only [String.toList_append, letters, List.cons_append, List.cons_prefix_cons] at start
    exact plain (letters ▸ start.1 ▸ List.mem_cons_self)
  have filled : (name ++ ": " ++ value).isEmpty = false := by
    simp
  have cut : Text.splitOnce ':' (name ++ ": " ++ value) = some (name, " " ++ value) := by
    have text : name ++ ": " ++ value =
        String.ofList (name.toList ++ ':' :: (" " ++ value).toList) := by
      apply String.toList_inj.mp
      simp
    rw [text, Text.splitOnce_ofList plain, String.ofList_toList, String.ofList_toList]
  have head : Text.stripHead (" " ++ value) " " = some value := by
    simp [Text.stripHead, Text.startsWith]
  simp [readLine, stripTail_return noReturn, started, filled, cut, head]

/-- The lines of a frame, without the blank line that ends it. -/
def frameText (json : JsonText) (event : StreamEvent) : String :=
  "event: " ++ event.eventName ++ "\ndata: " ++ json.print event.data

theorem eventName_plain (event : StreamEvent) :
    '\n' ∉ event.eventName.toList ∧ '\r' ∉ event.eventName.toList := by
  cases event <;> simp [StreamEvent.eventName]

section Relay

variable {json : JsonText} {event : StreamEvent}

theorem toSseFrame_eq (json : JsonText) (event : StreamEvent) :
    Utf8.encode (event.toSseFrame json) = Utf8.encode (frameText json event) ++ blankLf := by
  rw [StreamEvent.toSseFrame, Utf8.encode_append]
  rfl

theorem split_frameText (exact : json.Exact event.data) :
    Text.split '\n' (frameText json event) =
      ["event: " ++ event.eventName, "data: " ++ json.print event.data] := by
  have first : '\n' ∉ "event: ".toList ++ event.eventName.toList := by
    simp [(eventName_plain event).1]
  have second : '\n' ∉ "data: ".toList ++ (json.print event.data).toList := by
    simp [exact.noNewline]
  have text : (frameText json event).toList =
      ("event: ".toList ++ event.eventName.toList) ++
        '\n' :: ("data: ".toList ++ (json.print event.data).toList) := by
    simp [frameText]
  rw [Text.split, text, List.splitOn_append_cons_self, List.splitOn_eq_singleton first,
    List.splitOn_eq_singleton second]
  simp only [List.map_cons, List.map_nil, String.ofList_append, String.ofList_toList,
    List.cons_append, List.nil_append]

/-- The decoder reads a frame back as the event that was sent. -/
theorem parseFrame_frameText (exact : json.Exact event.data) :
    parseFrame json (Utf8.encode (frameText json event)) = some event.relayed := by
  have first := Fields.readLine_field ⟨none, []⟩ "event" event.eventName (by decide) (by decide)
    (by simp [(eventName_plain event).2])
  have second := Fields.readLine_field ⟨some event.eventName, []⟩ "data" (json.print event.data)
    (by decide) (by decide) (by simp [exact.noReturn])
  rw [show "event" ++ ": " = "event: " by decide, Fields.put_event] at first
  rw [show "data" ++ ": " = "data: " by decide, Fields.put_data] at second
  have fields : ["event: " ++ event.eventName, "data: " ++ json.print event.data].foldl
      Fields.readLine ⟨none, []⟩ = ⟨some event.eventName, [json.print event.data]⟩ := by
    rw [List.foldl_cons, first, List.foldl_cons, second, List.foldl_nil, List.nil_append]
  rw [parseFrame, Utf8.decode_encode, Option.bind_some, split_frameText exact, fields,
    ← StreamEvent.parse_data json exact]
  rfl

theorem newline_mem_encode (s : String) : 10 ∈ Utf8.encode s ↔ '\n' ∈ s.toList :=
  Utf8.mem_encode_iff '\n' (by decide) s

theorem return_mem_encode (s : String) : 13 ∈ Utf8.encode s ↔ '\r' ∈ s.toList :=
  Utf8.mem_encode_iff '\r' (by decide) s

/-- Two lines have no blank line between them, and none before their end. -/
theorem not_blank_before {first second : Bytes} (clean : 10 ∉ first) (clean' : 10 ∉ second)
    (nonempty : second ≠ []) {i : ℕ} (lt : i < (first ++ 10 :: second).length) (more : Bytes) :
    ¬ blankLf <+: (first ++ 10 :: second ++ more).drop i := by
  rw [List.append_assoc]
  rcases Nat.lt_trichotomy i first.length with before | rfl | after
  · exact not_starts_of_notMem clean before [10] _
  · obtain ⟨c, rest, rfl⟩ := List.exists_cons_of_ne_nil nonempty
    intro starts
    simp only [List.drop_left, blankLf, List.cons_append, List.cons_prefix_cons] at starts
    exact clean' (starts.2.1 ▸ List.mem_cons_self)
  · obtain ⟨k, rfl⟩ := Nat.exists_eq_add_of_lt after
    rw [List.length_append, List.length_cons] at lt
    have offset : (first ++ (10 :: second ++ more)).drop (first.length + k + 1) =
        (second ++ more).drop k := by
      rw [Nat.add_assoc, List.drop_length_add_append, List.cons_append, List.drop_succ_cons]
    rw [offset]
    exact not_starts_of_notMem clean' (by omega) [10] more

/-- The only blank line of a frame is the one that ends it. -/
theorem cut_frame (exact : json.Exact event.data) :
    sseFraming.cut (Utf8.encode (frameText json event) ++ blankLf) =
      some ((Utf8.encode (frameText json event)).length, blankLf.length) := by
  have bytes : Utf8.encode (frameText json event) =
      Utf8.encode ("event: " ++ event.eventName) ++
        10 :: Utf8.encode ("data: " ++ json.print event.data) := by
    simp only [frameText, Utf8.encode_append, List.append_assoc]
    rfl
  have clean : 10 ∉ Utf8.encode ("event: " ++ event.eventName) := by
    simp [newline_mem_encode, (eventName_plain event).1]
  have clean' : 10 ∉ Utf8.encode ("data: " ++ json.print event.data) := by
    simp [newline_mem_encode, exact.noNewline]
  have nonempty : Utf8.encode ("data: " ++ json.print event.data) ≠ [] := by
    rw [Utf8.encode_append]
    exact List.append_ne_nil_of_left_ne_nil (by decide) _
  have noReturn : 13 ∉ Utf8.encode (frameText json event) := by
    simp [return_mem_encode, frameText, (eventName_plain event).2, exact.noReturn]
  apply sseFraming.cut_eq_some_iff.mpr
  apply firstSeparator_of
  · apply separated_iff.mpr
    left
    exact ⟨rfl, by rw [List.drop_left]⟩
  · intro earlier lt
    rw [bytes] at lt ⊢
    exact not_blank_before clean clean' nonempty lt blankLf
  · intro earlier lt
    exact not_starts_of_notMem noReturn lt [10, 13, 10] blankLf

end Relay

/-- The frames of some events, one after the other. -/
def wireBody (json : JsonText) (events : List StreamEvent) : Bytes :=
  events.flatMap fun event => Utf8.encode (event.toSseFrame json)

theorem split_wireBody {json : JsonText} {events : List StreamEvent}
    (payloads : ∀ event ∈ events, json.Exact event.data) :
    sseFraming.split (wireBody json events) =
      (events.map fun event => (Utf8.encode (frameText json event), blankLf), []) := by
  induction events with
  | nil => exact sseFraming.split_of_none cut_empty
  | cons event events ih =>
    have later := ih fun other mem => payloads other (List.mem_cons_of_mem _ mem)
    have found := cut_frame (payloads event List.mem_cons_self)
    rw [wireBody, List.flatMap_cons, toSseFrame_eq, sseFraming.split_frame_append found]
    rw [wireBody] at later
    rw [later, List.map_cons]

/-- Each event goes over the wire in a frame of its own. -/
theorem frameEvents_wireBody {json : JsonText} {events : List StreamEvent}
    (payloads : ∀ event ∈ events, json.Exact event.data) :
    frameEvents json (sseFraming.split (wireBody json events)).1 =
      events.map StreamEvent.relayed := by
  rw [split_wireBody payloads, frameEvents, List.filterMap_map, ← List.filterMap_eq_map]
  apply List.filterMap_congr
  intro event sent
  rw [Function.comp_apply, Function.comp_apply, parseFrame_frameText (payloads event sent)]

/-- Events written as frames and decoded on the other side, over any chunks, come
back as they were; an error comes back as a fault of the tool that carries its
text. -/
theorem decodeSse_frames (json : JsonText) (limits : Limits) (started : ℕ)
    (events : List StreamEvent) (chunks : List Bytes) (rounds : List Round)
    (payloads : ∀ event ∈ events, json.Exact event.data)
    (sizes : ∀ event ∈ events, (Utf8.encode (event.toSseFrame json)).length ≤ maxFrameBytes)
    (body : chunks.flatten = wireBody json events)
    (inTime : ∀ round ∈ rounds, round.now < started + limits.maxDuration)
    (arrived : rounds.map Round.outcome = chunks.map Outcome.chunk ++ [.closed]) :
    decodeSse json limits started rounds = events.map StreamEvent.relayed ∧
      ((∀ fault detail, StreamEvent.error fault detail ∉ events) →
        decodeSse json limits started rounds = events) := by
  have split := split_wireBody payloads
  have fits : sseFraming.Fits maxFrameBytes chunks.flatten := by
    rw [body]
    constructor
    · intro piece mem
      rw [split, List.mem_map] at mem
      obtain ⟨event, sent, rfl⟩ := mem
      rw [← List.length_append, ← toSseFrame_eq]
      exact sizes event sent
    · rw [split]
      exact Nat.zero_le _
  have decoded : decodeSse json limits started rounds = events.map StreamEvent.relayed := by
    rw [decodeSse, Decoder.init,
      Decoder.collect_chunks json limits _ cut_empty fits inTime arrived, List.nil_append, body,
      frameEvents_wireBody payloads, split, parseFrame_empty]
    exact List.append_nil _
  constructor
  · exact decoded
  · intro noErrors
    rw [decoded, ← List.map_id events, List.map_map]
    apply List.map_congr_left
    intro event sent
    cases event with
    | error fault detail => exact absurd sent (noErrors fault detail)
    | tool | token | task | progress | done => rfl

/-- A token with a line break, a task and an error, the body cut inside a line. -/
def sampleEvents : List StreamEvent :=
  [.token "a\nb", .task .null, .error (.auth "no") (some "upstream_stream_idle_timeout")]

theorem sample_events_relayed :
    decodeSse sampleJson ⟨50, 100⟩ 7
        [⟨7, .chunk ((wireBody sampleJson sampleEvents).take 20)⟩,
          ⟨8, .chunk ((wireBody sampleJson sampleEvents).drop 20)⟩, ⟨9, .closed⟩] =
      [.token "a\nb", .task .null, .error (.tool "auth: no") none] := by
  have payloads : ∀ event ∈ sampleEvents, sampleJson.Exact event.data := by
    intro event sent
    simp only [sampleEvents, List.mem_cons, List.not_mem_nil, or_false] at sent
    rcases sent with rfl | rfl | rfl
    · exact ⟨rfl, by decide, by decide⟩
    · exact ⟨rfl, by decide, by decide⟩
    · have payload : (StreamEvent.error (.auth "no") (some "upstream_stream_idle_timeout")).data =
          .object [("error", .string "auth"), ("message", .string "auth: no")] := by
        simp [StreamEvent.data, TritonError.display, TritonError.errorClass, TritonError.message]
      rw [payload]
      exact ⟨rfl, by decide, by decide⟩
  have sizes : ∀ event ∈ sampleEvents,
      (Utf8.encode (event.toSseFrame sampleJson)).length ≤ maxFrameBytes := by
    intro event sent
    simp only [sampleEvents, List.mem_cons, List.not_mem_nil, or_false] at sent
    rcases sent with rfl | rfl | rfl <;> decide +kernel
  have decoded := (decodeSse_frames sampleJson ⟨50, 100⟩ 7 sampleEvents
    [(wireBody sampleJson sampleEvents).take 20, (wireBody sampleJson sampleEvents).drop 20]
    [⟨7, .chunk ((wireBody sampleJson sampleEvents).take 20)⟩,
      ⟨8, .chunk ((wireBody sampleJson sampleEvents).drop 20)⟩, ⟨9, .closed⟩]
    payloads sizes (by simp) (by decide) rfl).1
  simpa [sampleEvents, StreamEvent.relayed, TritonError.display, TritonError.errorClass,
    TritonError.message] using decoded

end Triton.Upstream
