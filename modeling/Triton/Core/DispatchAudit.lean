/-
# One audit line per dispatch

The dispatcher promises one dispatch-phase record for every call, whatever the
tool or the upstream does, and for a streamed call that the record tells how the
stream ended. Both are settled here for all entry points at once: the first
fails only for a resume on a gateway without an upstream, the second only for a
buffered tool whose result turns out not to be the surface it advertised.
-/

import Triton.Core.Dispatcher

namespace Triton.Core

open Triton.Lib
open Triton.A2ui (A2uiVersion)

/-! ## What each part of a dispatch writes -/

namespace Dispatcher

variable (d : Dispatcher)

theorem dispatchRecords_emitLine {record : AuditRecord} (dispatch : record.phase = .dispatch) :
    dispatchRecords (emitLine record).log = [record] := by
  simp [emitLine, dispatchRecords, List.filterMap_cons, Effect.dispatchRecord, dispatch]

@[simp]
theorem dispatchRecords_fail (tool protocol : String) (principal : Principal)
    (error : TritonError) (latencyMs : Nat) :
    dispatchRecords (d.fail tool protocol principal error latencyMs).log =
      [d.dispatchLine tool protocol principal latencyMs s!"error:{error.errorClass}"
        error.httpStatus] := by
  simp only [fail, Logged.log_bind, Logged.log_pure, List.append_nil]
  exact dispatchRecords_emitLine rfl

@[simp]
theorem dispatchRecords_auditDispatch (tool protocol : String) (principal : Principal)
    (latencyMs : Nat) (outcome : Except TritonError Value) :
    dispatchRecords (d.auditDispatch tool protocol principal latencyMs outcome).log =
      [d.outcomeLine tool protocol principal latencyMs outcome] := by
  apply dispatchRecords_emitLine
  cases outcome <;> rfl

/-- Running a tool, here or upstream, writes no line by itself. -/
@[simp]
theorem dispatchRecords_run (tool : String) (args : Value) (principal : Principal)
    (ctx : DispatchContext) : dispatchRecords (d.run tool args principal ctx).log = [] := by
  unfold run
  cases d.registry.lookup tool with
  | some entry =>
    cases answered : entry.invokeWithContext args principal.toToolPrincipal ctx <;>
      simp [answered]
  | none => cases d.upstream <;> simp

/-- The caller passes both gates of an entry point. -/
def Admits (principal : Principal) (tool : String) : Prop :=
  d.isDenied principal = false ∧ d.canInvoke principal tool = .ok ()

theorem gated_of_admits {α : Type} {tool : String} {principal : Principal}
    (admits : d.Admits principal tool) (protocol : String)
    (body : Logged Effect (Except TritonError α)) :
    d.gated tool protocol principal body = body := by
  simp [gated, admits.1, admits.2]

/-- A refusal at a gate is an error with one line. -/
theorem gated_of_not_admits {α : Type} {tool : String} {principal : Principal}
    (refused : ¬ d.Admits principal tool) (protocol : String)
    (body : Logged Effect (Except TritonError α)) :
    (∃ e, (d.gated tool protocol principal body).value = .error e) ∧
      (dispatchRecords (d.gated tool protocol principal body).log).length = 1 := by
  unfold gated
  by_cases denied : d.isDenied principal = true
  · simp [denied, deny]
  · cases verdict : d.canInvoke principal tool with
    | error e => simp [denied]
    | ok =>
      exact absurd ⟨by simpa using denied, verdict⟩ refused

end Dispatcher

/-! ## The entry points as one family -/

/-- A call of one of the dispatcher's entry points. -/
inductive Call where
  | invokeWith (tool : String) (args : Value) (protocol : String)
      (overrides : ContextOverrides)
  | invokeWithBytes (tool : String) (body : List UInt8) (protocol : String)
  | invokeStreamingWith (tool : String) (args : Value) (protocol : String)
      (a2ui : Option A2uiVersion) (overrides : ContextOverrides)
  | invokeStreamingWithBytes (tool : String) (body : List UInt8) (protocol : String)
      (a2ui : Option A2uiVersion)
  | resumeStreamingWith (tool taskId protocol : String) (overrides : ContextOverrides)
  | readResource (uri : String)
  | updateModelContext (uri : String) (record : Value)

/-- Everything a streamed call does by the time it has failed to open or its
consumer has let go of the stream. -/
def settle (consumer : Consumer) (opened : Logged Effect (Except TritonError OpenStream)) :
    List Effect :=
  opened.log ++
    match opened.value with
    | .ok stream => (stream.consume consumer).log
    | .error _ => []

@[simp]
theorem settle_tell (consumer : Consumer) (effect : Effect)
    (rest : Logged Effect (Except TritonError OpenStream)) :
    settle consumer (Logged.tell effect >>= fun _ => rest) =
      effect :: settle consumer rest := by
  simp [settle]

/-- Everything a call does by the time it has returned, its stream, if it
returned one, included. -/
def Call.effects (d : Dispatcher) (ext : Externals) (principal : Principal) (elapsed : Nat)
    (consumer : Consumer) : Call → List Effect
  | .invokeWith tool args protocol overrides =>
    (d.invokeWith tool args principal protocol overrides elapsed).log
  | .invokeWithBytes tool body protocol =>
    (d.invokeWithBytes ext tool body principal protocol elapsed).log
  | .invokeStreamingWith tool args protocol a2ui overrides =>
    settle consumer
      (d.invokeStreamingWith ext tool args principal protocol a2ui overrides elapsed)
  | .invokeStreamingWithBytes tool body protocol a2ui =>
    settle consumer (d.invokeStreamingWithBytes ext tool body principal protocol a2ui elapsed)
  | .resumeStreamingWith tool taskId protocol overrides =>
    settle consumer (d.resumeStreamingWith tool taskId principal protocol overrides elapsed)
  | .readResource uri => (d.readResource uri principal elapsed).log
  | .updateModelContext uri record => (d.updateModelContext uri record principal elapsed).log

/-! ## Counting the lines -/

/-- An audited stream writes its one line, whatever its consumer does. -/
theorem consume_audited_records (source : EventSource) (audit : StreamAudit)
    (dispatch : audit.line.phase = .dispatch) (consumer : Consumer) :
    dispatchRecords ((OpenStream.audited source audit).consume consumer).log =
      ((Finalized.new source).firings consumer).map audit.record := by
  obtain ⟨firing, only⟩ :=
    List.length_eq_one_iff.mp (Finalized.firings_length source consumer)
  simp only [OpenStream.consume, only, List.flatMap_cons, List.flatMap_nil, List.append_nil,
    List.map_cons, List.map_nil]
  exact Dispatcher.dispatchRecords_emitLine dispatch

namespace Dispatcher

variable (d : Dispatcher) (consumer : Consumer) {tool protocol : String} {args : Value}
  {principal : Principal} {ctx : DispatchContext} {overrides : ContextOverrides} {elapsed : Nat}

/-- A stream that opens leaves its line to the finalizer, one that does not is
audited on the spot. -/
theorem settle_openAudited_length (opened : Except TritonError EventSource) :
    (dispatchRecords
      (settle consumer (d.openAudited tool protocol principal elapsed opened))).length = 1 := by
  cases opened with
  | error e => simp [settle, openAudited]
  | ok inner =>
    have line := consume_audited_records inner
      ⟨d.dispatchLine tool protocol principal 0 "" 0, elapsed⟩ rfl consumer
    simp only [settle, openAudited, auditedStream, Logged.log_pure, Logged.value_pure,
      List.nil_append, line, List.length_map]
    exact Finalized.firings_length inner consumer

theorem settle_streamBuffered_length (wrap : Value → StreamEvent) :
    (dispatchRecords (settle consumer
      (d.streamBuffered tool args principal protocol ctx elapsed wrap))).length = 1 := by
  cases outcome : (d.run tool args principal ctx).value <;>
    simp [settle, streamBuffered, outcome, Except.map, OpenStream.consume]

theorem invokeWith_records_length :
    (dispatchRecords
      (d.invokeWith tool args principal protocol overrides elapsed).log).length = 1 := by
  by_cases admits : d.Admits principal tool
  · simp [invokeWith, d.gated_of_admits admits]
  · exact (d.gated_of_not_admits admits protocol _).2

/-- A refused streamed call has nothing left to consume. -/
theorem settle_of_not_admits (refused : ¬ d.Admits principal tool) (protocol : String)
    (body : Logged Effect (Except TritonError OpenStream)) :
    (dispatchRecords (settle consumer (d.gated tool protocol principal body))).length = 1 := by
  obtain ⟨⟨e, error⟩, line⟩ := d.gated_of_not_admits refused protocol body
  simp [settle, error, line]

theorem invokeStreamingWith_records_length {ext : Externals} {a2ui : Option A2uiVersion} :
    (dispatchRecords (settle consumer (d.invokeStreamingWith ext tool args principal protocol
      a2ui overrides elapsed))).length = 1 := by
  by_cases admits : d.Admits principal tool
  · rw [invokeStreamingWith, d.gated_of_admits admits]
    cases d.registry.lookup tool with
    | some entry =>
      by_cases streams : entry.supportsStreaming = true
      · simp [streams, settle_openAudited_length]
      · simp [streams, settle_streamBuffered_length]
    | none =>
      cases d.upstream with
      | none => exact d.settle_streamBuffered_length consumer ..
      | some upstream => simp [settle_openAudited_length]
  · exact d.settle_of_not_admits consumer admits protocol _

end Dispatcher

/-- The call asks a gateway without an upstream to resume a task, and nothing
refuses the caller before that. -/
def Call.ResumesNothing (d : Dispatcher) (principal : Principal) : Call → Prop
  | .resumeStreamingWith tool _ _ _ =>
    d.upstream = none ∧ d.Admits principal tool
  | _ => False

/-- Every call leaves exactly one dispatch record, for every dispatcher, every
answer of its tools and its upstream and every consumer of a returned stream,
unless it resumes a task where there is no upstream to resume it on. -/
theorem Call.one_record_iff (d : Dispatcher) (ext : Externals) (principal : Principal)
    (elapsed : Nat) (consumer : Consumer) (call : Call) :
    (dispatchRecords (call.effects d ext principal elapsed consumer)).length = 1 ↔
      ¬ call.ResumesNothing d principal := by
  cases call with
  | invokeWith tool args protocol overrides =>
    exact iff_of_true d.invokeWith_records_length id
  | invokeWithBytes tool body protocol =>
    refine iff_of_true ?_ id
    simp only [effects, Dispatcher.invokeWithBytes]
    cases Dispatcher.parseBody ext body with
    | error e => simp
    | ok args => exact d.invokeWith_records_length
  | invokeStreamingWith tool args protocol a2ui overrides =>
    exact iff_of_true (d.invokeStreamingWith_records_length consumer) id
  | invokeStreamingWithBytes tool body protocol a2ui =>
    refine iff_of_true ?_ id
    simp only [effects, Dispatcher.invokeStreamingWithBytes]
    cases Dispatcher.parseBody ext body with
    | error e => simp [settle]
    | ok args => exact d.invokeStreamingWith_records_length consumer
  | resumeStreamingWith tool taskId protocol overrides =>
    rw [effects, ResumesNothing, Dispatcher.resumeStreamingWith]
    by_cases admits : d.Admits principal tool
    · rw [d.gated_of_admits admits]
      cases d.upstream with
      | none => simp [settle, admits]
      | some upstream => simp [Dispatcher.settle_openAudited_length]
    · simp [d.settle_of_not_admits consumer admits, admits]
  | readResource uri | updateModelContext uri record =>
    refine iff_of_true ?_ id
    change (dispatchRecords (d.resourceCall uri principal elapsed _ _).log).length = 1
    rw [Dispatcher.resourceCall]
    by_cases admits : d.Admits principal uri
    · rw [d.gated_of_admits admits]
      cases d.upstream <;> simp
    · exact (d.gated_of_not_admits admits "mcp" _).2

/-- A gateway that serves no tool and routes nowhere. -/
def bareDispatcher : Dispatcher where
  registry := ∅
  env := "prod"
  upstream := none
  denied := []
  scopeRestrictions := ∅
  surfaces := ∅
  showSet := plainSet

/-- Libraries that accept nothing. -/
def strictExternals : Externals where
  fromSlice _ := .error "expected value"
  codec := ⟨fun _ => .error "missing field `components`", fun _ _ => .null, fun _ => false⟩

def alice : Principal where
  sub := "alice"
  scopes := []
  groups := []
  tenant := "acme"
  rawToken := ""
  traceId := "trace-1"
  senderRef := none
  conversationRef := none
  idp := none

/-- Resuming a task on that gateway leaves no record at all. -/
theorem resume_without_upstream_leaves_no_record :
    (dispatchRecords ((Call.resumeStreamingWith "agent" "task-1" "a2a" {}).effects
      bareDispatcher strictExternals alice 0 ⟨[], 0⟩)).length ≠ 1 := by
  decide

/-! ## The line of a drained stream -/

/-- The log holds one dispatch record, and it says `ok` exactly when the terminal
event among the answers is `done`. -/
def TellsTruth (log : List Effect) (answers : List Poll) : Prop :=
  ∃ record, dispatchRecords log = [record] ∧
    (record.result = "ok" ↔ ∃ value, terminalEvent answers = some (.done value))

theorem StreamAudit.record_result_eq_ok_iff (audit : StreamAudit) (firing : Firing) :
    (audit.record firing).result = "ok" ↔ firing.term = .completed := by
  unfold StreamAudit.record
  cases firing.term <;> simp

/-- A stream with its line hung on its end tells the truth to whoever drains
it. -/
theorem audited_tellsTruth (source : EventSource) (audit : StreamAudit)
    (dispatch : audit.line.phase = .dispatch) (consumer : Consumer)
    (drains : drained ((OpenStream.audited source audit).consume consumer).value = true) :
    TellsTruth ((OpenStream.audited source audit).consume consumer).log
      ((OpenStream.audited source audit).consume consumer).value := by
  obtain ⟨firing, only, term⟩ := Finalized.firings_of_drained source consumer drains
  refine ⟨audit.record firing, ?_, ?_⟩
  · rw [consume_audited_records source audit dispatch, only]
    rfl
  · rw [audit.record_result_eq_ok_iff, term]
    simp only [OpenStream.consume]
    cases terminalEvent ((Finalized.new source).pollAll consumer.polls).answers with
    | none => simp
    | some event => cases event <;> simp [StreamEvent.termination]

/-- Draining a stream of one terminal event yields that event. -/
theorem terminalEvent_once (event : StreamEvent) (terminal : event.isTerminal = true)
    (polls : Nat) (drains : drained ((List.range polls).map (EventSource.once event)) = true) :
    terminalEvent ((List.range polls).map (EventSource.once event)) = some event := by
  cases polls with
  | zero => simp [drained] at drains
  | succ n =>
    simp [List.range_succ_eq_map, terminalEvent, received, EventSource.once, terminal]

namespace Dispatcher

variable (d : Dispatcher) (consumer : Consumer) {tool protocol : String} {args : Value}
  {principal : Principal} {ctx : DispatchContext} {elapsed : Nat} {wrap : Value → StreamEvent}
  {stream : OpenStream}

theorem openAudited_tellsTruth {opened : Except TritonError EventSource}
    (returned : (d.openAudited tool protocol principal elapsed opened).value = .ok stream)
    (drains : drained (stream.consume consumer).value = true) :
    TellsTruth (settle consumer (d.openAudited tool protocol principal elapsed opened))
      (stream.consume consumer).value := by
  cases opened with
  | error e => simp [openAudited] at returned
  | ok inner =>
    obtain rfl : d.auditedStream inner tool protocol principal elapsed = stream := by
      simpa [openAudited] using returned
    exact audited_tellsTruth inner _ rfl consumer drains

/-- A buffered tool is audited before its result is wrapped, so its line tells
the truth exactly when the wrap yields `done`. -/
theorem streamBuffered_tellsTruth_iff {value : Value}
    (terminal : ∀ value, (wrap value).isTerminal = true)
    (ran : (d.run tool args principal ctx).value = .ok value) (returned :
      (d.streamBuffered tool args principal protocol ctx elapsed wrap).value = .ok stream)
    (drains : drained (stream.consume consumer).value = true) :
    TellsTruth
        (settle consumer (d.streamBuffered tool args principal protocol ctx elapsed wrap))
        (stream.consume consumer).value ↔
      ∃ result, wrap value = .done result := by
  obtain rfl : OpenStream.plain (EventSource.once (wrap value)) = stream := by
    simpa [streamBuffered, ran, Except.map] using returned
  have event := terminalEvent_once (wrap value) (terminal value) consumer.polls.length drains
  have records : dispatchRecords
      (settle consumer (d.streamBuffered tool args principal protocol ctx elapsed wrap)) =
        [d.outcomeLine tool protocol principal (asMillis elapsed) (.ok value)] := by
    simp [settle, streamBuffered, ran, Except.map, OpenStream.consume]
  simp only [TellsTruth, records, List.cons.injEq, and_true, exists_eq_left', OpenStream.consume,
    event, Option.some.injEq]
  simp [outcomeLine, dispatchLine]

/-- A buffered stream opens only on a result. -/
theorem exists_value_of_streamBuffered (returned :
      (d.streamBuffered tool args principal protocol ctx elapsed wrap).value = .ok stream) :
    ∃ value, (d.run tool args principal ctx).value = .ok value := by
  cases ran : (d.run tool args principal ctx).value with
  | ok value => exact ⟨value, rfl⟩
  | error e => simp [streamBuffered, ran, Except.map] at returned

theorem run_value_eq_ok_iff {entry : Tool} (found : d.registry.lookup tool = some entry)
    (value : Value) :
    (d.run tool args principal ctx).value = .ok value ↔
      entry.invokeWithContext args principal.toToolPrincipal ctx = .ok (.ok value) := by
  simp only [run, found]
  cases entry.invokeWithContext args principal.toToolPrincipal ctx <;> simp

/-- The result of a buffered tool that declares surfaces fails to be one, after
the caller negotiated a version. -/
def WrapFailsAfterAudit (ext : Externals) (tool : String) (args : Value)
    (principal : Principal) (protocol : String) (a2ui : Option A2uiVersion)
    (overrides : ContextOverrides) : Prop :=
  ∃ entry value e, d.registry.lookup tool = some entry ∧ entry.supportsStreaming = false ∧
    entry.returnsA2ui = true ∧ a2ui.isSome ∧
    entry.invokeWithContext (prepareArgs args overrides) principal.toToolPrincipal
      (d.context protocol overrides) = .ok (.ok value) ∧
    A2ui.extractSurface ext.codec value = .error e

/-- For a registered tool the condition speaks about that tool. -/
theorem wrapFailsAfterAudit_iff (ext : Externals) {entry : Tool}
    (found : d.registry.lookup tool = some entry) (a2ui : Option A2uiVersion)
    (overrides : ContextOverrides) :
    d.WrapFailsAfterAudit ext tool args principal protocol a2ui overrides ↔
      entry.supportsStreaming = false ∧ ∃ value,
        (d.run tool (prepareArgs args overrides) principal
          (d.context protocol overrides)).value = .ok value ∧
        entry.returnsA2ui = true ∧ a2ui.isSome ∧
          ∃ e, A2ui.extractSurface ext.codec value = .error e := by
  simp only [WrapFailsAfterAudit, d.run_value_eq_ok_iff found]
  constructor
  · rintro ⟨other, value, e, same, buffered, declares, negotiated, answered, failed⟩
    cases found.symm.trans same
    exact ⟨buffered, value, answered, declares, negotiated, e, failed⟩
  · rintro ⟨buffered, value, answered, declares, negotiated, e, failed⟩
    exact ⟨entry, value, e, found, buffered, declares, negotiated, answered, failed⟩

theorem isTerminal_wrapDone (ext : Externals) (a2ui : Option A2uiVersion)
    (returnsA2ui : Bool) (value : Value) :
    (wrapDone ext a2ui returnsA2ui value).isTerminal = true := by
  unfold wrapDone doneEventA2ui
  split
  · split <;> rfl
  · rfl

theorem wrapDone_eq_done_iff (ext : Externals) (a2ui : Option A2uiVersion)
    (returnsA2ui : Bool) (value : Value) :
    (∃ result, wrapDone ext a2ui returnsA2ui value = .done result) ↔
      ¬ (returnsA2ui = true ∧ a2ui.isSome ∧
        ∃ e, A2ui.extractSurface ext.codec value = .error e) := by
  cases a2ui with
  | none => simp [wrapDone]
  | some version =>
    cases returnsA2ui with
    | false => simp [wrapDone]
    | true =>
      cases extracted : A2ui.extractSurface ext.codec value <;>
        simp [wrapDone, doneEventA2ui, extracted]

/-- For every tool kind, negotiated version and answer, the record of a drained
stream says `ok` exactly when the consumer received `done`, unless the wrap of a
buffered tool's result fails after the record was written. -/
theorem invokeStreamingWith_tellsTruth_iff (ext : Externals) (tool : String) (args : Value)
    (principal : Principal) (protocol : String) (a2ui : Option A2uiVersion)
    (overrides : ContextOverrides) (elapsed : Nat) (stream : OpenStream)
    (returned : (d.invokeStreamingWith ext tool args principal protocol a2ui overrides
      elapsed).value = .ok stream)
    (drains : drained (stream.consume consumer).value = true) :
    TellsTruth
        (settle consumer
          (d.invokeStreamingWith ext tool args principal protocol a2ui overrides elapsed))
        (stream.consume consumer).value ↔
      ¬ d.WrapFailsAfterAudit ext tool args principal protocol a2ui overrides := by
  by_cases admits : d.Admits principal tool
  · simp only [invokeStreamingWith, d.gated_of_admits admits] at returned ⊢
    cases found : d.registry.lookup tool with
    | some entry =>
      simp only [found] at returned ⊢
      by_cases streams : entry.supportsStreaming = true
      · -- the finalizer sees the wrapped event
        simp only [streams, if_true, Logged.value_bind] at returned ⊢
        refine iff_of_true ?_ ?_
        · simpa only [TellsTruth, settle_tell, dispatchRecords_runTool] using
            d.openAudited_tellsTruth consumer returned drains
        · simp [d.wrapFailsAfterAudit_iff ext found, streams]
      · rw [if_neg streams] at returned ⊢
        obtain ⟨value, ran⟩ := d.exists_value_of_streamBuffered returned
        rw [d.streamBuffered_tellsTruth_iff consumer
            (isTerminal_wrapDone ext a2ui entry.returnsA2ui) ran returned drains,
          wrapDone_eq_done_iff, not_iff_not, d.wrapFailsAfterAudit_iff ext found, ran]
        simp [streams]
    | none =>
      have unregistered :
          ¬ d.WrapFailsAfterAudit ext tool args principal protocol a2ui overrides := by
        rintro ⟨entry, _, _, some_, _⟩
        simp [found] at some_
      simp only [found] at returned ⊢
      refine iff_of_true ?_ unregistered
      cases routed : d.upstream with
      | none =>
        simp only [routed] at returned ⊢
        obtain ⟨value, ran⟩ := d.exists_value_of_streamBuffered returned
        exact (d.streamBuffered_tellsTruth_iff consumer (fun _ => rfl) ran returned
          drains).mpr ⟨value, rfl⟩
      | some upstream =>
        simp only [routed, Logged.value_bind] at returned ⊢
        simpa only [TellsTruth, settle_tell, dispatchRecords_callUpstream] using
          d.openAudited_tellsTruth consumer returned drains
  · obtain ⟨⟨e, refused⟩, _⟩ := d.gated_of_not_admits admits protocol _
    rw [invokeStreamingWith, refused] at returned
    cases returned

end Dispatcher

/-- A gateway with one upstream agent, which answers `null` at once. -/
def promptDispatcher : Dispatcher :=
  { bareDispatcher with
    upstream := some
      { invoke := fun _ _ _ _ => .ok .null
        invokeStreaming := fun _ _ _ _ => .ok (EventSource.once (.done .null))
        resumeStreaming := fun _ _ _ _ _ => .ok (EventSource.once (.done .null))
        readResource := fun _ _ _ => .ok .null
        updateModelContext := fun _ _ _ _ => .ok .null } }

/-- A consumer that drains that agent's stream finds the record true. -/
theorem prompt_stream_tellsTruth :
    TellsTruth
      (settle ⟨[1, 2], 3⟩ (promptDispatcher.invokeStreamingWith strictExternals "agent" .null
        alice "rest" none {} 0))
      ((promptDispatcher.auditedStream (EventSource.once (.done .null)) "agent" "rest" alice
        0).consume ⟨[1, 2], 3⟩).value := by
  refine (promptDispatcher.invokeStreamingWith_tellsTruth_iff ⟨[1, 2], 3⟩ strictExternals "agent"
    .null alice "rest" none {} 0 _ rfl rfl).mpr ?_
  rintro ⟨entry, _, _, registered, _⟩
  cases registered

/-- A gateway with one buffered tool that declares surfaces and returns
`null`. -/
def surfacelessDispatcher : Dispatcher :=
  { bareDispatcher with
    registry := AList.singleton "report"
      { returnsA2ui := true
        supportsStreaming := false
        invokeWithContext := fun _ _ _ => .ok (.ok .null)
        invokeStreamingWithContext := fun _ _ _ => .ok (EventSource.once (.done .null)) } }

/-- Its consumer receives an error, and the record says `ok`. -/
theorem surfaceless_stream_recorded_as_ok :
    ∃ stream,
      (surfacelessDispatcher.invokeStreamingWith strictExternals "report" .null alice "rest"
        (some .v09) {} 0).value = .ok stream ∧
      drained (stream.consume ⟨[1, 2], 3⟩).value = true ∧
      ¬ TellsTruth
        (settle ⟨[1, 2], 3⟩ (surfacelessDispatcher.invokeStreamingWith strictExternals "report"
          .null alice "rest" (some .v09) {} 0))
        (stream.consume ⟨[1, 2], 3⟩).value := by
  refine ⟨_, rfl, rfl, ?_⟩
  rintro ⟨record, only, truth⟩
  obtain rfl : surfacelessDispatcher.dispatchLine "report" "rest" alice 0 "ok" 200 = record := by
    injection only
  obtain ⟨value, event⟩ := truth.mp rfl
  injection event with same
  cases same

end Triton.Core
