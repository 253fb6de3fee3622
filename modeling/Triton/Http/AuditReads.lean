/-
# Who reads which audit rows

The tail of the audit buffer and the trace endpoint compare the reader's tenant
and subject with what stands in a row. A row has the identity it was recorded for
cut to a bounded length, with a note of the true length behind the cut. A reader
whose own tenant reads like such a note passes for the longer one.
-/

import Triton.Http.Access
import Triton.Lib.Utf8

namespace Triton.Http

open Triton.Lib
open Triton.Core

/-- Which rows a principal may browse: all of them as an operator, otherwise
those of a tenant that is one. -/
def auditVisibilityIn (principal : Principal) (operators : List (String × String))
    (env : String) (e : AuditRecord) : Bool :=
  isNamedOperator principal operators env ||
    (!isReservedTenant principal.tenant && e.tenant == principal.tenant)

/-- The rows of `/v1/audit`, for a principal who has not been revoked. -/
def auditTail (d : Dispatcher) (audit : AuditBuffer) (operators : List (String × String))
    (principal : Principal) (limit : Nat) (traceId : Option String) :
    Logged Effect (Except TritonError (List AuditRecord)) := do
  match ← d.denyIfRevoked principal "v1/audit" "rest" with
  | .error e => return .error e
  | .ok () =>
    return .ok (audit.recentWhere (min (max limit 1) auditLimitMax)
      (traceId.filter (!·.isEmpty)) (auditVisibilityIn principal operators d.env))

theorem rows_of_auditTail {d : Dispatcher} {audit : AuditBuffer}
    {operators : List (String × String)} {principal : Principal} {limit : Nat}
    {traceId : Option String} {rows : List AuditRecord}
    (answered : (auditTail d audit operators principal limit traceId).value = .ok rows) :
    rows = audit.recentWhere (min (max limit 1) auditLimitMax) (traceId.filter (!·.isEmpty))
      (auditVisibilityIn principal operators d.env) := by
  unfold auditTail at answered
  cases revoked : (d.denyIfRevoked principal "v1/audit" "rest").value with
  | error e => simp [revoked] at answered
  | ok =>
    simp only [Logged.value_bind, revoked, Logged.value_pure, Except.ok.injEq] at answered
    exact answered.symm

/-- The buffer after these records were emitted, each cut on its way. -/
def emitAll (records : List AuditRecord) : AuditBuffer :=
  records.foldl (fun buffer record => buffer.pushEntry record.toEntry) []

theorem mem_of_mem_pushEntry {buffer : AuditBuffer} {entry row : AuditRecord}
    (member : row ∈ buffer.pushEntry entry) : row ∈ buffer ∨ row = entry := by
  rcases List.mem_append.mp member with old | new
  · left
    split at old
    case isTrue => exact List.mem_of_mem_tail old
    case isFalse => exact old
  · exact .inr (List.mem_singleton.mp new)

/-- Every row in the buffer is the cut copy of a record that was emitted. -/
theorem recorded_of_mem_emitAll {records : List AuditRecord} {row : AuditRecord}
    (member : row ∈ emitAll records) : ∃ record ∈ records, record.toEntry = row := by
  induction records using List.reverseRecOn with
  | nil => cases member
  | append_singleton records last ih =>
    rw [emitAll, List.foldl_append] at member
    rcases mem_of_mem_pushEntry member with old | rfl
    · obtain ⟨record, emitted, same⟩ := ih old
      exact ⟨record, List.mem_append_left _ emitted, same⟩
    · exact ⟨last, by simp, rfl⟩

theorem mem_recentWhere {buffer : AuditBuffer} {limit : Nat} {traceId : Option String}
    {visible : AuditRecord → Bool} {row : AuditRecord}
    (member : row ∈ buffer.recentWhere limit traceId visible) :
    row ∈ buffer ∧ visible row = true ∧ ∀ t, traceId = some t → row.traceId = t := by
  unfold AuditBuffer.recentWhere at member
  obtain ⟨filtered, seen⟩ := List.mem_filter.mp (List.mem_of_mem_take member)
  cases traceId with
  | none => exact ⟨List.mem_reverse.mp filtered, seen, by simp⟩
  | some t =>
    obtain ⟨inside, ofTrace⟩ := List.mem_filter.mp filtered
    refine ⟨List.mem_reverse.mp inside, seen, ?_⟩
    rintro _ ⟨⟩
    simpa using ofTrace

/-! ## What a cut leaves -/

/-- A cut value is longer than any value that is not cut. -/
theorem eq_of_clampAudited {value short : String} (fits : Text.len short ≤ maxAuditedFieldLen)
    (cut : clampAudited value = short) : value = short := by
  unfold clampAudited at cut
  split at cut
  case isTrue => exact cut
  case isFalse long =>
    have kept := @Utf8.len_takeBytes maxAuditedFieldLen value.toList (by simpa using long)
    have note : Text.len (toString "…[") = 4 := by decide
    have whole := congrArg Text.len cut
    rw [Utf8.len_append, Utf8.len_append, Utf8.len_append, note] at whole
    omega

/-! ## Reading inside the tenant -/

/-- The record is the reader's tenant's, and the reader's own when the tenant is a
marker that callers share. -/
def Own (reader : Principal) (record : AuditRecord) : Prop :=
  record.tenant = reader.tenant ∧
    (isReservedTenant reader.tenant = true → record.subject = reader.sub)

/-- The row was recorded for such an identity, whichever of the emitted records it
is the copy of. -/
def RecordedFor (own : AuditRecord → Prop) (records : List AuditRecord) (row : AuditRecord) :
    Prop :=
  (∃ record ∈ records, record.toEntry = row) ∧ ∀ record ∈ records, record.toEntry = row → own record

/-- What a reader gets after these emissions: rows and traces of their own. -/
structure StaysInside (d : Dispatcher) (operators : List (String × String)) (reader : Principal)
    (records : List AuditRecord) : Prop where
  browse : ∀ limit traceId rows,
    (auditTail d (emitAll records) operators reader limit traceId).value = .ok rows →
      ∀ row ∈ rows, RecordedFor (Own reader) records row
  trace : ∀ traceId, mayReadTrace (emitAll records) reader operators d.env traceId = true →
    ∃ row ∈ emitAll records, row.traceId = traceId ∧ RecordedFor (Own reader) records row

/-- No other identity is cut to what the reader is compared with: the tenant, and
the subject as well when the tenant is a shared marker. -/
def NotImpersonated (reader : Principal) : Prop :=
  ∀ tenant sub, clampAudited tenant = reader.tenant →
    (isReservedTenant reader.tenant = true → clampAudited sub = reader.sub) →
      tenant = reader.tenant ∧ (isReservedTenant reader.tenant = true → sub = reader.sub)

section Reader

variable {d : Dispatcher} {operators : List (String × String)} {reader : Principal}
  {records : List AuditRecord} {row : AuditRecord}

/-- A row with the reader's names on it is the reader's, if nobody is cut to those
names. -/
theorem recordedFor_own (clear : NotImpersonated reader) (member : row ∈ emitAll records)
    (tenant : row.tenant = reader.tenant)
    (subject : isReservedTenant reader.tenant = true → row.subject = reader.sub) :
    RecordedFor (Own reader) records row := by
  refine ⟨recorded_of_mem_emitAll member, ?_⟩
  rintro record _ rfl
  exact clear record.tenant record.subject tenant subject

theorem staysInside_of_notImpersonated (plain : isNamedOperator reader operators d.env = false)
    (clear : NotImpersonated reader) : StaysInside d operators reader records where
  browse := by
    intro limit traceId rows answered row member
    obtain ⟨inside, visible, _⟩ := mem_recentWhere (rows_of_auditTail answered ▸ member)
    simp only [auditVisibilityIn, plain, Bool.false_or, Bool.and_eq_true, Bool.not_eq_true',
      beq_iff_eq] at visible
    refine recordedFor_own clear inside visible.2 ?_
    intro reserved
    rw [visible.1] at reserved
    cases reserved
  trace := by
    intro traceId allowed
    simp only [mayReadTrace, Bool.not_eq_true', List.isEmpty_eq_false_iff] at allowed
    obtain ⟨row, shown⟩ := List.exists_mem_of_ne_nil _ allowed
    obtain ⟨inside, visible, ofTrace⟩ := mem_recentWhere shown
    simp only [plain, Bool.false_or, Bool.or_eq_true, Bool.and_eq_true, beq_iff_eq,
      Bool.not_eq_true'] at visible
    refine ⟨row, inside, ofTrace traceId rfl, ?_⟩
    rcases visible with ⟨subject, tenant⟩ | ⟨scopable, tenant⟩
    · exact recordedFor_own clear inside tenant fun _ => subject
    · refine recordedFor_own clear inside tenant ?_
      intro reserved
      rw [scopable] at reserved
      cases reserved

/-- The row of one emission in an empty buffer. -/
def rowFor (tenant sub : String) : AuditRecord where
  phase := .dispatch
  who := sub
  what := "tool"
  env := "prod"
  result := "ok"
  protocol := "rest"
  tool := "tool"
  subject := sub
  tenant := tenant
  latencyMs := 0
  status := 200
  statusLabel := none
  statusDetail := none
  errorDetail := none
  ttfbMs := none
  senderRef := none
  destination := none
  suppressed := none
  traceId := "trace"

theorem tenant_rowFor (tenant sub : String) :
    (rowFor tenant sub).toEntry.tenant = clampAudited tenant := rfl

/-- Whoever is cut to the reader's names lets the reader in. -/
theorem mayReadTrace_rowFor {tenant sub env : String} (named : clampAudited tenant = reader.tenant)
    (shared : isReservedTenant reader.tenant = true → clampAudited sub = reader.sub) :
    mayReadTrace (emitAll [rowFor tenant sub]) reader operators env "trace" = true := by
  have alone : emitAll [rowFor tenant sub] = [(rowFor tenant sub).toEntry] := rfl
  have tagged : (rowFor tenant sub).toEntry.traceId = "trace" := rfl
  have recorded : (rowFor tenant sub).toEntry.tenant = reader.tenant := by
    rw [tenant_rowFor, named]
  cases marker : isReservedTenant reader.tenant with
  | false =>
    simp [mayReadTrace, AuditBuffer.recentWhere, alone, tagged, recorded, marker, auditLimitMax]
  | true =>
    have subject : (rowFor tenant sub).toEntry.subject = reader.sub := shared marker
    simp [mayReadTrace, AuditBuffer.recentWhere, alone, tagged, recorded, subject, auditLimitMax]

theorem notImpersonated_of_staysInside
    (inside : ∀ records, StaysInside d operators reader records) : NotImpersonated reader := by
  intro tenant sub named shared
  obtain ⟨row, member, _, _, own⟩ :=
    (inside [rowFor tenant sub]).trace "trace" (mayReadTrace_rowFor named shared)
  have same : (rowFor tenant sub).toEntry = row := (List.mem_singleton.mp member).symm
  exact own (rowFor tenant sub) (List.mem_singleton.mpr rfl) same

/-- A reader whose names fit into a row reads only rows and traces of their own. -/
theorem short_names_stay_inside (plain : isNamedOperator reader operators d.env = false)
    (tenant : Text.len reader.tenant ≤ maxAuditedFieldLen)
    (sub : Text.len reader.sub ≤ maxAuditedFieldLen) (records : List AuditRecord) :
    StaysInside d operators reader records := by
  apply staysInside_of_notImpersonated plain
  intro other person named shared
  exact ⟨eq_of_clampAudited tenant named, fun reserved => eq_of_clampAudited sub (shared reserved)⟩

end Reader

/-- A reader who is no operator reads only rows and traces of their own, whatever is
emitted, exactly when nobody else is cut to the reader's names. -/
theorem audit_reads_stay_inside_iff (d : Dispatcher) (operators : List (String × String))
    (reader : Principal) (plain : isNamedOperator reader operators d.env = false) :
    (∀ records, StaysInside d operators reader records) ↔ NotImpersonated reader :=
  ⟨notImpersonated_of_staysInside, fun clear _ => staysInside_of_notImpersonated plain clear⟩

def longTenant : String := String.ofList (List.replicate 129 'a')

/-- A caller whose tenant is the note that stands in the rows of a longer one. -/
def impostor : Principal := { unbarred with tenant := clampAudited longTenant }

def quietGateway : Dispatcher := ⟨∅, "prod", none, [], ∅, ∅, plainSet⟩

theorem unbarred_stays_inside :
    isNamedOperator unbarred [] quietGateway.env = false ∧
      ∀ records, StaysInside quietGateway [] unbarred records :=
  ⟨by decide, short_names_stay_inside (by decide) (by decide) (by decide)⟩

theorem bracket_mem_impostor : ']' ∈ impostor.tenant.toList := by
  have named : impostor.tenant = clampAudited longTenant := by rw [impostor]
  have long : Text.len longTenant = 129 := Utf8.len_replicate (by decide) 129
  have noted : ']' ∈ (toString " bytes]").toList := by decide
  rw [named, clampAudited, if_neg (by rw [long]; decide)]
  simp [noted]

theorem impostor_ne_longTenant : impostor.tenant ≠ longTenant := by
  intro same
  have noted := bracket_mem_impostor
  rw [same] at noted
  exact absurd (Text.eq_of_mem_repeated noted) (by decide)

theorem impostor_not_reserved : isReservedTenant impostor.tenant = false := by
  have plain : ∀ tenant ∈ reservedTenants, ']' ∉ tenant.toList := by decide
  have kept := Text.mem_trim bracket_mem_impostor (by decide)
  rw [isReservedTenant, List.contains_eq_mem, decide_eq_false_iff_not]
  intro reserved
  exact plain _ reserved kept

/-- The caller browses and traces the other tenant's row. -/
theorem impostor_reads_long_tenant :
    isNamedOperator impostor [] quietGateway.env = false ∧ impostor.tenant ≠ longTenant ∧
      (auditTail quietGateway (emitAll [rowFor longTenant "alice"]) [] impostor 50 none).value =
        .ok [(rowFor longTenant "alice").toEntry] ∧
      mayReadTrace (emitAll [rowFor longTenant "alice"]) impostor [] quietGateway.env "trace" =
        true ∧
      ¬ StaysInside quietGateway [] impostor [rowFor longTenant "alice"] := by
  have named : clampAudited longTenant = impostor.tenant := by rw [impostor]
  have operator : isNamedOperator impostor [] quietGateway.env = false := by decide +kernel
  have traced : mayReadTrace (emitAll [rowFor longTenant "alice"]) impostor []
      quietGateway.env "trace" = true := by
    apply mayReadTrace_rowFor named
    rw [impostor_not_reserved]
    intro reserved
    cases reserved
  refine ⟨operator, impostor_ne_longTenant, ?_, traced, ?_⟩
  · have alone : emitAll [rowFor longTenant "alice"] = [(rowFor longTenant "alice").toEntry] := rfl
    have recorded : (rowFor longTenant "alice").toEntry.tenant = impostor.tenant := by
      rw [tenant_rowFor, named]
    have unrevoked : quietGateway.isDenied impostor = false := by
      simp [Dispatcher.isDenied, quietGateway]
    simp [auditTail, Dispatcher.denyIfRevoked, unrevoked, alone, AuditBuffer.recentWhere,
      auditVisibilityIn, impostor_not_reserved, recorded, auditLimitMax]
  · intro inside
    obtain ⟨row, member, _, _, own⟩ := inside.trace "trace" traced
    have same : (rowFor longTenant "alice").toEntry = row := (List.mem_singleton.mp member).symm
    exact impostor_ne_longTenant
      (own (rowFor longTenant "alice") (List.mem_singleton.mpr rfl) same).1.symm

theorem impostor_reads_others :
    isNamedOperator impostor [] quietGateway.env = false ∧
      ¬ ∀ records, StaysInside quietGateway [] impostor records := by
  have operator : isNamedOperator impostor [] quietGateway.env = false := by decide +kernel
  refine ⟨operator, ?_⟩
  rw [audit_reads_stay_inside_iff quietGateway [] impostor operator]
  intro clear
  have named : clampAudited longTenant = impostor.tenant := by rw [impostor]
  have shared : isReservedTenant impostor.tenant = true → clampAudited "alice" = impostor.sub := by
    rw [impostor_not_reserved]
    intro reserved
    cases reserved
  exact impostor_ne_longTenant (clear longTenant "alice" named shared).1.symm

end Triton.Http
