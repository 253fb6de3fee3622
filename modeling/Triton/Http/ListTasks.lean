/-
# The pages of a task list

ListTasks answers a caller's tasks page by page. A page is asked for by size and
token, and the token is an offset in disguise: a fixed word and a number in
Base64. As long as the list does not change, a client that follows the tokens
sees every task once and in order, whatever sizes it asks for on the way.
-/

import Mathlib.Algebra.Group.Int.Defs
import Triton.Http.Access
import Triton.Lib.Base64
import Triton.Lib.Paging
import Triton.Tasks.Listing

namespace Triton.Http

open Triton.Lib
open Triton.Core
open Triton.Tasks

/-- What the list takes from elsewhere: how a JSON number is written, what the
database answers to the list query, and how a task is shown. -/
structure ListExternals where
  numberText : Number → String
  select : List Row → List Row
  taskV10 : TaskRecord → Bool → Bool → Value

def pageSizeDefault : Nat := 20

def pageSizeMax : Nat := 100

def usizeMax : Nat := 2 ^ 64 - 1

/-! ## Reading the request -/

def field (v : Value) (camel snake : String) : Option Value := (v.get camel).or (v.get snake)

/-- A parameter as text: a query carries strings, JSON-RPC typed values. -/
def loose (numberText : Number → String) (v : Value) (camel snake : String) : Option String :=
  ((field v camel snake).bind fun
    | .string s => some s
    | .number n => some (numberText n)
    | .bool b => some (toString b)
    | _ => none).filter (!·.isEmpty)

def encodeCursor (offset : Nat) : String :=
  Base64.encode (Utf8.encode ("ListTasks:" ++ toString offset))

def decodeCursor (token : String) : Option Nat := do
  let raw ← Base64.decode token
  let text ← Utf8.decode raw
  let digits ← Text.stripHead text "ListTasks:"
  Text.parseUnsigned usizeMax digits

def stateV10 : TaskState → String
  | .submitted => "TASK_STATE_SUBMITTED"
  | .working => "TASK_STATE_WORKING"
  | .completed => "TASK_STATE_COMPLETED"
  | .failed => "TASK_STATE_FAILED"

/-- The states a request may name; some of them no task is ever in. -/
def taskStates : List String :=
  ["TASK_STATE_SUBMITTED", "TASK_STATE_WORKING", "TASK_STATE_COMPLETED", "TASK_STATE_FAILED",
    "TASK_STATE_CANCELED", "TASK_STATE_INPUT_REQUIRED", "TASK_STATE_REJECTED",
    "TASK_STATE_AUTH_REQUIRED"]

/-- A signed 64-bit integer in decimal. -/
def parseI64 (s : String) : Option Int := Text.parseSigned (-2 ^ 63) (2 ^ 63 - 1) s

/-- What is left of an integer in 64 bits. -/
def wrapI64 (n : Int) : Int := Int.bmod n (2 ^ 64)

/-- Three numbers and nothing after them. -/
def parseTriple (c : Char) (s : String) : Option (Int × Int × Int) :=
  match Text.split c s with
  | [first, second, third] => do
      return (← parseI64 first, ← parseI64 second, ← parseI64 third)
  | _ => none

/-- The time of day of a timestamp, and its distance from UTC in milliseconds. -/
def splitOffset (rest : String) : Option (String × Int) :=
  let text := rest.toList
  match text.getLast? with
  | some 'Z' | some 'z' => some (String.ofList text.dropLast, 0)
  | _ =>
    let isSign (c : Char) : Bool := c == '+' || c == '-'
    -- the last sign starts the offset
    match text.rdropWhile (!isSign ·) with
    | [] => none
    | signed => do
        let after := String.ofList (text.rtakeWhile (!isSign ·))
        let (hours, minutes) ← Text.splitOnce ':' after
        let oh ← parseI64 hours
        let om ← parseI64 minutes
        if oh > 23 || om > 59 then none
        else
          let sign : Int := if signed.getLast? = some '-' then -1 else 1
          some (String.ofList signed.dropLast, sign * (oh * 3600 + om * 60) * 1000)

/-- The first three digits of a fraction of a second. -/
def parseMillis (frac : String) : Option Int :=
  if frac.toList.all Char.isDigit then
    parseI64 (String.ofList ((frac.toList ++ List.replicate (3 - frac.toList.length) '0').take 3))
  else none

/-- Days since the epoch of a date in the civil calendar. -/
def daysFromCivil (y m day : Int) : Int :=
  let (yy, mm) := if m ≤ 2 then (wrapI64 (y - 1), m + 9) else (y, m - 3)
  let era := yy / 400
  let yoe := yy - era * 400
  let doy := (153 * mm + 2) / 5 + day - 1
  let doe := yoe * 365 + yoe / 4 - yoe / 100 + doy
  era * 146097 + doe - 719468

/-- An RFC 3339 timestamp in milliseconds since the epoch. -/
def parseRfc3339 (raw : String) : Option Int := do
  let text := (Text.trim raw).toList
  let isT (c : Char) : Bool := c == 'T' || c == 't'
  match text.dropWhile (!isT ·) with
  | [] => none
  | _ :: rest => do
      let (y, m, day) ← parseTriple '-' (String.ofList (text.takeWhile (!isT ·)))
      if !(1 ≤ m && m ≤ 12) || !(1 ≤ day && day ≤ 31) then none
      else do
        let (time, offsetMs) ← splitOffset (String.ofList rest)
        let (hms, frac) := (Text.splitOnce '.' time).getD (time, "")
        let (hh, mm, ss) ← parseTriple ':' hms
        if hh > 23 || mm > 59 || ss > 60 then none
        else do
          let millis ← parseMillis frac
          let seconds := daysFromCivil y m day * 86400 + hh * 3600 + mm * 60 + ss
          return wrapI64 (seconds * 1000 + millis - offsetMs)

/-! ## The request's parts -/

def badParams {α : Type} (message : String) : Except A2aError α := .error (.invalidParams message)

def readPageSize (ext : ListExternals) (params : Value) : Except A2aError Nat :=
  match loose ext.numberText params "pageSize" "page_size" with
  | none => .ok pageSizeDefault
  | some text =>
    match (Text.parseUnsigned usizeMax text).filter fun n => 1 ≤ n && n ≤ pageSizeMax with
    | some n => .ok n
    | none => badParams "pageSize must be from 1 to 100"

def readOffset (ext : ListExternals) (params : Value) : Except A2aError Nat :=
  match loose ext.numberText params "pageToken" "page_token" with
  | none => .ok 0
  | some token =>
    match decodeCursor token with
    | some offset => .ok offset
    | none => badParams "pageToken is not a token of ListTasks"

/-- Everything a request asks for beside the place and the size of its page. -/
structure Filters where
  status : Option String
  includeArtifacts : Bool
  after : Option Int
  context : Option String
  deriving DecidableEq, Repr

def readStatus (ext : ListExternals) (params : Value) : Except A2aError (Option String) :=
  let status := (loose ext.numberText params "status" "status").filter fun s =>
    s != "TASK_STATE_UNSPECIFIED" && s != "0"
  if status.all taskStates.contains then .ok status else badParams "status is not a task state"

def readIncludeArtifacts (ext : ListExternals) (params : Value) : Except A2aError Bool :=
  match loose ext.numberText params "includeArtifacts" "include_artifacts" with
  | none => .ok false
  | some text =>
    if text = "false" then .ok false
    else if text = "true" then .ok true
    else badParams "includeArtifacts must be true or false"

def readAfter (ext : ListExternals) (params : Value) : Except A2aError (Option Int) :=
  match loose ext.numberText params "statusTimestampAfter" "status_timestamp_after" with
  | none => .ok none
  | some raw =>
    match parseRfc3339 raw with
    | some ms => .ok (some ms)
    | none => badParams "statusTimestampAfter must be an RFC 3339 timestamp"

def readFilters (ext : ListExternals) (params : Value) : Except A2aError Filters := do
  let status ← readStatus ext params
  let includeArtifacts ← readIncludeArtifacts ext params
  let after ← readAfter ext params
  return ⟨status, includeArtifacts, after, loose ext.numberText params "contextId" "context_id"⟩

/-- Does the list show this task? An MCP call filed as a task is no A2A turn. -/
def Filters.keeps (filters : Filters) (rec : TaskRecord) : Bool :=
  rec.protocol == "a2a" && filters.status.all (· == stateV10 rec.state) &&
    filters.after.all fun ms => decide (ms < rec.updatedMs)

/-! ## The answer -/

/-- The answer to a list request. -/
def listAnswer (nextPageToken : String) (pageSize : Nat) (tasks : List Value) (totalSize : Nat) :
    Value :=
  .object [("nextPageToken", .string nextPageToken), ("pageSize", .number (.posInt pageSize)),
    ("tasks", .array tasks), ("totalSize", .number (.posInt totalSize))]

/-- One page of a list. The sum of offset and size is a machine word. -/
def pageOf (ext : ListExternals) (filters : Filters) (a2ui : Bool) (all : List TaskRecord)
    (offset pageSize : Nat) : Value :=
  let page := ((all.drop offset).take pageSize).map fun rec =>
    ext.taskV10 rec filters.includeArtifacts a2ui
  let past := (offset + pageSize) % (usizeMax + 1)
  let next := if past < all.length then encodeCursor past else ""
  listAnswer next pageSize page all.length

def opList (ext : ListExternals) (a2a : A2aState) (principal : Principal) (now : Int)
    (params : Value) (a2ui : Bool) : Logged Effect (Except A2aError Value) :=
  match readPageSize ext params, readOffset ext params, readFilters ext params with
  | .error e, _, _ => pure (.error e)
  | .ok _, .error e, _ => pure (.error e)
  | .ok _, .ok _, .error e => pure (.error e)
  | .ok pageSize, .ok offset, .ok filters => do
      match ← a2a.dispatcher.denyIfRevoked principal "tasks/list" "a2a" with
      | .error e => return .error (.internal e.display)
      | .ok () =>
        let all := (a2a.tasks.list ext.select now (ownerKey principal) filters.context).filter
          filters.keeps
        return .ok (pageOf ext filters a2ui all offset pageSize)

/-! ## Tokens -/

/-- A token names the offset it was made for. -/
theorem decodeCursor_encodeCursor {offset : Nat} (word : offset ≤ usizeMax) :
    decodeCursor (encodeCursor offset) = some offset := by
  have stripped : Text.stripHead ("ListTasks:" ++ toString offset) "ListTasks:" =
      some (toString offset) := by
    have starts : Text.startsWith ("ListTasks:" ++ toString offset) "ListTasks:" = true := by
      simp [Text.startsWith]
    rw [Text.stripHead, if_pos starts, String.toList_append, List.drop_left, String.ofList_toList]
  simp only [decodeCursor, encodeCursor, Base64.decode_encode, Utf8.decode_encode,
    Option.bind_eq_bind, Option.bind_some, stripped]
  exact Text.parseUnsigned_toString word

/-- A token is no empty text. -/
theorem encodeCursor_ne_empty (offset : Nat) : encodeCursor offset ≠ "" := by
  intro blank
  have length := Base64.len_encode (Utf8.encode ("ListTasks:" ++ toString offset))
  rw [← encodeCursor, blank, Utf8.encode_append, List.length_append,
    Utf8.length_encode "ListTasks:"] at length
  have ten : Text.len "ListTasks:" = 10 := by decide
  have zero : Text.len "" = 0 := by decide
  omega

/-! ## A client that follows the tokens -/

/-- What a client reads off an answer. -/
def listPages : Paged String Value Value where
  items answer := ((answer.get "tasks").bind Value.asArray).getD []
  next answer := ((answer.get "nextPageToken").bind Value.asStr).filter (· != "")

theorem items_listAnswer (next : String) (size total : ℕ) (tasks : List Value) :
    listPages.items (listAnswer next size tasks total) = tasks := rfl

theorem next_listAnswer (next : String) (size total : ℕ) (tasks : List Value) :
    listPages.next (listAnswer next size tasks total) = if next = "" then none else some next := by
  have read : listPages.next (listAnswer next size tasks total) = (some next).filter (· != "") :=
    rfl
  rw [read, Option.filter_some]
  by_cases blank : next = "" <;> simp [blank]

/-- A client's requests: the same filters in each, a size of its choice, and the
token it was handed, in whatever JSON it likes to write them. -/
structure ListClient (ext : ListExternals) where
  params : ℕ → Option String → Value
  filters : Filters
  size : ℕ → ℕ
  asksSize : ∀ i token, readPageSize ext (params i token) = .ok (size i)
  asksToken : ∀ i token, token ≠ some "" →
    loose ext.numberText (params i token) "pageToken" "page_token" = token
  asksFilters : ∀ i token, readFilters ext (params i token) = .ok filters

theorem readPageSize_bounds {ext : ListExternals} {params : Value} {size : ℕ}
    (read : readPageSize ext params = .ok size) : 1 ≤ size ∧ size ≤ pageSizeMax := by
  unfold readPageSize at read
  split at read
  · cases read
    decide
  · split at read
    · rename_i n parsed
      cases read
      simpa using (Option.filter_eq_some_iff.mp parsed).2
    · cases read

namespace ListClient

variable {ext : ListExternals} (client : ListClient ext)

/-- The answers of a gateway whose state and clock may be others at each
request. -/
def answers (gateway : ℕ → A2aState) (now : ℕ → Int) (principal : Principal) (a2ui : Bool)
    (i : ℕ) (token : Option String) : Option Value :=
  match (opList ext (gateway i) principal (now i) (client.params i token) a2ui).value with
  | .ok answer => some answer
  | .error _ => none

/-- The tasks of a list that the client's filters keep. -/
def shown (listed : List TaskRecord) : List TaskRecord := listed.filter client.filters.keeps

/-- A token stands for a place in the list: none for the start. -/
def Place (length : ℕ) (token : Option String) (offset : ℕ) : Prop :=
  offset ≤ length ∧ (token = none ∧ offset = 0 ∨ token = some (encodeCursor offset))

theorem readOffset_of_place {length offset : ℕ} {token : Option String}
    (here : Place length token offset) (short : length ≤ listMax) (i : ℕ) :
    readOffset ext (client.params i token) = .ok offset := by
  obtain ⟨inside, ⟨rfl, rfl⟩ | rfl⟩ := here
  · have first := client.asksToken i none (by simp)
    rw [readOffset, first]
  · have named := client.asksToken i (some (encodeCursor offset))
      fun blank => encodeCursor_ne_empty offset (Option.some.inj blank)
    have word : offset ≤ usizeMax := le_trans (le_trans inside short) (by decide)
    simp only [readOffset, named, decodeCursor_encodeCursor word]

theorem isSlice_pageOf (filters : Filters) (a2ui : Bool) {all : List TaskRecord}
    (short : all.length ≤ listMax) {offset size : ℕ} (inside : offset ≤ all.length)
    (positive : 1 ≤ size) (small : size ≤ pageSizeMax) :
    listPages.IsSlice (Place all.length)
      (all.map fun rec => ext.taskV10 rec filters.includeArtifacts a2ui)
      (fun page => page.get "totalSize" = some (.number (.posInt all.length))) offset size
      (pageOf ext filters a2ui all offset size) := by
  have word : (offset + size) % (usizeMax + 1) = offset + size := by
    apply Nat.mod_eq_of_lt
    have bound : listMax + pageSizeMax < usizeMax + 1 := by decide
    omega
  constructor
  · exact positive
  · rw [pageOf, items_listAnswer, List.map_take, List.map_drop]
  · intro last
    rw [List.length_map] at last
    have noNext : ¬ offset + size < all.length := by omega
    simp only [pageOf, next_listAnswer, word, if_neg noNext, if_true]
  · intro more
    rw [List.length_map] at more
    refine ⟨encodeCursor (offset + size), ?_, by omega, .inr rfl⟩
    simp only [pageOf, next_listAnswer, word, if_pos more]
    rw [if_neg (encodeCursor_ne_empty _)]
  · rfl

/-- While a caller's list stays as it is, following the tokens ends, the pages
are the filtered list in order, and each tells the length of the whole. -/
theorem pages_enumerate_list (gateway : ℕ → A2aState) (now : ℕ → Int) (principal : Principal)
    (a2ui : Bool) (listed : List TaskRecord)
    (unchanged : ∀ i, (gateway i).tasks.list ext.select (now i) (ownerKey principal)
      client.filters.context = listed)
    (allowed : ∀ i, (gateway i).dispatcher.isDenied principal = false) :
    ∃ pages,
      listPages.follow (client.answers gateway now principal a2ui)
          ((client.shown listed).length + 1) 0 none = some pages ∧
        pages.flatMap listPages.items = (client.shown listed).map (fun rec =>
          ext.taskV10 rec client.filters.includeArtifacts a2ui) ∧
        ∀ page ∈ pages, page.get "totalSize" =
          some (.number (.posInt (client.shown listed).length)) := by
  have short : (client.shown listed).length ≤ listMax := by
    refine le_trans (List.length_filter_le _ _) ?_
    rw [← unchanged 0, TaskStore.list, arrange]
    exact List.length_take_le _ _
  have serves : ∀ i token offset, Place (client.shown listed).length token offset →
      ∃ page size, client.answers gateway now principal a2ui i token = some page ∧
        listPages.IsSlice (Place (client.shown listed).length)
          ((client.shown listed).map fun rec =>
            ext.taskV10 rec client.filters.includeArtifacts a2ui)
          (fun page => page.get "totalSize" =
            some (.number (.posInt (client.shown listed).length))) offset size page := by
    intro i token offset here
    obtain ⟨positive, small⟩ := readPageSize_bounds (client.asksSize i token)
    refine ⟨_, client.size i, ?_, isSlice_pageOf client.filters a2ui short here.1 positive small⟩
    simp only [answers, opList, client.asksSize i token, client.readOffset_of_place here short i,
      client.asksFilters i token, Dispatcher.denyIfRevoked, allowed i, Bool.false_eq_true, if_false,
      Logged.value_bind, Logged.value_pure, unchanged i, shown]
  have start : Place (client.shown listed).length none 0 := ⟨Nat.zero_le _, .inl ⟨rfl, rfl⟩⟩
  refine Paged.follow_complete serves start ?_
  rw [List.length_map]
  omega

end ListClient

/-- Libraries that show a task by its id. -/
def idsOnly : ListExternals where
  numberText _ := "0"
  select := id
  taskV10 rec _ _ := .object [("id", .string rec.id)]

/-- A client that asks for one task more with each page. -/
def growingClient : ListClient idsOnly where
  params i token :=
    .object (("pageSize", .string (toString (i % 100 + 1))) ::
      (token.map fun text => ("pageToken", .string text)).toList)
  filters := ⟨none, false, none, none⟩
  size i := i % 100 + 1
  asksSize i token := by
    have read : loose idsOnly.numberText (.object (("pageSize", .string (toString (i % 100 + 1))) ::
        (token.map fun text => ("pageToken", Value.string text)).toList)) "pageSize" "page_size" =
          some (toString (i % 100 + 1)) := by
      simp [loose, field, Value.get, Members.get_cons]
    have most : i % 100 + 1 ≤ 100 := by omega
    have word : i % 100 + 1 ≤ usizeMax := le_trans most (by decide)
    have within : (decide (1 ≤ i % 100 + 1) && decide (i % 100 + 1 ≤ pageSizeMax)) = true := by
      rw [decide_eq_true (by omega), decide_eq_true (show _ ≤ pageSizeMax from most)]
      rfl
    simp only [readPageSize, read, Text.parseUnsigned_toString word, Option.filter_some, within,
      if_true]
  asksToken i token given := by
    cases token with
    | none => simp [loose, field, Value.get, Members.get_cons, Members.get_nil]
    | some text =>
      have nonempty : text ≠ "" := fun blank => given (congrArg some blank)
      simp [loose, field, Value.get, Members.get_cons, nonempty]
  asksFilters i token := by
    cases token <;>
      simp [readFilters, readStatus, readIncludeArtifacts, readAfter, loose, field, Value.get,
        Members.get_cons, Members.get_nil, bind, Except.bind, pure, Except.pure]

def lister : Principal := ⟨"alice", [], [], "acme", "", "trace-1", none, none, none⟩

def listedTask (id : String) : TaskRecord := .new 0 id "c1" "ask" (some (ownerKey lister))

/-- A gateway whose database holds five tasks of one caller. -/
def fiveTasks : A2aState :=
  { soloState (listedTask "t1") with
    tasks := ["t1", "t2", "t3", "t4", "t5"].foldl
      (fun tasks id => (tasks.put 0 none (listedTask id)).1) (.sqlite depthLimited ∅ 1000 0) }

theorem list_fiveTasks : fiveTasks.tasks.list id 0 (ownerKey lister) none =
    ["t5", "t4", "t3", "t2", "t1"].map listedTask := by
  have sorted : (["t5", "t4", "t3", "t2", "t1"].map listedTask).Pairwise (precedes · ·) := by
    decide
  show ((["t5", "t4", "t3", "t2", "t1"].map listedTask).mergeSort precedes).take listMax = _
  rw [List.mergeSort_of_pairwise sorted]
  rfl

/-- That client follows the list of a caller with five tasks: one of them on the first page,
and the rest behind the tokens. -/
theorem growing_client_sees_list :
    ∃ first rest,
      listPages.follow (growingClient.answers (fun _ => fiveTasks) (fun _ => 0) lister false) 6 0
          none = some (first :: rest) ∧
        listPages.items first = [.object [("id", .string "t5")]] ∧
        rest.flatMap listPages.items =
          ["t4", "t3", "t2", "t1"].map fun id => .object [("id", .string id)] := by
  obtain ⟨pages, followed, items, _⟩ := growingClient.pages_enumerate_list (fun _ => fiveTasks)
    (fun _ => 0) lister false _ (fun _ => list_fiveTasks) (fun _ => by decide)
  have opens : growingClient.answers (fun _ => fiveTasks) (fun _ => 0) lister false 0 none =
      some (pageOf idsOnly growingClient.filters false
        (growingClient.shown (["t5", "t4", "t3", "t2", "t1"].map listedTask)) 0 1) := by
    rw [← list_fiveTasks]
    rfl
  obtain ⟨first, asked, continued⟩ := Option.bind_eq_some_iff.mp followed
  obtain rfl := Option.some.inj (opens.symm.trans asked)
  obtain ⟨rest, _, rfl⟩ := Option.map_eq_some_iff.mp continued
  exact ⟨_, rest, followed, rfl, (List.cons.inj items).2⟩

end Triton.Http
