/-
# Which agent handles a turn

One chat identity fronts many agents. The router is given the agents its caller
may use, the message, the binding of the conversation and the caller's tenant;
it answers with an agent, with a chooser, or with a command the adapter handles
itself. Names are matched in three passes, and the match is made a second time
for the binding. Whatever comes out stays among the agents the caller may use.
-/

import Triton.Lib.Table
import Triton.Lib.Text

namespace Triton.Routing

open Triton.Lib

structure AgentDescriptor where
  id : String
  display : String
  description : String
  default : Bool
  deriving DecidableEq, Repr

/-- The agents of a caller in display order, and the agent pinned for each
tenant. -/
structure InMemoryCatalog where
  agents : List AgentDescriptor
  tenantDefaults : Table String String

namespace InMemoryCatalog

def list (catalog : InMemoryCatalog) : List AgentDescriptor := catalog.agents

def get (catalog : InMemoryCatalog) (id : String) : Option AgentDescriptor :=
  catalog.list.find? fun agent => agent.id == id

/-- A pinned agent the caller may not use is no default. -/
def defaultFor (catalog : InMemoryCatalog) (tenant : String) : Option AgentDescriptor :=
  (catalog.tenantDefaults.lookup tenant).bind fun id =>
    catalog.agents.find? fun agent => agent.id == id

end InMemoryCatalog

inductive SelectionSource where
  | switch
  | sticky
  | tenantDefault
  | globalDefault
  | chooserPick
  deriving DecidableEq, Repr

inductive ChooserReason where
  | firstContact
  | unknownAgent
  | ambiguous
  | bindingGone
  deriving DecidableEq, Repr

inductive ReservedCmd where
  | listAgents
  | whoAmI
  deriving DecidableEq, Repr

/-- The outcome of routing one message. -/
inductive Resolution where
  | selection (agentId text : String) (source : SelectionSource) (bind : Option String)
  | chooser (candidates : List AgentDescriptor) (reason : ChooserReason) (pendingText : String)
  | reserved (cmd : ReservedCmd)
  deriving DecidableEq, Repr

/-! ## Reading the message -/

def parseReserved (text : String) : Option ReservedCmd :=
  (Text.stripHead text "/").bind fun word =>
    let head := Text.toAsciiLowercase ((Text.splitWhitespace word).headD word)
    if head = "agents" ∨ head = "agent" then some .listAgents
    else if head = "whoami" then some .whoAmI
    else none

/-- A switch asked for in the message; a sticky one rewrites the binding. -/
structure Switch where
  name : String
  rest : String
  sticky : Bool
  deriving DecidableEq, Repr

def splitFirstWord (s : String) : String × String :=
  let text := (Text.trimStart s).toList
  (String.ofList (text.takeWhile (!Text.isWhitespace ·)),
    Text.trimStart (String.ofList (text.dropWhile (!Text.isWhitespace ·))))

/-- The first word of `s` as a name to switch to, unless there is none. -/
def switchTo (s : String) (sticky : Bool) : Option Switch :=
  let (name, rest) := splitFirstWord s
  if name.isEmpty then none else some ⟨name, rest, sticky⟩

/-- The switch a message asks for. The command word is cut off by its length,
counted from the start of a text that may begin with white space; a cut inside a
character aborts the turn, which is the outer `none`. -/
def parseSwitch (text : String) : Option (Option Switch) :=
  match Text.stripHead text "/" with
  | some rest =>
    let head := (Text.splitWhitespace rest).headD rest
    if Text.eqIgnoreAsciiCase head "use" then
      (Text.dropBytes (Text.len head) rest.toList).map fun after =>
        switchTo (Text.trimStart (String.ofList after)) true
    else some none
  | none =>
    match Text.stripHead text "@" with
    | some after => some (switchTo after false)
    | none => some none

/-! ## Matching a name -/

inductive MatchResult where
  | one (agent : AgentDescriptor)
  | none
  | many (agents : List AgentDescriptor)
  deriving DecidableEq, Repr

/-- One pass over the catalog: the agents whose id or display name passes the
test. `none` sends the name on to the next pass. -/
def matchPass (catalog : InMemoryCatalog) (test : String → Bool) : Option MatchResult :=
  match catalog.list.filter fun agent => test agent.id || test agent.display with
  | [] => none
  | [agent] => some (.one agent)
  | agents => some (.many agents)

/-- Exact id or display name, then a prefix of one, then a part of one, in any
case. The first pass that finds anything decides. -/
def matchOne (catalog : InMemoryCatalog) (name : String) : MatchResult :=
  let name := Text.toAsciiLowercase (Text.trim name)
  if name.isEmpty then .none
  else
    let exact := matchPass catalog (Text.eqIgnoreAsciiCase · name)
    let byHead := matchPass catalog fun text => Text.startsWith (Text.toAsciiLowercase text) name
    let byPart := matchPass catalog fun text => Text.contains (Text.toAsciiLowercase text) name
    ((exact.or byHead).or byPart).getD .none

/-- The id a sticky switch binds; a name that matches no single agent would be
bound as it was written. -/
def swBind (catalog : InMemoryCatalog) (name : String) : String :=
  match matchOne catalog name with
  | .one agent => agent.id
  | _ => name

/-! ## Routing -/

/-- An explicit switch. -/
def resolveSwitch (catalog : InMemoryCatalog) (sw : Switch) : Resolution :=
  match matchOne catalog sw.name with
  | .one agent =>
    .selection agent.id sw.rest .switch
      (if sw.sticky then some (swBind catalog sw.name) else none)
  | .none => .chooser catalog.list .unknownAgent sw.rest
  | .many candidates => .chooser candidates .ambiguous sw.rest

/-- A conversation without a binding: the tenant's default, the only agent, or a
chooser. -/
def resolveUnbound (text tenant : String) (catalog : InMemoryCatalog) : Resolution :=
  match catalog.defaultFor tenant with
  | some agent => .selection agent.id text .tenantDefault (some agent.id)
  | none =>
    match catalog.list with
    | [agent] => .selection agent.id text .globalDefault (some agent.id)
    | entitled => .chooser entitled .firstContact text

/-- A bound conversation: the bound agent, if the caller may still use it. -/
def resolveBound (text bound : String) (catalog : InMemoryCatalog) : Resolution :=
  match catalog.get bound with
  | some agent => .selection agent.id text .sticky none
  | none => .chooser catalog.list .bindingGone text

/-- Route one message: a reserved command, then an explicit switch, then the
binding, then the defaults. `none` when reading the message aborts. -/
def resolve (text : String) (currentBinding : Option String) (tenant : String)
    (catalog : InMemoryCatalog) : Option Resolution :=
  let trimmed := Text.trim text
  match parseReserved trimmed with
  | some cmd => some (.reserved cmd)
  | none =>
    (parseSwitch trimmed).map fun
      | some sw => resolveSwitch catalog sw
      | none =>
        match currentBinding with
        | some bound => resolveBound trimmed bound catalog
        | none => resolveUnbound trimmed tenant catalog

/-- A click on a chooser button. -/
def confirmPick (id msg : String) (catalog : InMemoryCatalog) : Option Resolution :=
  (catalog.get id).map fun agent => .selection agent.id msg .chooserPick (some agent.id)

/-! ## Staying among the caller's agents -/

/-- Every agent named by the match is one of these. -/
inductive MatchResult.Within (agents : List AgentDescriptor) : MatchResult → Prop
  | one {agent : AgentDescriptor} (inside : agent ∈ agents) : Within agents (.one agent)
  | none : Within agents .none
  | many {found : List AgentDescriptor} (inside : ∀ agent ∈ found, agent ∈ agents) :
      Within agents (.many found)

variable {catalog : InMemoryCatalog}

theorem matchPass_within {test : String → Bool} {result : MatchResult}
    (settled : matchPass catalog test = some result) : result.Within catalog.list := by
  have inside : ∀ agent ∈ catalog.list.filter fun agent => test agent.id || test agent.display,
      agent ∈ catalog.list := fun agent member => List.mem_of_mem_filter member
  unfold matchPass at settled
  split at settled
  · cases settled
  · rename_i agent found
    cases settled
    exact .one (inside agent (by simp [found]))
  · cases settled
    exact .many inside

theorem matchOne_within (catalog : InMemoryCatalog) (name : String) :
    (matchOne catalog name).Within catalog.list := by
  unfold matchOne
  dsimp only
  generalize Text.toAsciiLowercase (Text.trim name) = folded
  by_cases blank : folded.isEmpty = true
  · rw [if_pos blank]
    exact .none
  · -- whichever pass answered, its answer is within the list
    rw [if_neg blank]
    generalize first : matchPass catalog _ = exact
    generalize second : matchPass catalog _ = byHead
    generalize third : matchPass catalog _ = byPart
    cases exact with
    | some result => exact matchPass_within first
    | none =>
      cases byHead with
      | some result => exact matchPass_within second
      | none =>
        cases byPart with
        | some result => exact matchPass_within third
        | none => exact .none

theorem InMemoryCatalog.mem_of_get {id : String} {agent : AgentDescriptor}
    (found : catalog.get id = some agent) : agent ∈ catalog.list ∧ agent.id = id := by
  refine ⟨List.mem_of_find?_eq_some found, ?_⟩
  simpa using List.find?_some found

/-- A selection names an agent of the list, and binds that agent or nothing; a
chooser offers agents of the list. -/
inductive Resolution.Entitled (catalog : InMemoryCatalog) : Resolution → Prop
  | selection {agent : AgentDescriptor} {text : String} {source : SelectionSource}
      {bind : Option String} (inside : agent ∈ catalog.list)
      (same : bind = none ∨ bind = some agent.id) :
      Entitled catalog (.selection agent.id text source bind)
  | chooser {candidates : List AgentDescriptor} {reason : ChooserReason} {pendingText : String}
      (inside : ∀ candidate ∈ candidates, candidate ∈ catalog.list) :
      Entitled catalog (.chooser candidates reason pendingText)
  | reserved (cmd : ReservedCmd) : Entitled catalog (.reserved cmd)

/-- The second match, made for the binding, finds the agent the first one
found. -/
theorem resolveSwitch_entitled (catalog : InMemoryCatalog) (sw : Switch) :
    (resolveSwitch catalog sw).Entitled catalog := by
  have inside := matchOne_within catalog sw.name
  unfold resolveSwitch swBind
  generalize matchOne catalog sw.name = result at inside
  cases inside with
  | one inside =>
    refine .selection inside ?_
    cases sw.sticky with
    | false => exact .inl rfl
    | true => exact .inr rfl
  | none => exact .chooser fun _ member => member
  | many inside => exact .chooser inside

theorem resolveBound_entitled (text bound : String) (catalog : InMemoryCatalog) :
    (resolveBound text bound catalog).Entitled catalog := by
  unfold resolveBound
  cases found : catalog.get bound with
  | some agent => exact .selection (InMemoryCatalog.mem_of_get found).1 (.inl rfl)
  | none => exact .chooser fun _ member => member

theorem resolveUnbound_entitled (text tenant : String) (catalog : InMemoryCatalog) :
    (resolveUnbound text tenant catalog).Entitled catalog := by
  unfold resolveUnbound
  cases found : catalog.defaultFor tenant with
  | some agent =>
    obtain ⟨id, _, pinned⟩ := Option.bind_eq_some_iff.mp found
    exact .selection (List.mem_of_find?_eq_some pinned) (.inr rfl)
  | none =>
    dsimp only
    split
    · rename_i agent only
      exact .selection (by simp [only]) (.inr rfl)
    · exact .chooser fun _ member => member

theorem resolve_entitled {text tenant : String} {binding : Option String} {resolution : Resolution}
    (returned : resolve text binding tenant catalog = some resolution) :
    resolution.Entitled catalog := by
  unfold resolve at returned
  dsimp only at returned
  generalize Text.trim text = trimmed at returned
  generalize parseReserved trimmed = reserved at returned
  generalize parseSwitch trimmed = switch at returned
  cases reserved with
  | some cmd =>
    cases returned
    exact .reserved cmd
  | none =>
    obtain ⟨switched, _, rfl⟩ := Option.map_eq_some_iff.mp returned
    cases switched with
    | some sw => exact resolveSwitch_entitled catalog sw
    | none =>
      cases binding with
      | some bound => exact resolveBound_entitled _ bound catalog
      | none => exact resolveUnbound_entitled _ tenant catalog

theorem confirmPick_entitled {id msg : String} {resolution : Resolution}
    (picked : confirmPick id msg catalog = some resolution) : resolution.Entitled catalog := by
  obtain ⟨agent, found, rfl⟩ := Option.map_eq_some_iff.mp picked
  exact .selection (InMemoryCatalog.mem_of_get found).1 (.inr rfl)

theorem confirmPick_eq_none {id : String} (absent : ∀ agent ∈ catalog.list, agent.id ≠ id)
    (msg : String) : confirmPick id msg catalog = none := by
  have missing : catalog.get id = none := by
    rw [InMemoryCatalog.get, List.find?_eq_none]
    intro agent member
    simpa using absent agent member
  rw [confirmPick, missing, Option.map_none]

/-- Whatever the message, the binding and the tenant, routing stays among the
agents the caller may use, and so does a click. -/
theorem routing_stays_entitled (catalog : InMemoryCatalog) :
    (∀ text binding tenant resolution, resolve text binding tenant catalog = some resolution →
        resolution.Entitled catalog) ∧
      (∀ id msg resolution, confirmPick id msg catalog = some resolution →
        resolution.Entitled catalog) ∧
      ∀ id, (∀ agent ∈ catalog.list, agent.id ≠ id) → ∀ msg, confirmPick id msg catalog = none :=
  ⟨fun _ _ _ _ returned => resolve_entitled returned,
    fun _ _ _ picked => confirmPick_entitled picked,
    fun _ absent msg => confirmPick_eq_none absent msg⟩

/-- A cut inside a character: two two-byte blanks stand before the word. -/
example : resolve "/\u0085\u0085use x" none "acme" ⟨[], ∅⟩ = none := by decide

end Triton.Routing
