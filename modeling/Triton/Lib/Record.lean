/-
# JSON records

Writing a record as a JSON object whose members may be left out, and reading it
back member by member. A reader takes the member it is given, if there is one:
a required member must be there, a member with a default may be missing, and an
optional one may also be `null`. The rules say when a reader gives back what was
written; a record's round trip is assembled from those of its members.
-/

import Mathlib.Data.List.Sort
import Triton.Lib.Json

namespace Triton.Lib

theorem mem_of_lookup {α β : Type} [BEq α] [LawfulBEq α] {key : α} {value : β}
    {entries : List (α × β)} (found : entries.lookup key = some value) :
    (key, value) ∈ entries := by
  obtain ⟨before, after, split, _⟩ := List.lookup_eq_some_iff.mp found
  simp [split]

theorem lookup_of_mem {α β : Type} [BEq α] [LawfulBEq α] {key : α} {value : β}
    {entries : List (α × β)} (distinct : (entries.map (·.1)).Nodup)
    (member : (key, value) ∈ entries) : entries.lookup key = some value := by
  induction entries with
  | nil => cases member
  | cons first rest ih =>
    obtain ⟨fresh, apart⟩ := List.nodup_cons.mp distinct
    rcases List.mem_cons.mp member with rfl | later
    · simp
    · have other : key ≠ first.1 := by
        rintro rfl
        exact fresh (List.mem_map.mpr ⟨_, later, rfl⟩)
      rw [List.lookup_cons, beq_false_of_ne other]
      exact ih apart later

namespace Members

theorem get_cons (key other : String) (value : Value) (rest : Members) :
    Members.get ((key, value) :: rest) other =
      if other = key then some value else Members.get rest other := by
  by_cases same : other = key
  · simp [Members.get, same]
  · have differs : (other == key) = false := beq_false_of_ne same
    simp [Members.get, List.lookup_cons, same, differs]

theorem get_nil (key : String) : Members.get [] key = none := rfl

theorem get_insert (key other : String) (value : Value) (members : Members) :
    Members.get (insert key value members) other =
      if other = key then some value else Members.get members other := by
  induction members with
  | nil => exact get_cons key other value []
  | cons member rest ih =>
    obtain ⟨first, old⟩ := member
    by_cases here : key = first
    · subst here
      by_cases same : other = key <;> simp [insert, get_cons, same]
    · by_cases early : key < first
      · simp [insert, get_cons, here, early]
      · simp only [insert, if_neg here, if_neg early, get_cons, ih]
        by_cases same : other = key
        · simp [same, here]
        · simp [same]

theorem get_remove (key other : String) (members : Members) :
    Members.get (remove key members) other =
      if other = key then none else Members.get members other := by
  induction members with
  | nil => simp [remove, Members.get]
  | cons member rest ih =>
    obtain ⟨first, old⟩ := member
    rw [remove] at ih
    by_cases gone : first = key
    · simp only [remove, gone, List.filter_cons, bne_self_eq_false, Bool.false_eq_true,
        if_false, ih, get_cons]
      by_cases same : other = key <;> simp [same]
    · simp only [remove, List.filter_cons, bne_iff_ne, ne_eq, gone, not_false_eq_true, if_true,
        get_cons, ih]
      by_cases same : other = key
      · simp [same, Ne.symm gone]
      · simp [same]

/-- Keys ascend strictly, as the default map of the JSON library keeps them. -/
def Ordered (members : Members) : Prop := members.Pairwise fun first later => first.1 < later.1

theorem Ordered.remove {members : Members} (ordered : Ordered members) (key : String) :
    Ordered (remove key members) :=
  List.Pairwise.sublist List.filter_sublist ordered

theorem Ordered.mem_iff {members : Members} (ordered : Ordered members) {key : String}
    {value : Value} : (key, value) ∈ members ↔ get members key = some value := by
  have distinct : (members.map (·.1)).Nodup := by
    refine List.pairwise_map.mpr (List.Pairwise.imp ?_ ordered)
    intro first later less same
    exact String.lt_irrefl _ (same ▸ less)
  exact ⟨lookup_of_mem distinct, mem_of_lookup⟩

/-- Ordered members are determined by what is read under each key. -/
theorem Ordered.ext {one other : Members} (first : Ordered one) (second : Ordered other)
    (same : ∀ key, get one key = get other key) : one = other := by
  have irrefl : Std.Irrefl fun first later : String × Value => first.1 < later.1 :=
    ⟨fun member => String.lt_irrefl member.1⟩
  have asymm : Std.Antisymm fun first later : String × Value => first.1 < later.1 :=
    ⟨fun member later before after => absurd (String.lt_trans before after) (String.lt_irrefl _)⟩
  apply List.Pairwise.eq_of_mem_iff first second
  rintro ⟨key, value⟩
  rw [first.mem_iff, second.mem_iff, same]

end Members

namespace Record

variable {α : Type}

/-! ### Writing -/

/-- The members that are present, in key order. -/
def members : List (String × Option Value) → Members
  | [] => []
  | (_, none) :: rest => members rest
  | (key, some value) :: rest => Members.insert key value (members rest)

/-- An object with the members that are present. -/
def object (fields : List (String × Option Value)) : Value := .object (members fields)

/-- The member a list of fields gives a key. -/
@[simp]
def find : List (String × Option Value) → String → Option Value
  | [], _ => none
  | (first, value) :: rest, key => if key = first then value.or (find rest key) else find rest key

variable (fields : List (String × Option Value))

theorem get_members (key : String) : Members.get (members fields) key = find fields key := by
  induction fields with
  | nil => rfl
  | cons field rest ih =>
    obtain ⟨first, value⟩ := field
    cases value with
    | none => simp [members, find, ih]
    | some value => simp [members, find, Members.get_insert, ih]

@[simp]
theorem get_object (key : String) :
    (object fields).get key = find fields key := get_members fields key

@[simp]
theorem object_ne_null : object fields ≠ .null :=
  Value.noConfusion

/-- A member that holds a text. -/
def str (s : String) : Option Value := some (.string s)

/-- A member that is left out when it holds its default. -/
def omitIf (skip : Bool) (value : Value) : Option Value := if skip then none else some value

/-! ### Reading -/

def mandatory (read : Value → Option α) (found : Option Value) : Option α := found.bind read

def orDefault (default : α) (read : Value → Option α) : Option Value → Option α
  | none => some default
  | some value => read value

/-- `null` stands for an absent value. -/
def nullable (read : Value → Option α) : Value → Option (Option α)
  | .null => some none
  | value => (read value).map some

def optional (read : Value → Option α) (found : Option Value) : Option (Option α) :=
  orDefault none (nullable read) found

def list (read : Value → Option α) : Value → Option (List α)
  | .array items => items.mapM read
  | _ => none

/-- A map from keys to texts. -/
def texts : Value → Option (List (String × String))
  | .object members => members.mapM fun member => member.2.asStr.map (member.1, ·)
  | _ => none

/-- One of the named values. -/
def variant (names : List (String × α)) (value : Value) : Option α :=
  value.asStr.bind fun name => names.lookup name

/-! ### Reading what was written -/

attribute [simp] Value.asStr Value.asBool

@[simp]
theorem mandatory_some (read : Value → Option α) (value : Value) :
    mandatory read (some value) = read value := rfl

@[simp]
theorem orDefault_some (default : α) (read : Value → Option α) (value : Value) :
    orDefault default read (some value) = read value := rfl

@[simp]
theorem orDefault_none (default : α) (read : Value → Option α) :
    orDefault default read none = some default := rfl

variable {read : Value → Option α}

/-- A search through the members for one key is a lookup. -/
theorem scan_eq {scan : Members → Option α} {key : String} {missing : Option α}
    (empty : scan [] = missing) (step : ∀ first value rest,
      scan ((first, value) :: rest) = if first = key then read value else scan rest)
    (members : Members) : scan members = (Members.get members key).elim missing read := by
  induction members with
  | nil => exact empty
  | cons member rest ih =>
    obtain ⟨first, value⟩ := member
    rw [step, Members.get_cons, ih]
    by_cases here : first = key
    · simp [here]
    · simp [here, Ne.symm here]

theorem orDefault_omitIf {default a : α} {skip : Bool} {value : Value}
    (inverts : read value = some a) (isDefault : skip = true → a = default) :
    orDefault default read (omitIf skip value) = some a := by
  cases skip with
  | false => exact inverts
  | true => rw [isDefault rfl]; rfl

theorem nullable_some {value : Value} {a : α} (present : value ≠ .null)
    (inverts : read value = some a) : nullable read value = some (some a) := by
  cases value <;> simp_all [nullable]

theorem optional_map {write : α → Value} {a : Option α}
    (inverts : ∀ x ∈ a, write x ≠ .null ∧ read (write x) = some x) :
    optional read (a.map write) = some a := by
  cases a with
  | none => rfl
  | some x =>
    obtain ⟨present, back⟩ := inverts x rfl
    exact nullable_some present back

theorem mapM_map_of {β γ : Type} {read : β → Option γ} {write : α → β} {result : α → γ}
    {xs : List α} (reads : ∀ x ∈ xs, read (write x) = some (result x)) :
    (xs.map write).mapM read = some (xs.map result) := by
  induction xs with
  | nil => rfl
  | cons x xs ih =>
    obtain ⟨first, rest⟩ := List.forall_mem_cons.mp reads
    simp [first, ih rest]

theorem mapM_map {β : Type} {read : β → Option α} {write : α → β} {xs : List α}
    (inverts : ∀ x ∈ xs, read (write x) = some x) : (xs.map write).mapM read = some xs := by
  rw [mapM_map_of inverts, List.map_id']

theorem list_map {write : α → Value} {xs : List α} (inverts : ∀ x ∈ xs, read (write x) = some x) :
    list read (.array (xs.map write)) = some xs := mapM_map inverts

@[simp]
theorem texts_map (pairs : List (String × String)) :
    texts (.object (pairs.map fun pair => (pair.1, .string pair.2))) = some pairs := by
  apply mapM_map
  intro pair _
  simp

@[simp]
theorem optional_string (text : Option String) :
    optional Value.asStr (text.map .string) = some text :=
  optional_map fun _ _ => ⟨Value.noConfusion, rfl⟩

@[simp]
theorem orDefault_string (text : String) :
    orDefault "" Value.asStr (omitIf text.isEmpty (.string text)) = some text :=
  orDefault_omitIf rfl fun empty => by simpa using empty

@[simp]
theorem orDefault_bool (flag : Bool) :
    orDefault false Value.asBool (omitIf (!flag) (.bool flag)) = some flag :=
  orDefault_omitIf rfl fun off => by simpa using off

/-- A list that is left out when empty. -/
theorem orDefault_list {write : α → Value} {xs : List α}
    (inverts : ∀ x ∈ xs, read (write x) = some x) :
    orDefault [] (list read) (omitIf xs.isEmpty (.array (xs.map write))) = some xs :=
  orDefault_omitIf (list_map inverts) fun empty => by simpa using empty

/-! ### What a reader can produce -/

/-- Whatever the reader produces satisfies `holds`. -/
def Ensures (holds : α → Prop) (result : Option α) : Prop := ∀ a, result = some a → holds a

namespace Ensures

variable {β : Type} {holds : α → Prop} {step : β → Prop} {read : Value → Option α}

theorem none : Ensures holds none := by
  intro a produced
  cases produced

theorem pure {a : α} (here : holds a) : Ensures holds (Pure.pure a) := by
  intro b produced
  cases produced
  exact here

theorem bind {first : Option β} {next : β → Option α} (ensured : Ensures step first)
    (later : ∀ b, step b → Ensures holds (next b)) : Ensures holds (first >>= next) := by
  intro a produced
  obtain ⟨b, found, rest⟩ := Option.bind_eq_some_iff.mp produced
  exact later b (ensured b found) a rest

/-- A step of which nothing is needed. -/
theorem skip {first : Option β} {next : β → Option α} (later : ∀ b, Ensures holds (next b)) :
    Ensures holds (first >>= next) :=
  by
  intro a produced
  obtain ⟨b, _, rest⟩ := Option.bind_eq_some_iff.mp produced
  exact later b a rest

theorem mandatory (reads : ∀ value, Ensures holds (read value)) (found : Option Value) :
    Ensures holds (mandatory read found) := by
  cases found with
  | none => exact none
  | some value => exact reads value

theorem orDefault {default : α} (plain : holds default)
    (reads : ∀ value, Ensures holds (read value)) (found : Option Value) :
    Ensures holds (orDefault default read found) := by
  cases found with
  | none => exact pure plain
  | some value => exact reads value

theorem mapM {items : List Value} (reads : ∀ value, Ensures holds (read value)) :
    Ensures (fun xs => ∀ x ∈ xs, holds x) (items.mapM read) := by
  induction items with
  | nil => exact pure fun x member => absurd member List.not_mem_nil
  | cons value rest ih =>
    rw [List.mapM_cons]
    exact bind (reads value) fun x here => bind ih fun xs there =>
      pure (List.forall_mem_cons.mpr ⟨here, there⟩)

theorem list (reads : ∀ value, Ensures holds (read value)) (value : Value) :
    Ensures (fun xs => ∀ x ∈ xs, holds x) (list read value) := by
  cases value with
  | array items => exact mapM reads
  | _ => exact none

/-- A present value is read from something other than `null`. -/
theorem optional (reads : ∀ value, value ≠ .null → Ensures holds (read value))
    (found : Option Value) : Ensures (fun a => ∀ x ∈ a, holds x) (optional read found) := by
  apply orDefault
  · intro x member
    cases member
  · intro value a produced x member
    cases member
    cases value with
    | null => cases produced
    | _ =>
      obtain ⟨b, found, same⟩ := Option.map_eq_some_iff.mp produced
      cases same
      exact reads _ Value.noConfusion _ found

end Ensures

end Record

end Triton.Lib
