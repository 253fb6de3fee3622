/-
# What stands inside a JSON value

The values inside a value, itself included, and what can be picked out of them.
For an object written field by field it is enough to look at the fields: whatever
is inside is inside one of them, and a field that is read back is inside.
-/

import Triton.Lib.Record

namespace Triton.Lib

namespace Value

mutual

/-- The value and everything in it. -/
def within : Value → List Value
  | .null => [.null]
  | .bool b => [.bool b]
  | .number n => [.number n]
  | .string s => [.string s]
  | .array items => .array items :: withinItems items
  | .object members => .object members :: withinMembers members

def withinItems : List Value → List Value
  | [] => []
  | value :: rest => within value ++ withinItems rest

def withinMembers : List (String × Value) → List Value
  | [] => []
  | (_, value) :: rest => within value ++ withinMembers rest

end

theorem withinItems_eq (items : List Value) : withinItems items = items.flatMap within := by
  induction items with
  | nil => rfl
  | cons value rest ih => rw [withinItems, ih, List.flatMap_cons]

theorem withinMembers_eq (members : Members) :
    withinMembers members = members.flatMap fun member => within member.2 := by
  induction members with
  | nil => rfl
  | cons member rest ih => rw [withinMembers, ih, List.flatMap_cons]

end Value

section Pick

variable {α : Type} (pick : Value → Option α)

/-- What is picked out of a value. -/
def picked (value : Value) : List α := value.within.filterMap pick

/-- What is picked out of several values. -/
def pickedAll (values : List Value) : List α := values.flatMap (picked pick)

variable {pick}

theorem picked_array (items : List Value) :
    picked pick (.array items) = (pick (.array items)).toList ++ pickedAll pick items := by
  rw [picked, Value.within, Value.withinItems_eq, List.filterMap_cons, List.filterMap_flatMap]
  cases pick (.array items) <;> rfl

theorem picked_members (members : Members) :
    picked pick (.object members) =
      (pick (.object members)).toList ++ members.flatMap fun member => picked pick member.2 := by
  rw [picked, Value.within, Value.withinMembers_eq, List.filterMap_cons, List.filterMap_flatMap]
  cases pick (.object members) <;> rfl

theorem mem_insert {key : String} {value : Value} {members : Members} {member : String × Value}
    (there : member ∈ Members.insert key value members) :
    member = (key, value) ∨ member ∈ members := by
  induction members with
  | nil => exact .inl (List.mem_singleton.mp there)
  | cons first rest ih =>
    obtain ⟨other, old⟩ := first
    unfold Members.insert at there
    split at there
    · rcases List.mem_cons.mp there with here | later
      · exact .inl here
      · exact .inr (List.mem_cons_of_mem _ later)
    · split at there
      · rcases List.mem_cons.mp there with here | later
        · exact .inl here
        · exact .inr later
      · rcases List.mem_cons.mp there with here | later
        · exact .inr (here ▸ List.mem_cons_self)
        · exact (ih later).imp id (List.mem_cons_of_mem _)

variable {fields : List (String × Option Value)}

theorem field_of_mem_members {member : String × Value} (there : member ∈ Record.members fields) :
    (member.1, some member.2) ∈ fields := by
  induction fields with
  | nil => cases there
  | cons field rest ih =>
    obtain ⟨key, value⟩ := field
    cases value with
    | none => exact List.mem_cons_of_mem _ (ih there)
    | some value =>
      rcases mem_insert there with rfl | later
      · exact List.mem_cons_self
      · exact List.mem_cons_of_mem _ (ih later)

/-- A field is found when no other field under its key holds something else. -/
theorem find_of_mem {key : String} {value : Value} (listed : (key, some value) ∈ fields)
    (single : ∀ field ∈ fields, field.1 = key → field.2 = some value) :
    Record.find fields key = some value := by
  induction fields with
  | nil => cases listed
  | cons field rest ih =>
    obtain ⟨first, found⟩ := field
    obtain ⟨here, later⟩ := List.forall_mem_cons.mp single
    by_cases same : key = first
    · have held : found = some value := here same.symm
      rw [Record.find, if_pos same, held, Option.some_or]
    · have inRest : (key, some value) ∈ rest :=
        (List.mem_cons.mp listed).resolve_left fun whole => same (congrArg Prod.fst whole)
      rw [Record.find, if_neg same, ih inRest later]

/-- What is picked out of an object is the object itself or inside a field. -/
theorem mem_picked_object {a : α} (distinct : (fields.map Prod.fst).Nodup) :
    a ∈ picked pick (Record.object fields) ↔ pick (Record.object fields) = some a ∨
      ∃ field ∈ fields, ∃ value ∈ field.2, a ∈ picked pick value := by
  rw [Record.object, picked_members, List.mem_append, Option.mem_toList, List.mem_flatMap]
  refine or_congr .rfl ⟨?_, ?_⟩
  · rintro ⟨member, listed, inside⟩
    exact ⟨_, field_of_mem_members listed, member.2, rfl, inside⟩
  · rintro ⟨⟨key, _⟩, listed, value, rfl, inside⟩
    have field : Members.get (Record.members fields) key = some value := by
      rw [Record.get_members]
      refine find_of_mem listed fun other there same => ?_
      rw [List.inj_on_of_nodup_map distinct there listed same]
    exact ⟨(key, value), mem_of_lookup field, inside⟩

/-- With nothing to pick inside, there is only the object itself. -/
theorem picked_object_of_silent
    (each : ∀ field ∈ fields, ∀ value ∈ field.2, picked pick value = []) :
    picked pick (Record.object fields) = (pick (Record.object fields)).toList := by
  have inside : (Record.members fields).flatMap (fun member => picked pick member.2) = [] :=
    List.flatMap_eq_nil_iff.mpr fun member listed =>
      each _ (field_of_mem_members listed) member.2 rfl
  rw [Record.object, picked_members, inside, List.append_nil]

end Pick

end Triton.Lib
