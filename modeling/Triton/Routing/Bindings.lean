/-
# Sticky bindings of conversations

A conversation is identified by platform, space, thread and caller; the
in-memory store files the bound agent under a storage id, the four parts joined
after a character substitution. The substitution is many-to-one, so a binding
belongs to one conversation only as long as nothing in its identity was
substituted.
-/

import Triton.Lib.Regroup
import Triton.Lib.Slots

namespace Triton.Routing

open Triton.Lib

/-- Normalized conversation identity. `thread` is empty on surfaces without
threads. -/
structure ConvKey where
  platform : String
  space : String
  thread : String
  caller : String
  deriving DecidableEq, Repr

/-- Replace every character other than an ASCII letter or digit. -/
def san (s : String) : String :=
  String.ofList (s.toList.map fun c => if c.isAlphanum then c else '-')

def ConvKey.storageId (key : ConvKey) : String :=
  san key.platform ++ "__" ++ san key.space ++ "__" ++ san key.thread ++ "__" ++ san key.caller

/-- The bound agent of each storage id. -/
abbrev InMemoryBindingStore := Table String String

namespace InMemoryBindingStore

def get (store : InMemoryBindingStore) (key : ConvKey) : Option String :=
  store.lookup key.storageId

/-- `author` is recorded by persistent stores only. -/
def set (store : InMemoryBindingStore) (key : ConvKey) (agentId _author : String) :
    InMemoryBindingStore :=
  store.insert key.storageId agentId

def clear (store : InMemoryBindingStore) (key : ConvKey) : InMemoryBindingStore :=
  store.erase key.storageId

end InMemoryBindingStore

/-- A call that changes the store. -/
inductive Call where
  | set (key : ConvKey) (agentId author : String)
  | clear (key : ConvKey)
  deriving DecidableEq, Repr

namespace Call

def key : Call → ConvKey
  | .set key _ _ => key
  | .clear key => key

def isSet : Call → Bool
  | .set .. => true
  | .clear _ => false

def apply (store : InMemoryBindingStore) : Call → InMemoryBindingStore
  | .set key agentId author => store.set key agentId author
  | .clear key => store.clear key

/-- What the call means for the conversation it names. -/
def write : Call → Slots.Write ConvKey String
  | .set key agentId _ => ⟨key, some agentId⟩
  | .clear key => ⟨key, none⟩

@[simp]
theorem write_key (call : Call) : call.write.key = call.key := by cases call <;> rfl

@[simp]
theorem isSome_write_row (call : Call) : call.write.row.isSome = call.isSet := by
  cases call <;> rfl

end Call

/-- The store after a sequence of calls on a new one. -/
def after (calls : List Call) : InMemoryBindingStore := run Call.apply ∅ calls

/-- The agent of the latest `set` for this very conversation, unless a `clear`
for it came later. -/
def bound (key : ConvKey) (calls : List Call) : Option String :=
  Slots.latest key (calls.map Call.write)

@[simp]
theorem bound_concat (key : ConvKey) (calls : List Call) (call : Call) :
    bound key (calls ++ [call]) = if call.key = key then call.write.row else bound key calls := by
  simp [bound]

variable (calls : List Call)

theorem after_eq_run_file :
    after calls = run (Slots.file ConvKey.storageId) ∅ (calls.map Call.write) := by
  unfold after run
  rw [List.foldl_map]
  congr 1
  funext store call
  cases call <;> rfl

theorem answers_iff :
    Slots.Answers ConvKey.storageId (calls.map Call.write) ↔
      ∀ key, (after calls).get key = bound key calls := by
  rw [after_eq_run_file]
  exact Iff.rfl

/-! ### Which conversations share a storage id -/

/-- Only ASCII letters and digits. -/
def plain (s : String) : Bool := s.toList.all Char.isAlphanum

/-- Nothing in the identity is substituted. -/
def ConvKey.isPlain (key : ConvKey) : Bool :=
  plain key.platform && plain key.space && plain key.thread && plain key.caller

theorem underscore_notMem_san (s : String) : '_' ∉ (san s).toList := by
  simp only [san, String.toList_ofList, List.mem_map, not_exists, not_and]
  intro c _ image
  split at image
  · rename_i letter
    rw [image] at letter
    exact absurd letter (by decide)
  · exact absurd image (by decide)

/-- The separator occurs in no part, so the parts can be read back. -/
theorem storageId_eq_iff (a b : ConvKey) :
    a.storageId = b.storageId ↔
      san a.platform = san b.platform ∧ san a.space = san b.space ∧
        san a.thread = san b.thread ∧ san a.caller = san b.caller := by
  have bars : "__".toList = ['_', '_'] := rfl
  have cut : ∀ s t : String, ∀ rest rest' : List Char,
      (san s).toList ++ '_' :: '_' :: rest = (san t).toList ++ '_' :: '_' :: rest' ↔
        san s = san t ∧ rest = rest' := by
    intro s t rest rest'
    rw [Regroup.append_sep_inj '_' (underscore_notMem_san s) (underscore_notMem_san t)]
    simp [String.toList_inj]
  rw [← String.toList_inj]
  simp only [ConvKey.storageId, String.toList_append, bars, List.append_assoc,
    List.cons_append, List.nil_append, cut, String.toList_inj]

/-- A text without substituted characters is the only one with its image. -/
theorem eq_of_san_eq {s t : String} (clean : plain t) (same : san s = san t) : s = t := by
  have images := congrArg String.toList same
  simp only [san, String.toList_ofList] at images
  rw [← String.toList_inj]
  unfold plain at clean
  generalize s.toList = x at images
  generalize t.toList = y at images clean
  induction x generalizing y with
  | nil => simpa using images
  | cons c x ih =>
    cases y with
    | nil => simp at images
    | cons d y =>
      simp only [List.map_cons, List.cons.injEq, List.all_cons, Bool.and_eq_true]
        at images clean
      obtain ⟨letter, letters⟩ := clean
      rw [if_pos letter] at images
      have head : c = d := by
        by_cases other : c.isAlphanum
        · simpa [other] using images.1
        · have dash : '-' = d := by simpa [other] using images.1
          rw [← dash] at letter
          exact absurd letter (by decide)
      rw [head, ih y images.2 letters]

/-- Another text with the same image, wherever something is substituted. -/
def double (s : String) : String :=
  String.ofList (s.toList.map fun c => if c.isAlphanum then c else if c = '-' then '.' else '-')

theorem san_double (s : String) : san (double s) = san s := by
  simp only [san, double, String.toList_ofList, List.map_map]
  congr 2
  funext c
  by_cases letter : c.isAlphanum
  · simp [letter]
  · by_cases dash : c = '-' <;> simp [letter, dash]

theorem plain_of_double_eq {s : String} (same : double s = s) : plain s := by
  have letters := congrArg String.toList same
  simp only [double, String.toList_ofList] at letters
  unfold plain
  rw [List.all_eq_true]
  intro c member
  have fixed := List.map_eq_map_iff.mp (letters.trans (List.map_id _).symm) c member
  by_contra other
  rw [if_neg other] at fixed
  split at fixed
  · rename_i dash
    rw [dash] at fixed
    exact absurd fixed (by decide)
  · rename_i dash
    exact dash fixed.symm

theorem alone_iff_isPlain (key : ConvKey) : Slots.Alone ConvKey.storageId key ↔ key.isPlain := by
  simp only [ConvKey.isPlain, Bool.and_eq_true]
  constructor
  · intro alone
    have twin := alone ⟨double key.platform, double key.space, double key.thread,
      double key.caller⟩ ((storageId_eq_iff _ _).mpr (by simp [san_double]))
    obtain ⟨platform, space, thread, caller⟩ := key
    obtain ⟨samePlatform, sameSpace, sameThread, sameCaller⟩ := ConvKey.mk.inj twin
    exact ⟨⟨⟨plain_of_double_eq samePlatform, plain_of_double_eq sameSpace⟩,
      plain_of_double_eq sameThread⟩, plain_of_double_eq sameCaller⟩
  · rintro ⟨⟨⟨platform, space⟩, thread⟩, caller⟩ other shared
    obtain ⟨samePlatform, sameSpace, sameThread, sameCaller⟩ :=
      (storageId_eq_iff other key).mp shared
    cases other
    cases key
    simp only [ConvKey.mk.injEq]
    exact ⟨eq_of_san_eq platform samePlatform, eq_of_san_eq space sameSpace,
      eq_of_san_eq thread sameThread, eq_of_san_eq caller sameCaller⟩

/-! ### A binding belongs to one conversation -/

/-- Every answer along the calls is the latest binding of the conversation asked
about. -/
theorem bound_throughout_iff :
    (∀ before, before <+: calls → ∀ key, (after before).get key = bound key before) ↔
      ∀ call ∈ calls, call.isSet → call.key.isPlain := by
  have plain : Slots.AllAlone ConvKey.storageId (calls.map Call.write) ↔
      ∀ call ∈ calls, call.isSet → call.key.isPlain := by
    simp [Slots.AllAlone, alone_iff_isPlain]
  rw [← plain, ← Slots.answers_throughout_iff]
  constructor
  · intro answers before part
    rw [List.prefix_iff_eq_take.mp part, ← List.map_take]
    exact (answers_iff _).mpr (answers _ (List.take_prefix _ _))
  · intro answers before part
    exact (answers_iff before).mp (answers _ (part.map Call.write))

/-- After every call of a sequence each conversation is bound to the agent of
its own latest `set`, and a call for another conversation changes nothing,
exactly when no `set` names a conversation with a substituted character. -/
theorem bindings_isolated_iff (calls : List Call) :
    ((∀ before, before <+: calls → ∀ key, (after before).get key = bound key before) ∧
      ∀ before call, before ++ [call] <+: calls → ∀ key, key ≠ call.key →
        (after (before ++ [call])).get key = (after before).get key) ↔
      ∀ call ∈ calls, call.isSet → call.key.isPlain := by
  rw [← bound_throughout_iff]
  constructor
  · exact And.left
  · intro answers
    refine ⟨answers, ?_⟩
    intro before call part key different
    rw [answers _ part, answers before ((List.prefix_append _ _).trans part), bound_concat,
      if_neg (Ne.symm different)]

/-- Two callers of one space share a binding: one is sent to the agent the
other chose. -/
theorem dotted_caller_shares_binding :
    let dotted : ConvKey := ⟨"googlechat", "spaces/AAA", "", "users/a.b"⟩
    let dashed : ConvKey := ⟨"googlechat", "spaces/AAA", "", "users/a-b"⟩
    let calls := [Call.set dotted "billing" "users/a.b"]
    dashed ≠ dotted ∧ (after calls).get dashed = some "billing" ∧ bound dashed calls = none := by
  decide

end Triton.Routing
