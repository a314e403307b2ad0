/-
  Named groups of functions.

  A plugin keeps its functions in the order in which they were added.  `Plugin.create` and
  `Plugin.add` are the only ways to make one here, and they refuse

  1. a name that is no name (`isName`), of a plugin or of a function;
  2. a second function whose name differs from that of a member in the case of letters at most.

  A name is checked before its novelty.
-/
import FunctionCalling.Callable
import FunctionCalling.Error

namespace FunctionCalling

open FunctionCalling.Text

/-- A group of functions under a name. -/
structure Plugin where
  name : String
  description : String
  functions : List Callable

/-- A name that is one, or the fault of one that is not. -/
def checkName (name : String) : Except Error Unit :=
  if isName name then .ok () else .error (.invalidName name)

namespace Plugin

/-- A plugin without functions. -/
def create (name : String) : Except Error Plugin := do
  checkName name
  return ⟨name, "", []⟩

/-- The member of a name. -/
def get? (p : Plugin) (function : String) : Option Callable :=
  p.functions.find? fun f => sameName f.name function

/-- The plugin with one function more, which gets an identity and the name of the plugin. -/
def add (p : Plugin) (id : Nat) (draft : Draft) : Except Error Plugin := do
  checkName draft.metadata.name
  if (p.get? draft.metadata.name).isSome then
    throw (.duplicateFunction p.name draft.metadata.name)
  return { p with functions := p.functions ++ [.ofMember id p.name draft] }

/-- The plugin with several functions more; their identities count up from the number given. -/
def addAll (p : Plugin) (id : Nat) : List Draft → Except Error Plugin
  | [] => .ok p
  | draft :: drafts => do
    let p ← p.add id draft
    p.addAll (id + 1) drafts

/-- A plugin with functions; their identities count up from the number given. -/
def ofDrafts (id : Nat) (name : String) (drafts : List Draft) : Except Error Plugin := do
  (← create name).addAll id drafts

/-- The plugin with a description. -/
def withDescription (p : Plugin) (description : String) : Plugin :=
  { p with description := description }

/-- How many functions there are. -/
def size (p : Plugin) : Nat :=
  p.functions.length

/-- How diagnostics show a plugin. -/
def describe (p : Plugin) : String :=
  "KernelPlugin \x7b name: " ++ quoted p.name ++ ", functions: "
    ++ bracketed (p.functions.map fun f => quoted f.name) ++ " \x7d"

/-! ## What the operations make -/

theorem create_eq_ok_iff {name : String} {p : Plugin} :
    create name = .ok p ↔ isName name = true ∧ p = ⟨name, "", []⟩ := by
  by_cases h : isName name = true
  · simp [create, checkName, h, bind, Except.bind, pure, Except.pure, eq_comm]
  · simp [create, checkName, h, bind, Except.bind]

/-- A function is added exactly when its name is one and is new to the plugin. -/
theorem add_eq_ok_iff {p q : Plugin} {id : Nat} {draft : Draft} :
    p.add id draft = .ok q ↔
      isName draft.metadata.name = true ∧ p.get? draft.metadata.name = none ∧
        q = { p with functions := p.functions ++ [.ofMember id p.name draft] } := by
  by_cases hn : isName draft.metadata.name = true
  · cases hg : p.get? draft.metadata.name with
    | none => simp [add, checkName, hn, hg, bind, Except.bind, pure, Except.pure, eq_comm]
    | some f => simp [add, checkName, hn, hg, bind, Except.bind, throw, throwThe,
        MonadExceptOf.throw]
  · simp [add, checkName, hn, bind, Except.bind]

/-- A function is refused for a name that is none, or else for one that the plugin has. -/
theorem add_eq_error_iff {p : Plugin} {id : Nat} {draft : Draft} {fault : Error} :
    p.add id draft = .error fault ↔
      (isName draft.metadata.name = false ∧ fault = .invalidName draft.metadata.name) ∨
      (isName draft.metadata.name = true ∧ (p.get? draft.metadata.name).isSome = true ∧
        fault = .duplicateFunction p.name draft.metadata.name) := by
  cases hn : isName draft.metadata.name with
  | false =>
    simp only [add, checkName, hn, bind, Except.bind, Bool.false_eq_true, if_false,
      Except.error.injEq, true_and, false_and, or_false]
    exact eq_comm
  | true =>
    cases hg : p.get? draft.metadata.name with
    | none => simp [add, checkName, hn, hg, bind, Except.bind, pure, Except.pure]
    | some f => simp [add, checkName, hn, hg, bind, Except.bind, throw, throwThe,
        MonadExceptOf.throw, eq_comm]

/-- Drafts as members of a plugin; their identities count up from the number given. -/
def members (id : Nat) (plugin : String) : List Draft → List Callable
  | [] => []
  | draft :: drafts => .ofMember id plugin draft :: members (id + 1) plugin drafts

/-- Several functions come after those that are there, in their order. -/
theorem eq_of_addAll {p q : Plugin} {id : Nat} {drafts : List Draft}
    (h : p.addAll id drafts = .ok q) :
    q = { p with functions := p.functions ++ members id p.name drafts } := by
  induction drafts generalizing p id with
  | nil =>
    simp only [addAll, Except.ok.injEq] at h
    simp [members, h]
  | cons draft drafts ih =>
    simp only [addAll, bind, Except.bind] at h
    split at h
    · cases h
    next p' hadd =>
      obtain ⟨-, -, rfl⟩ := add_eq_ok_iff.1 hadd
      rw [ih h]
      simp [members]

end Plugin

end FunctionCalling
