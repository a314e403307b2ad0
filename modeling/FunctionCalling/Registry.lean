/-
  All plugins of a host.

  The plugins stand in the order of registration.  No two have names that differ in the case of
  letters at most: `Registry.add` refuses the second.

  `get?` looks a function up by the name of its plugin and its own.  Without a plugin (absent or
  empty) it is the first function of that name, plugin by plugin.
-/
import FunctionCalling.Plugin

namespace FunctionCalling

open FunctionCalling.Text

/-- The plugins of a host, in order of registration. -/
structure Registry where
  plugins : List Plugin

namespace Registry

/-- A registry without plugins. -/
def empty : Registry :=
  ⟨[]⟩

/-! ## Looking up -/

/-- The plugin of a name. -/
def plugin? (r : Registry) (name : String) : Option Plugin :=
  r.plugins.find? fun p => sameName p.name name

/-- The function of a name in a plugin, or in the first plugin that has it when no plugin is
    given. -/
def get? (r : Registry) (plugin : Option String) (function : String) : Option Callable :=
  match Metadata.namedPlugin plugin with
  | some p => r.plugin? p >>= fun p => p.get? function
  | none => r.plugins.findSome? fun p => p.get? function

/-- What the registry holds under the names in some metadata. -/
def entry? (r : Registry) (m : Metadata) : Option Callable :=
  r.get? m.plugin m.name

/-- Whether the registry holds a function under the names in some metadata. -/
def contains (r : Registry) (m : Metadata) : Bool :=
  (r.entry? m).isSome

/-! ## Listing -/

/-- All functions, plugin by plugin. -/
def functions (r : Registry) : List Callable :=
  r.plugins.flatMap Plugin.functions

/-- What is known of all functions, plugin by plugin. -/
def metadata (r : Registry) : List Metadata :=
  r.functions.map Callable.metadata

/-- How many functions there are. -/
def size (r : Registry) : Nat :=
  r.plugins.foldr (fun p n => p.size + n) 0

/-- How diagnostics show a registry. -/
def describe (r : Registry) : String :=
  "FunctionRegistry \x7b plugins: " ++ bracketed (r.plugins.map Plugin.describe) ++ " \x7d"

/-! ## Registering -/

/-- The registry with one plugin more. -/
def add (r : Registry) (p : Plugin) : Except Error Registry :=
  if (r.plugin? p.name).isSome then .error (.duplicatePlugin p.name)
  else .ok ⟨r.plugins ++ [p]⟩

/-- The registry with a plugin made of functions; their identities count up from the number
    given. -/
def addDrafts (r : Registry) (id : Nat) (name : String) (drafts : List Draft) :
    Except Error Registry := do
  r.add (← Plugin.ofDrafts id name drafts)

/-- A plugin is added exactly when its name is new to the registry. -/
theorem add_eq_ok_iff {r s : Registry} {p : Plugin} :
    r.add p = .ok s ↔ r.plugin? p.name = none ∧ s = ⟨r.plugins ++ [p]⟩ := by
  cases h : r.plugin? p.name with
  | none => simp [add, h, eq_comm]
  | some q => simp [add, h]

/-- A plugin is refused for a name that the registry has. -/
theorem add_eq_error_iff {r : Registry} {p : Plugin} {fault : Error} :
    r.add p = .error fault ↔
      (r.plugin? p.name).isSome = true ∧ fault = .duplicatePlugin p.name := by
  cases h : r.plugin? p.name with
  | none => simp [add, h]
  | some q => simp [add, h, eq_comm]

/-- Functions are added exactly when they make a plugin and that plugin is added. -/
theorem addDrafts_eq_ok_iff {r s : Registry} {id : Nat} {name : String} {drafts : List Draft} :
    r.addDrafts id name drafts = .ok s ↔
      ∃ p, Plugin.ofDrafts id name drafts = .ok p ∧ r.add p = .ok s := by
  cases h : Plugin.ofDrafts id name drafts with
  | error fault => simp [addDrafts, h, bind, Except.bind]
  | ok p => simp [addDrafts, h, bind, Except.bind]

/-- The functions of a plugin that is added come after all others. -/
theorem functions_of_add {r s : Registry} {p : Plugin} (h : r.add p = .ok s) :
    s.functions = r.functions ++ p.functions := by
  obtain ⟨-, rfl⟩ := add_eq_ok_iff.1 h
  simp [functions]

/-- The size counts the functions. -/
theorem size_eq_length_functions (r : Registry) : r.size = r.functions.length := by
  unfold size functions
  induction r.plugins with
  | nil => rfl
  | cons p plugins ih =>
    rw [List.foldr_cons, List.flatMap_cons, List.length_append, ih, Plugin.size]

end Registry

/-- A plugin as a host supplies it. -/
structure PluginDraft where
  name : String
  description : String
  functions : List Draft

namespace Registry

/-- The registry with several plugins more; the identities of their functions count up from the
    number given. -/
def addAll (r : Registry) (id : Nat) : List PluginDraft → Except Error Registry
  | [] => .ok r
  | draft :: drafts => do
    let p ← Plugin.ofDrafts id draft.name draft.functions
    let r ← r.add (p.withDescription draft.description)
    r.addAll (id + draft.functions.length) drafts

/-- A registry of the plugins a host supplies; the identities count up from 0. -/
def ofDrafts (drafts : List PluginDraft) : Except Error Registry :=
  empty.addAll 0 drafts

end Registry

end FunctionCalling
