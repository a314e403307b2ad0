/-
  The names under which a model knows functions.

  A model sees one name for each function, its fully qualified name.  A `Naming.Policy` says
  how that name is built from metadata and how a name that the model sends is read back:

  1. by default plugin and function are joined by a separator, and a name is split at the FIRST
     occurrence of the separator;
  2. with `nameOnly` the plugin is neither written nor looked for;
  3. a policy may have a reader of its own, whose answer is final.

  Reading never fails: a name that cannot be split is a function without a plugin, and whether
  there is such a function is found out when it is looked up.  Nothing is escaped, so a
  separator that can occur inside names makes the split ambiguous.  The reader
  `trySeparators` then asks the registry which split is meant.
-/
import FunctionCalling.Registry
import FunctionCalling.Text.Split

namespace FunctionCalling.Naming

open FunctionCalling.Text

/-- The separator between plugin and function unless another is chosen. -/
def defaultSeparator : String := "-"

/-- A name that a model sent, taken apart. -/
structure Parsed where
  plugin : Option String
  function : String
deriving DecidableEq, Repr

namespace Parsed

/-- A whole name as a function without a plugin. -/
def whole (fqn : String) : Parsed :=
  ⟨none, fqn⟩

/-- What the registry holds under the name. -/
def resolve (p : Parsed) (r : Registry) : Option Callable :=
  r.get? p.plugin p.function

/-- The name under which people know the function. -/
def qualifiedName (p : Parsed) : String :=
  Metadata.qualify p.plugin p.function

end Parsed

/-- A way to take names apart; it may ask the registry, when there is one. -/
abbrev NameReader :=
  String → Option Registry → Parsed

/-! ## Ways to take a name apart -/

/-- The parts before and after a separator, as plugin and function. -/
def ofParts (parts : List Char × List Char) : Parsed :=
  ⟨some (String.ofList parts.1), String.ofList parts.2⟩

/-- A name split at the first occurrence of a separator; an empty separator occurs nowhere. -/
def split (separator fqn : String) : Parsed :=
  if separator.isEmpty then .whole fqn
  else
    match splitFirst separator.toList fqn.toList with
    | some parts => ofParts parts
    | none => .whole fqn

/-- The separators that can be tried: all but the empty ones. -/
def usable (separators : List String) : List String :=
  separators.filter fun s => !s.isEmpty

/-- Every split of a name that `trySeparators` considers, in order: separator by separator, and
    for each from the left. -/
def candidates (separators : List String) (fqn : String) : List Parsed :=
  (usable separators).flatMap fun s => (splits s.toList fqn.toList).map ofParts

/-- A split puts the name back together around one of the separators. -/
theorem append_of_mem_candidates {separators : List String} {fqn : String} {p : Parsed}
    (h : p ∈ candidates separators fqn) :
    ∃ s ∈ separators, s ≠ "" ∧ ∃ plugin, p.plugin = some plugin ∧
      fqn = plugin ++ s ++ p.function := by
  obtain ⟨s, hs, hp⟩ := List.mem_flatMap.1 h
  obtain ⟨parts, hparts, rfl⟩ := List.mem_map.1 hp
  obtain ⟨hmem, hne⟩ := List.mem_filter.1 hs
  refine ⟨s, hmem, by simpa using hne, String.ofList parts.1, rfl, ?_⟩
  have join := append_of_mem_splits hparts
  rw [← String.toList_inj, join]
  simp [ofParts]

/-- The first split under which the registry holds a function; the whole name as a function when
    there is no such split or no registry. -/
def trySeparators (separators : List String) : NameReader := fun fqn registry =>
  match registry with
  | none => .whole fqn
  | some r =>
    ((candidates separators fqn).find? fun p => (p.resolve r).isSome).getD (.whole fqn)

/-! ## Policies -/

/-- How names are built and taken apart. -/
structure Policy where
  separator : String
  /-- Functions go by their name alone. -/
  nameOnly : Bool
  /-- A reader in place of the policy's own. -/
  reader : Option NameReader

namespace Policy

/-- Plugin and function joined by a separator. -/
def custom (separator : String) : Policy :=
  ⟨separator, false, none⟩

/-- Plugin and function joined by the default separator. -/
def default : Policy :=
  custom defaultSeparator

/-- Functions by their name alone. -/
def functionNameOnly : Policy :=
  { default with nameOnly := true }

/-- The name a model sees. -/
def fqn (policy : Policy) (m : Metadata) : String :=
  if policy.nameOnly then m.name
  else
    match m.plugin with
    | some p => p ++ policy.separator ++ m.name
    | none => m.name

/-- A name that a model sent, taken apart. -/
def parse (policy : Policy) (fqn : String) (registry : Option Registry) : Parsed :=
  match policy.reader with
  | some read => read fqn registry
  | none => if policy.nameOnly then .whole fqn else split policy.separator fqn

/-- The function that a name stands for. -/
def resolve (policy : Policy) (fqn : String) (r : Registry) : Option Callable :=
  (policy.parse fqn (some r)).resolve r

/-- How diagnostics show a policy. -/
def describe (policy : Policy) : String :=
  "FunctionNamePolicy \x7b separator: " ++ quoted policy.separator ++ ", use_function_name_only: "
    ++ toString policy.nameOnly ++ ", custom_parser: " ++ toString policy.reader.isSome ++ " \x7d"

/-! ## How names are built and read -/

variable {policy : Policy} {m : Metadata}

theorem fqn_of_nameOnly (h : policy.nameOnly = true) (m : Metadata) : policy.fqn m = m.name := by
  rw [fqn, if_pos h]

theorem fqn_of_plugin (h : policy.nameOnly = false) {p : String} (hp : m.plugin = some p) :
    policy.fqn m = p ++ policy.separator ++ m.name := by
  simp [fqn, h, hp]

theorem fqn_of_no_plugin (hp : m.plugin = none) : policy.fqn m = m.name := by
  simp [fqn, hp]

theorem parse_of_nameOnly (h : policy.nameOnly = true) (hreader : policy.reader = none)
    (fqn : String) (registry : Option Registry) : policy.parse fqn registry = .whole fqn := by
  simp only [parse, hreader, if_pos h]

theorem parse_of_not_nameOnly (h : policy.nameOnly = false) (hreader : policy.reader = none)
    (fqn : String) (registry : Option Registry) :
    policy.parse fqn registry = split policy.separator fqn := by
  simp [parse, hreader, h]

end Policy

example : split "-" "a-b-c" = ⟨some "a", "b-c"⟩ := by decide +kernel
example : split "" "a-b" = ⟨none, "a-b"⟩ := by decide +kernel

end FunctionCalling.Naming
