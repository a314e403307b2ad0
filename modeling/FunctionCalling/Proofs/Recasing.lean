/-
  Names in other cases.

  A model may write a name in capitals or in small letters; it always names the same function.
  Three ways of comparing have to agree for this: separators are found character by character,
  names are looked up without regard to case, and calls are counted under folded names.

  1. A separator without letters is found where it was found before folding, because folding
     neither makes nor loses any of its characters (`splits_map`, of any such change of
     characters).
  2. So a policy from settings reads a folded name as the folded parts of the name
     (`parse_fold`), with or without a registry.
  3. Lookups (`get?_fold`) and identities (`identity_fold`) do not tell folded parts from the parts
     themselves.

  Two texts that are the same name have one fold, and nothing of what follows depends on more than
  the fold.
-/
import FunctionCalling.Choice.CallLimit
import FunctionCalling.Proofs.RoundTrip

namespace FunctionCalling

open FunctionCalling.Text

/-! ## Separators without letters -/

namespace Text

/-- A text without ASCII letters is the same in every case. -/
def isCaseless (s : String) : Bool :=
  s.toList.all fun c => !c.isAlpha

/-- A change of characters keeps a separator when it makes and loses none of its characters. -/
def Keeps (change : Char → Char) (sep : List Char) : Prop :=
  ∀ c ∈ sep, ∀ d, c = change d ↔ c = d

theorem Keeps.tail {change : Char → Char} {c : Char} {sep : List Char}
    (h : Keeps change (c :: sep)) : Keeps change sep :=
  fun d hd => h d (List.mem_cons_of_mem c hd)

/-- Folding keeps what has no letters. -/
theorem keeps_toLower {s : String} (h : isCaseless s = true) : Keeps Char.toLower s.toList := by
  intro c hc d
  have hletter : c.isAlpha = false := by
    simpa using List.all_eq_true.1 h c hc
  by_cases hupper : d.isUpper = true
  · -- a capital is a letter before and after, and `c` is none
    have hd : d.isAlpha = true := by
      rw [Char.isAlpha, hupper, Bool.true_or]
    have hlow : d.toLower.isAlpha = true := by
      rw [Char.isAlpha_toLower_eq_isAlpha]
      exact hd
    constructor
    · rintro rfl
      rw [hletter] at hlow
      cases hlow
    · rintro rfl
      rw [hletter] at hd
      cases hd
  · rw [Char.toLower_eq_of_not_isUpper hupper]

/-! ### Splits of a changed text -/

theorem dropLead?_map {change : Char → Char} {lead : List Char} (h : Keeps change lead)
    (s : List Char) : dropLead? lead (s.map change) = (dropLead? lead s).map (List.map change) := by
  induction lead generalizing s with
  | nil => rfl
  | cons c lead ih =>
    cases s with
    | nil => rfl
    | cons d s =>
      have hsame : c = change d ↔ c = d := h c List.mem_cons_self d
      simp only [List.map_cons, dropLead?, hsame]
      split
      · exact ih h.tail s
      · rfl

theorem splitFirst_map {change : Char → Char} {sep : List Char} (h : Keeps change sep)
    (s : List Char) : splitFirst sep (s.map change) =
      (splitFirst sep s).map (Prod.map (List.map change) (List.map change)) := by
  induction s with
  | nil => cases sep <;> rfl
  | cons c s ih =>
    have hlead := dropLead?_map h (c :: s)
    rw [List.map_cons] at hlead
    simp only [List.map_cons, splitFirst, hlead]
    cases dropLead? sep (c :: s) with
    | some rest => rfl
    | none =>
      simp only [Option.map_none, ih]
      cases splitFirst sep s <;> rfl

theorem splitsFrom_map {change : Char → Char} {sep : List Char} (h : Keeps change sep)
    (before : List Char) (skip : Nat) (s : List Char) :
    splitsFrom sep (before.map change) skip (s.map change) =
      (splitsFrom sep before skip s).map (Prod.map (List.map change) (List.map change)) := by
  induction s generalizing before skip with
  | nil => rfl
  | cons c s ih =>
    cases skip with
    -- inside an occurrence nothing is compared
    | succ skip => exact ih (c :: before) skip
    | zero =>
      have hlead := dropLead?_map h (c :: s)
      rw [List.map_cons] at hlead
      simp only [List.map_cons, splitsFrom, hlead]
      cases dropLead? sep (c :: s) with
      | some rest =>
        simp only [Option.map_some, List.map_cons, Prod.map_apply, List.map_reverse]
        rw [← ih (c :: before) (sep.length - 1), List.map_cons]
      | none =>
        simp only [Option.map_none]
        exact ih (c :: before) 0

/-- **The splits of a changed text are the changed splits.** -/
theorem splits_map {change : Char → Char} {sep : List Char} (h : Keeps change sep)
    (s : List Char) : splits sep (s.map change) =
      (splits sep s).map (Prod.map (List.map change) (List.map change)) :=
  splitsFrom_map h [] 0 s

/-! ### Folding twice -/

@[simp] theorem toList_fold (s : String) : (fold s).toList = s.toList.map Char.toLower := by
  simp [fold]

@[simp] theorem fold_fold (s : String) : fold (fold s) = fold s := by
  rw [← String.toList_inj]
  simp [Function.comp_def]

@[simp] theorem sameName_fold_right (a b : String) : sameName a (fold b) = sameName a b := by
  simp [sameName]

end Text

/-! ## Lookups -/

/-- A folded plugin name says something when the plugin name does. -/
theorem Metadata.namedPlugin_map_fold (plugin : Option String) :
    namedPlugin (plugin.map fold) = (namedPlugin plugin).map fold := by
  cases plugin with
  | none => rfl
  | some p =>
    by_cases hp : p = ""
    · subst hp
      rfl
    · have hfold : fold p ≠ "" := by
        simpa using hp
      rw [Option.map_some, namedPlugin_some_of_ne hp, namedPlugin_some_of_ne hfold,
        Option.map_some]

namespace Registry

/-- A lookup does not tell folded names from the names themselves. -/
theorem get?_fold (r : Registry) (plugin : Option String) (n : String) :
    r.get? (plugin.map fold) (fold n) = r.get? plugin n := by
  have hmember : ∀ p : Plugin, p.get? (fold n) = p.get? n := by
    intro p
    simp only [Plugin.get?, sameName_fold_right]
  simp only [get?, Metadata.namedPlugin_map_fold, hmember]
  cases Metadata.namedPlugin plugin with
  | none => rfl
  | some p => simp only [Option.map_some, plugin?, sameName_fold_right]

end Registry

/-! ## Reading -/

namespace Naming

/-- The parts of a name, folded. -/
def Parsed.fold (p : Parsed) : Parsed :=
  ⟨p.plugin.map Text.fold, Text.fold p.function⟩

theorem Parsed.resolve_fold (p : Parsed) (r : Registry) : p.fold.resolve r = p.resolve r :=
  r.get?_fold p.plugin p.function

theorem ofParts_map_toLower (parts : List Char × List Char) :
    ofParts (Prod.map (List.map Char.toLower) (List.map Char.toLower) parts) =
      (ofParts parts).fold := by
  simp [ofParts, Parsed.fold, Text.fold]

/-- A name is split where its fold is. -/
theorem split_fold {separator : String} (h : isCaseless separator = true) (fqn : String) :
    split separator (Text.fold fqn) = (split separator fqn).fold := by
  unfold split
  split
  · rfl
  · rw [toList_fold, splitFirst_map (keeps_toLower h)]
    cases splitFirst separator.toList fqn.toList with
    | none => rfl
    | some parts => exact ofParts_map_toLower parts

theorem candidates_fold {separators : List String}
    (h : ∀ t ∈ separators, isCaseless t = true) (fqn : String) :
    candidates separators (Text.fold fqn) = (candidates separators fqn).map Parsed.fold := by
  rw [candidates, candidates, List.map_flatMap]
  refine List.flatMap_congr ?_
  intro t ht
  have hkeeps := keeps_toLower (h t (List.mem_filter.1 ht).1)
  rw [toList_fold, splits_map hkeeps, List.map_map, List.map_map]
  refine List.map_congr_left ?_
  intro parts _
  exact ofParts_map_toLower parts

/-- The registry finds the splits of a name good or not, whatever the case of its letters. -/
theorem trySeparators_fold {separators : List String}
    (h : ∀ t ∈ separators, isCaseless t = true) (fqn : String) (registry : Option Registry) :
    trySeparators separators (Text.fold fqn) registry =
      (trySeparators separators fqn registry).fold := by
  cases registry with
  | none => rfl
  | some r =>
    have hgood : ((fun p : Parsed => (p.resolve r).isSome) ∘ Parsed.fold) =
        fun p => (p.resolve r).isSome := by
      funext p
      exact congrArg Option.isSome (p.resolve_fold r)
    simp only [trySeparators, candidates_fold h, List.find?_map, hgood]
    cases (candidates separators fqn).find? fun p => (p.resolve r).isSome <;> rfl

end Naming

namespace PolicySettings

/-- No letter is used to separate a plugin from a function. -/
def Caseless (s : PolicySettings) : Prop :=
  ∀ t ∈ s.separator :: s.fallbackSeparators, isCaseless t = true

instance (s : PolicySettings) : Decidable s.Caseless :=
  inferInstanceAs (Decidable (∀ t ∈ _, _))

/-- **A policy reads a folded name as the folded parts of the name.** -/
theorem parse_fold {s : PolicySettings} (h : s.Caseless) (fqn : String)
    (registry : Option Registry) :
    s.toPolicy.parse (fold fqn) registry = (s.toPolicy.parse fqn registry).fold := by
  by_cases hplain : (s.nameOnly || s.fallbackSeparators.isEmpty) = true
  · simp only [Naming.Policy.parse, toPolicy, if_pos hplain]
    split
    · rfl
    · exact Naming.split_fold (h _ List.mem_cons_self) fqn
  · simp only [Naming.Policy.parse, toPolicy, if_neg hplain]
    exact Naming.trySeparators_fold h fqn registry

/-- Texts that are the same name are read as parts that are. -/
theorem fold_parse_eq {s : PolicySettings} (h : s.Caseless) {a b : String}
    (hab : sameName a b = true) (registry : Option Registry) :
    (s.toPolicy.parse a registry).fold = (s.toPolicy.parse b registry).fold := by
  rw [← parse_fold h, ← parse_fold h, sameName_iff.1 hab]

end PolicySettings

/-! ## Recased histories -/

/-- A call that differs in the case of letters in the name of the function at most. -/
def ToolCall.Recased (call call' : ToolCall) : Prop :=
  ∃ name, sameName call.function.name name = true ∧
    call' = { call with function := { call.function with name := name } }

/-- A message of which the calls differ so. -/
def Message.Recased (m m' : Message) : Prop :=
  ∃ calls, Option.Rel (List.Forall₂ ToolCall.Recased) m.toolCalls calls ∧
    m' = { m with toolCalls := calls }

/-- A history of which the messages differ so, one by one. -/
def History.Recased (h h' : History) : Prop :=
  List.Forall₂ Message.Recased h h'

theorem Message.Recased.calls {m m' : Message} (h : m.Recased m') :
    List.Forall₂ ToolCall.Recased m.calls m'.calls := by
  obtain ⟨calls, hcalls, rfl⟩ := h
  show List.Forall₂ ToolCall.Recased (m.toolCalls.getD []) (calls.getD [])
  generalize m.toolCalls = before at hcalls
  cases hcalls with
  | some hcalls => exact hcalls
  | none => exact .nil

theorem History.Recased.toolCalls {h h' : History} (hrecased : h.Recased h') :
    List.Forall₂ ToolCall.Recased h.toolCalls h'.toolCalls := by
  unfold History.toolCalls
  induction hrecased with
  | nil => exact .nil
  | cons hm _ ih =>
    rw [List.flatMap_cons, List.flatMap_cons]
    exact List.rel_append hm.calls ih

/-! ## Counting -/

namespace Choice

/-- Identities are folded already. -/
theorem identity_fold (registry : Option Registry) (p : Naming.Parsed) :
    identity registry p.fold.plugin p.fold.function = identity registry p.plugin p.function := by
  have hlookup : (registry.bind fun r => r.get? p.fold.plugin p.fold.function) =
      registry.bind fun r => r.get? p.plugin p.function := by
    cases registry with
    | none => rfl
    | some r => exact r.get?_fold p.plugin p.function
  have hplugin : fold (p.fold.plugin.getD "") = fold (p.plugin.getD "") := by
    cases hp : p.plugin <;> simp [Naming.Parsed.fold, hp]
  have hname : fold p.fold.function = fold p.function := fold_fold _
  rw [identity, identity, hlookup, hplugin, hname]

namespace CallLimit

/-- Calls that differ in case only count for the same function. -/
theorem callIdentity_eq_of_recased {limit : CallLimit} {s : PolicySettings} (hs : s.Caseless)
    (hpolicy : limit.policy = s.toPolicy) (registry : Option Registry) {call call' : ToolCall}
    (h : call.Recased call') :
    limit.callIdentity registry call = limit.callIdentity registry call' := by
  obtain ⟨name, hname, rfl⟩ := h
  have hfold := s.fold_parse_eq hs hname registry
  simp only [callIdentity, hpolicy]
  rw [← identity_fold, hfold, identity_fold]

theorem callCounts_eq_of_recased {limit : CallLimit} {s : PolicySettings} (hs : s.Caseless)
    (hpolicy : limit.policy = s.toPolicy) (registry : Option Registry) {h h' : History}
    (hrecased : h.Recased h') : limit.callCounts registry h = limit.callCounts registry h' := by
  have hkeys : h.toolCalls.map (limit.callIdentity registry) =
      h'.toolCalls.map (limit.callIdentity registry) := by
    rw [← List.forall₂_eq_eq_eq, List.forall₂_map_left_iff, List.forall₂_map_right_iff]
    exact hrecased.toolCalls.imp fun _ _ => limit.callIdentity_eq_of_recased hs hpolicy registry
  rw [callCounts, callCounts, hkeys]

end CallLimit

end Choice

/-- **The case of letters makes no difference to what a name stands for.**  Under a policy from
    settings that separate by no letters,

    1. texts that differ in the case of letters at most stand for the same function, or both for
       none;
    2. a limit on calls under this policy selects the same functions, with or without a registry,
       when the names in recorded calls are written in other cases. -/
theorem resolves_in_any_case {s : PolicySettings} (hs : s.Caseless) :
    (∀ (r : Registry) (a b : String), sameName a b = true →
      s.toPolicy.resolve a r = s.toPolicy.resolve b r) ∧
    (∀ limit : Choice.CallLimit, limit.policy = s.toPolicy → ∀ h h' : History, h.Recased h' →
      ∀ (candidates : List Callable) (registry : Option Registry),
        limit.selector ⟨candidates, h, registry⟩ = limit.selector ⟨candidates, h', registry⟩) := by
  constructor
  · intro r a b hab
    rw [Naming.Policy.resolve, Naming.Policy.resolve, ← Naming.Parsed.resolve_fold,
      s.fold_parse_eq hs hab, Naming.Parsed.resolve_fold]
  · intro limit hpolicy h h' hrecased candidates registry
    simp only [Choice.CallLimit.selector,
      limit.callCounts_eq_of_recased hs hpolicy registry hrecased]

/-- A name in capitals, recovered with a further separator, stands for the function it stands for
    in small letters; a call by it uses up the one call that the function may have. -/
theorem resolves_in_any_case_recovered :
    let s : PolicySettings := ⟨"-", false, ["_"]⟩
    let limit : Choice.CallLimit := ⟨1, s.toPolicy, []⟩
    let asked (name : String) : History := [.ofToolCalls [.ofFunction "1" name "\x7b\x7d"]]
    s.Caseless ∧ sameName "MATH_ADD" "math_add" = true ∧
      (asked "math_add").Recased (asked "MATH_ADD") ∧
      s.toPolicy.resolve "MATH_ADD" .sample = some (.ofMember 0 "Math" (.echo "Add")) ∧
      limit.selector ⟨Registry.sample.functions, asked "MATH_ADD", some .sample⟩ =
        some [.ofMember 1 "Math" (.echo "Sub"), .ofMember 2 "My_Tools" (.echo "add")] := by
  intro s limit asked
  have hs : s.Caseless := by decide
  have hname : sameName "MATH_ADD" "math_add" = true := by decide
  have hcall : (ToolCall.ofFunction "1" "math_add" "\x7b\x7d").Recased
      (.ofFunction "1" "MATH_ADD" "\x7b\x7d") := ⟨"MATH_ADD", by decide, rfl⟩
  have hrecased : (asked "math_add").Recased (asked "MATH_ADD") :=
    .cons ⟨_, .some (.cons hcall .nil), rfl⟩ .nil
  have hsmall : (PolicySettings.mk "-" false ["_"]).toPolicy.resolve "math_add" .sample =
      some (.ofMember 0 "Math" (.echo "Add")) := rfl
  have hselected : (Choice.CallLimit.mk 1 (PolicySettings.mk "-" false ["_"]).toPolicy []).selector
      ⟨Registry.sample.functions, [.ofToolCalls [.ofFunction "1" "math_add" "\x7b\x7d"]],
        some .sample⟩ =
      some [.ofMember 1 "Math" (.echo "Sub"), .ofMember 2 "My_Tools" (.echo "add")] := rfl
  obtain ⟨hresolve, hselect⟩ := resolves_in_any_case hs
  exact ⟨hs, hname, hrecased, (hresolve .sample _ _ hname).trans hsmall,
    (hselect limit rfl _ _ hrecased _ _).symm.trans hselected⟩

end FunctionCalling
