/-
  What a behavior comes to, and what it is refused for.

  A host chooses a mode and then makes settings, as many as it likes and in any order.  The
  outcome for a request is a matter of what was set last, kind by kind:

  1. of the settings of each kind the last one counts, and with the mode `none` the two flags
     never do (`functions_setAll`, `selector_setAll`, `permission_setAll`); every behavior there
     is can be made by settings (`exists_settings`);
  2. hence the functions to start from and those to offer (`candidates_setAll`);
  3. a list of functions is refused for its FIRST function that the registry does not hold
     (`checkInvocable_eq_error_iff`), and a behavior for nothing but its list or the lack of a
     registry, and only if calls are to be run (`configuration_eq_error_iff`).
-/
import FunctionCalling.Choice
import FunctionCalling.Proofs.Registering

namespace FunctionCalling.Choice

/-! ## Settings -/

/-- One thing that a host says about a behavior. -/
inductive Setting where
  | functions (functions : List Callable)
  | selector (selector : Selector)
  | autoInvoke (autoInvoke : Bool)
  | allowAny (allowAny : Bool)

namespace Setting

def functions? : Setting → Option (List Callable)
  | functions fs => some fs
  | _ => none

def selector? : Setting → Option Selector
  | selector select => some select
  | _ => none

def autoInvoke? : Setting → Option Bool
  | autoInvoke flag => some flag
  | _ => none

def allowAny? : Setting → Option Bool
  | allowAny flag => some flag
  | _ => none

end Setting

/-- What was said last, of one kind. -/
def lastOf {α : Type} (kind : Setting → Option α) (settings : List Setting) : Option α :=
  (settings.filterMap kind).getLast?

@[simp] theorem lastOf_nil {α : Type} (kind : Setting → Option α) : lastOf kind [] = none := rfl

/-- What is said now counts for more than what was said before. -/
theorem lastOf_append_singleton {α : Type} (kind : Setting → Option α) (settings : List Setting)
    (s : Setting) : lastOf kind (settings ++ [s]) = (kind s).or (lastOf kind settings) := by
  cases h : kind s <;> simp [lastOf, h]

namespace Behavior

/-- The behavior after one thing more has been said about it. -/
def set (b : Behavior) : Setting → Behavior
  | .functions fs => b.withFunctions fs
  | .selector select => b.withSelector select
  | .autoInvoke flag => b.withAutoInvoke flag
  | .allowAny flag => b.withAllowAny flag

/-- The behavior after several things have been said about it. -/
def setAll (b : Behavior) (settings : List Setting) : Behavior :=
  settings.foldl set b

end Behavior

/-! ## The last setting counts -/

namespace Use

@[simp] theorem mode_mapPermission (f : Permission → Permission) (u : Use) :
    (u.mapPermission f).mode = u.mode := by
  cases u <;> rfl

/-- Only with a mode that may lead to invocation is a permission kept. -/
theorem permission_mapPermission (f : Permission → Permission) {u : Use} (hu : u.mode ≠ .none) :
    (u.mapPermission f).permission = f u.permission := by
  cases u with
  | auto p => rfl
  | required p => rfl
  | none => exact absurd rfl hu

theorem permission_of_mode_eq_none {u : Use} (hu : u.mode = .none) :
    u.permission = ⟨false, false⟩ := by
  cases u with
  | auto p => cases hu
  | required p => cases hu
  | none => rfl

end Use

namespace Behavior

@[simp] theorem mode_set (b : Behavior) (s : Setting) : (b.set s).use.mode = b.use.mode := by
  cases s with
  | functions fs => rfl
  | selector select => rfl
  | autoInvoke flag => exact Use.mode_mapPermission _ _
  | allowAny flag => exact Use.mode_mapPermission _ _

theorem setAll_append_singleton (b : Behavior) (settings : List Setting) (s : Setting) :
    b.setAll (settings ++ [s]) = (b.setAll settings).set s := by
  simp [setAll]

/-- Nothing that is said later changes the mode. -/
@[simp] theorem mode_setAll (b : Behavior) (settings : List Setting) :
    (b.setAll settings).use.mode = b.use.mode := by
  induction settings using List.reverseRecOn with
  | nil => rfl
  | append_singleton settings s ih => rw [setAll_append_singleton, mode_set, ih]

/-- **Of each kind the last setting counts.**  Where a part of a behavior follows the settings of
    one kind, it is in the end what the last of them said, or what it was at first. -/
theorem part_setAll {α : Type} (kind : Setting → Option α) (part : Behavior → Option α)
    (hset : ∀ b s, part (b.set s) = (kind s).or (part b)) (b : Behavior)
    (settings : List Setting) :
    part (b.setAll settings) = (lastOf kind settings).or (part b) := by
  induction settings using List.reverseRecOn with
  | nil => rfl
  | append_singleton settings s ih =>
    rw [setAll_append_singleton, hset, ih, lastOf_append_singleton, Option.or_assoc]

theorem functions_setAll (b : Behavior) (settings : List Setting) :
    (b.setAll settings).functions = (lastOf Setting.functions? settings).or b.functions := by
  refine part_setAll Setting.functions? Behavior.functions ?_ b settings
  intro b s
  cases s <;> rfl

theorem selector_setAll (b : Behavior) (settings : List Setting) :
    (b.setAll settings).selector = (lastOf Setting.selector? settings).or b.selector := by
  refine part_setAll Setting.selector? Behavior.selector ?_ b settings
  intro b s
  cases s <;> rfl

/-- With a mode that may lead to invocation, a setting says what it says about the flags. -/
theorem permission_set {b : Behavior} (hb : b.use.mode ≠ .none) (s : Setting) :
    (b.set s).use.permission =
      ⟨s.autoInvoke?.getD b.use.permission.autoInvoke,
        s.allowAny?.getD b.use.permission.allowAny⟩ := by
  cases s with
  | functions fs => rfl
  | selector select => rfl
  | autoInvoke flag => exact Use.permission_mapPermission _ hb
  | allowAny flag => exact Use.permission_mapPermission _ hb

/-- The same of several settings: the last of each kind counts.  The flags are no part in the
    sense of `part_setAll`, for they follow the settings only as long as the mode lets them. -/
theorem permission_setAll {b : Behavior} (hb : b.use.mode ≠ .none) (settings : List Setting) :
    (b.setAll settings).use.permission =
      ⟨(lastOf Setting.autoInvoke? settings).getD b.use.permission.autoInvoke,
        (lastOf Setting.allowAny? settings).getD b.use.permission.allowAny⟩ := by
  induction settings using List.reverseRecOn with
  | nil => rfl
  | append_singleton settings s ih =>
    have hmode : (b.setAll settings).use.mode ≠ .none := by
      rwa [mode_setAll]
    rw [setAll_append_singleton, permission_set hmode, ih]
    simp only [lastOf_append_singleton, Option.getD_or]

/-- Every behavior can be made by settings. -/
theorem exists_settings (b : Behavior) :
    ∃ settings, (ofMode b.use.mode).setAll settings = b := by
  obtain ⟨use, functions, selector⟩ := b
  refine ⟨(functions.map Setting.functions).toList ++ (selector.map Setting.selector).toList ++
    [.autoInvoke use.permission.autoInvoke, .allowAny use.permission.allowAny], ?_⟩
  cases use <;> cases functions <;> cases selector <;> rfl

end Behavior

/-! ## What was asked for -/

/-- The functions to start from: those that were named last, else those of the registry, if there
    is one. -/
def requestedBase (settings : List Setting) (registry : Option Registry) : List Callable :=
  match lastOf Setting.functions? settings, registry with
  | some fs, _ => fs
  | none, some r => r.functions
  | none, none => []

/-- The functions to offer: those that the last selector answers with, else those to start from. -/
def requestedFunctions (settings : List Setting) (registry : Option Registry) (history : History) :
    List Callable :=
  let base := requestedBase settings registry
  match lastOf Setting.selector? settings with
  | none => base
  | some select =>
    match select ⟨base, history, registry⟩ with
    | some fs => fs
    | none => base

/-- Calls are to be run: the mode allows for it, and it was not switched off in the end. -/
def requestsInvocation (mode : Mode) (settings : List Setting) : Bool :=
  mode ≠ .none && (lastOf Setting.autoInvoke? settings).getD true

/-- Calls of functions that were not offered are to be run: the mode allows for it, and it was
    switched on in the end. -/
def requestsAny (mode : Mode) (settings : List Setting) : Bool :=
  mode ≠ .none && (lastOf Setting.allowAny? settings).getD false

namespace Behavior

@[simp] theorem mode_ofMode (mode : Mode) : (ofMode mode).use.mode = mode := by
  cases mode <;> rfl

@[simp] theorem functions_ofMode (mode : Mode) : (ofMode mode).functions = none := by
  cases mode <;> rfl

@[simp] theorem selector_ofMode (mode : Mode) : (ofMode mode).selector = none := by
  cases mode <;> rfl

theorem permission_ofMode {mode : Mode} (hmode : mode ≠ .none) :
    (ofMode mode).use.permission = Permission.default := by
  cases mode with
  | auto => rfl
  | required => rfl
  | none => exact absurd rfl hmode

theorem base_setAll (mode : Mode) (settings : List Setting) (registry : Option Registry) :
    ((ofMode mode).setAll settings).base registry = requestedBase settings registry := by
  simp only [base, functions_setAll, functions_ofMode, requestedBase]
  cases lastOf Setting.functions? settings <;> cases registry <;> rfl

theorem candidates_setAll (mode : Mode) (settings : List Setting) (registry : Option Registry)
    (history : History) :
    ((ofMode mode).setAll settings).candidates registry history =
      requestedFunctions settings registry history := by
  rw [candidates, base_setAll, selector_setAll, selector_ofMode, requestedFunctions]
  cases lastOf Setting.selector? settings with
  | none => rfl
  | some select =>
    simp only [Option.or_none]
    cases select ⟨requestedBase settings registry, history, registry⟩ <;> rfl

theorem permission_ofMode_setAll (mode : Mode) (settings : List Setting) :
    ((ofMode mode).setAll settings).use.permission =
      ⟨requestsInvocation mode settings, requestsAny mode settings⟩ := by
  by_cases hmode : mode = .none
  · subst hmode
    exact Use.permission_of_mode_eq_none (mode_setAll _ _)
  · have hb : (ofMode mode).use.mode ≠ .none := by
      rwa [mode_ofMode]
    rw [permission_setAll hb, permission_ofMode hmode]
    simp [requestsInvocation, requestsAny, hmode, Permission.default]

/-! ## Refusals -/

/-- A list of functions is refused for the first that the registry does not hold. -/
theorem checkInvocable_eq_error_iff {functions : List Callable} {r : Registry} {fault : Error} :
    checkInvocable functions (some r) = .error fault ↔
      ∃ before f after, functions = before ++ f :: after ∧
        (∀ g ∈ before, r.contains g.metadata = true) ∧ r.contains f.metadata = false ∧
        fault = .functionNotAvailable f.qualifiedName := by
  cases hfind : functions.find? fun f => !r.contains f.metadata with
  | none =>
    simp only [checkInvocable, hfind, reduceCtorEq, false_iff]
    rintro ⟨before, f, after, rfl, -, hmissing, -⟩
    have hheld := List.find?_eq_none.1 hfind f (by simp)
    rw [hmissing] at hheld
    exact hheld rfl
  | some f =>
    simp only [checkInvocable, hfind, Except.error.injEq]
    constructor
    · rintro rfl
      obtain ⟨hmissing, before, after, rfl, hbefore⟩ := List.find?_eq_some_iff_append.1 hfind
      refine ⟨before, f, after, rfl, ?_, by simpa using hmissing, rfl⟩
      intro g hg
      simpa using hbefore g hg
    · rintro ⟨before, g, after, rfl, hbefore, hmissing, rfl⟩
      -- the search passes over what the registry holds and stops at the first that it does not
      have hfirst : (before ++ g :: after).find? (fun f => !r.contains f.metadata) = some g := by
        refine List.find?_eq_some_iff_append.2 ⟨by simp [hmissing], before, after, rfl, ?_⟩
        intro a ha
        simp [hbefore a ha]
      rw [hfirst] at hfind
      rw [Option.some.inj hfind]

/-- A behavior is refused when calls are to be run and its functions cannot be invoked. -/
theorem configuration_eq_error_iff {b : Behavior} {registry : Option Registry}
    {history : History} {fault : Error} :
    b.configuration registry history = .error fault ↔
      b.use.permission.autoInvoke = true ∧
        checkInvocable (b.candidates registry history) registry = .error fault := by
  unfold configuration
  by_cases hauto : b.use.permission.autoInvoke = true
  · cases hcheck : checkInvocable (b.candidates registry history) registry with
    | error e => simp [hauto, hcheck, bind, Except.bind]
    | ok u => simp [hauto, hcheck, bind, Except.bind, pure, Except.pure]
  · simp [hauto, pure, Except.pure]

/-- Want of a registry is the reason whenever there is none, even with no functions at all. -/
theorem checkInvocable_eq_withoutRegistry_iff {functions : List Callable}
    {registry : Option Registry} :
    checkInvocable functions registry = .error .autoInvokeWithoutRegistry ↔ registry = none := by
  cases registry with
  | none => simp [checkInvocable]
  | some r => simp [checkInvocable_eq_error_iff]

theorem checkInvocable_eq_notAvailable_iff {functions : List Callable}
    {registry : Option Registry} {name : String} :
    checkInvocable functions registry = .error (.functionNotAvailable name) ↔
      ∃ r, registry = some r ∧ ∃ before f after, functions = before ++ f :: after ∧
        (∀ g ∈ before, r.contains g.metadata = true) ∧ r.contains f.metadata = false ∧
        name = f.qualifiedName := by
  cases registry with
  | none => simp [checkInvocable]
  | some r => simp [checkInvocable_eq_error_iff]

/-- Some function is missing exactly when there is a first that is. -/
theorem exists_notAvailable_iff {functions : List Callable} {registry : Option Registry} :
    (∃ name, checkInvocable functions registry = .error (.functionNotAvailable name)) ↔
      ∃ r, registry = some r ∧ ∃ f ∈ functions, r.contains f.metadata = false := by
  constructor
  · rintro ⟨name, hrefused⟩
    obtain ⟨r, rfl, before, f, after, rfl, -, hmissing, -⟩ :=
      checkInvocable_eq_notAvailable_iff.1 hrefused
    exact ⟨r, rfl, f, by simp, hmissing⟩
  · rintro ⟨r, rfl, f, hf, hmissing⟩
    cases hcheck : checkInvocable functions (some r) with
    | ok u =>
      obtain ⟨r', hr', hall⟩ := checkInvocable_eq_ok_iff.1 hcheck
      obtain rfl := Option.some.inj hr'
      rw [hall f hf] at hmissing
      cases hmissing
    | error fault =>
      obtain ⟨-, g, -, -, -, -, rfl⟩ := checkInvocable_eq_error_iff.1 hcheck
      exact ⟨_, rfl⟩

/-- There are no other reasons. -/
theorem fault_of_checkInvocable {functions : List Callable} {registry : Option Registry}
    {fault : Error} (h : checkInvocable functions registry = .error fault) :
    fault = .autoInvokeWithoutRegistry ∨ ∃ name, fault = .functionNotAvailable name := by
  cases registry with
  | none =>
    cases h
    exact Or.inl rfl
  | some r =>
    obtain ⟨-, f, -, -, -, -, rfl⟩ := checkInvocable_eq_error_iff.1 h
    exact Or.inr ⟨_, rfl⟩

end Behavior

/-- **A behavior comes to a configuration or is refused for one of two reasons.**  Make a behavior
    of any mode by any settings; every behavior can be made so.  For any registry or none, and any
    history,

    1. it is refused for want of a registry exactly when calls are to be run and there is none;
    2. it is refused for a function exactly when calls are to be run, there is a registry, and it
       does not hold one of the functions to offer; the function named is the first of these, and
       the registry holds all before it;
    3. it comes to a configuration exactly when calls are not to be run or the registry holds all
       the functions to offer; the configuration has the mode, these very functions, and the flags
       that were asked for;
    4. there is no other outcome. -/
theorem configuration_outcomes (mode : Mode) (settings : List Setting)
    (registry : Option Registry) (history : History) :
    let outcome := ((Behavior.ofMode mode).setAll settings).configuration registry history
    let functions := requestedFunctions settings registry history
    let invocation := requestsInvocation mode settings
    (∀ b : Behavior, ∃ settings, (Behavior.ofMode b.use.mode).setAll settings = b) ∧
    (outcome = .error .autoInvokeWithoutRegistry ↔ invocation = true ∧ registry = none) ∧
    ((∃ name, outcome = .error (.functionNotAvailable name)) ↔
      invocation = true ∧ ∃ r, registry = some r ∧
        ∃ f ∈ functions, r.contains f.metadata = false) ∧
    (∀ name, outcome = .error (.functionNotAvailable name) ↔
      invocation = true ∧ ∃ r, registry = some r ∧
        ∃ before f after, functions = before ++ f :: after ∧
          (∀ g ∈ before, r.contains g.metadata = true) ∧ r.contains f.metadata = false ∧
          name = f.qualifiedName) ∧
    (∀ c, outcome = .ok c ↔
      (invocation = true →
        ∃ r, registry = some r ∧ ∀ f ∈ functions, r.contains f.metadata = true) ∧
      c = ⟨mode, functions, invocation, requestsAny mode settings⟩) ∧
    (outcome = .error .autoInvokeWithoutRegistry ∨
      (∃ name, outcome = .error (.functionNotAvailable name)) ∨ ∃ c, outcome = .ok c) := by
  intro outcome functions invocation
  have hpermission := Behavior.permission_ofMode_setAll mode settings
  have hfunctions := Behavior.candidates_setAll mode settings registry history
  have hmode : ((Behavior.ofMode mode).setAll settings).use.mode = mode := by simp
  have hrefused : ∀ fault, outcome = .error fault ↔
      invocation = true ∧ Behavior.checkInvocable functions registry = .error fault := by
    intro fault
    rw [Behavior.configuration_eq_error_iff, hpermission, hfunctions]
  have hsettled : ∀ c, outcome = .ok c ↔
      (invocation = true → ∃ r, registry = some r ∧ ∀ f ∈ functions, r.contains f.metadata = true) ∧
      c = ⟨mode, functions, invocation, requestsAny mode settings⟩ := by
    intro c
    rw [Behavior.configuration_eq_ok_iff, hpermission, hfunctions, hmode,
      Behavior.checkInvocable_eq_ok_iff]
  refine ⟨Behavior.exists_settings, ?_, ?_, ?_, hsettled, ?_⟩
  · rw [hrefused, Behavior.checkInvocable_eq_withoutRegistry_iff]
  · simp only [hrefused, exists_and_left, Behavior.exists_notAvailable_iff]
  · intro name
    rw [hrefused, Behavior.checkInvocable_eq_notAvailable_iff]
  · cases houtcome : outcome with
    | ok c => exact Or.inr (Or.inr ⟨c, rfl⟩)
    | error fault =>
      obtain ⟨-, hcheck⟩ := (hrefused fault).1 houtcome
      rcases Behavior.fault_of_checkInvocable hcheck with rfl | ⟨name, rfl⟩
      · exact Or.inl rfl
      · exact Or.inr (Or.inl ⟨name, rfl⟩)

/-- Calls are switched off and on again, and a selector puts two strangers behind the functions of
    the registry: the first of the two is named. -/
theorem configuration_outcomes_strangers :
    let strangers : List Callable :=
      [.ofMember 7 "Other" (.echo "Thing"), .ofDraft 8 (.echo "Nothing")]
    let settings : List Setting :=
      [.autoInvoke false, .selector fun s => some (s.candidates ++ strangers), .autoInvoke true]
    requestsInvocation .required settings = true ∧
      ((Behavior.ofMode .required).setAll settings).configuration (some .sample) [] =
        .error (.functionNotAvailable "Other.Thing") := by
  intro strangers settings
  have hinvocation : requestsInvocation .required settings = true := rfl
  have hfunctions : requestedFunctions settings (some .sample) [] =
      Registry.sample.functions ++ strangers := rfl
  have hheld : ∀ g ∈ Registry.sample.functions, Registry.sample.contains g.metadata = true := by
    decide
  refine ⟨hinvocation, ?_⟩
  refine ((configuration_outcomes .required settings (some .sample) []).2.2.2.1 "Other.Thing").2
    ⟨hinvocation, .sample, rfl, Registry.sample.functions, _, _, hfunctions, hheld, ?_, ?_⟩
  · decide
  · decide +kernel

end FunctionCalling.Choice
