/-
  Other handlers under the same names.

  Nothing on the way of a call to a handler looks at what handlers do: functions are found by their
  names, offered by identity or by name, and their arguments are checked by what is known of them.
  So all handlers of a host may be replaced, those of the registry and those of the candidates that
  are offered (`Invoker.withHandlers`, `Choice.Configuration.withHandlers`), and each lookup finds
  the same function with its new handler (`Registry.get?_withHandlers`).

  If the functions that the calls of a message are permitted to enter keep their handlers, the
  message is dealt with as it was, to the last note (`Invoker.invoke_withHandlers`).  What other
  handlers would have done is of no consequence.

  Only a reader of names could tell the difference, for it is given the registry and may do with it
  as it likes.  The readers that settings describe do not (`PolicySettings.parse_withHandlers`).
-/
import FunctionCalling.Invocation
import FunctionCalling.Settings

namespace FunctionCalling

open FunctionCalling.Choice (Configuration)
open FunctionCalling.Text

/-! ## Replacing handlers -/

/-- A function with another handler. -/
def Callable.withHandlers (h : Callable → Handler) (f : Callable) : Callable :=
  { f with handler := h f }

/-- A plugin whose functions have other handlers. -/
def Plugin.withHandlers (h : Callable → Handler) (p : Plugin) : Plugin :=
  { p with functions := p.functions.map (Callable.withHandlers h) }

/-- A registry whose functions have other handlers. -/
def Registry.withHandlers (h : Callable → Handler) (r : Registry) : Registry :=
  ⟨r.plugins.map (Plugin.withHandlers h)⟩

/-- A configuration whose functions have other handlers. -/
def Choice.Configuration.withHandlers (h : Callable → Handler) (c : Configuration) :
    Configuration :=
  { c with functions := c.functions.map (Callable.withHandlers h) }

/-- An invoker over a registry whose functions have other handlers. -/
def Invoker.withHandlers (h : Callable → Handler) (inv : Invoker) : Invoker :=
  { inv with registry := inv.registry.withHandlers h }

variable (h : Callable → Handler)

namespace Callable

@[simp] theorem metadata_withHandlers (f : Callable) :
    (f.withHandlers h).metadata = f.metadata := rfl

@[simp] theorem sameAs_withHandlers (f g : Callable) :
    (f.withHandlers h).sameAs (g.withHandlers h) = f.sameAs g := rfl

/-- A function that keeps its handler is the same function. -/
theorem withHandlers_eq_self {h : Callable → Handler} {f : Callable} (hkept : h f = f.handler) :
    f.withHandlers h = f := by
  rw [withHandlers, hkept]

end Callable

/-! ## What is found and what is offered -/

theorem Plugin.get?_withHandlers (p : Plugin) (n : String) :
    (p.withHandlers h).get? n = (p.get? n).map (Callable.withHandlers h) := by
  rw [get?, withHandlers, List.find?_map]
  rfl

namespace Registry

theorem plugin?_withHandlers (r : Registry) (n : String) :
    (r.withHandlers h).plugin? n = (r.plugin? n).map (Plugin.withHandlers h) := by
  rw [plugin?, withHandlers, List.find?_map]
  rfl

/-- **A lookup finds the same function**, with its new handler. -/
theorem get?_withHandlers (r : Registry) (plugin : Option String) (n : String) :
    (r.withHandlers h).get? plugin n = (r.get? plugin n).map (Callable.withHandlers h) := by
  unfold get?
  cases Metadata.namedPlugin plugin with
  | some name =>
    simp only [plugin?_withHandlers]
    cases r.plugin? name with
    | none => rfl
    | some p => exact p.get?_withHandlers h n
  | none =>
    rw [withHandlers, List.findSome?_map]
    -- plugin by plugin, up to the first that has the name
    induction r.plugins with
    | nil => rfl
    | cons p plugins ih =>
      simp only [List.findSome?_cons, Function.comp_apply, p.get?_withHandlers h n]
      cases p.get? n with
      | none => exact ih
      | some f => rfl

end Registry

/-- What counted as offered still does. -/
theorem Choice.Configuration.isAdvertised_withHandlers (c : Configuration) (r : Registry)
    (f : Callable) : (c.withHandlers h).isAdvertised (r.withHandlers h) (f.withHandlers h) =
      c.isAdvertised r f := by
  simp only [isAdvertised, withHandlers, List.any_map, Function.comp_def, Registry.entry?,
    Registry.get?_withHandlers, Option.any_map, Callable.sameAs_withHandlers,
    Callable.metadata_withHandlers]

/-- The readers that settings describe ask for names only. -/
theorem PolicySettings.parse_withHandlers (s : PolicySettings) (fqn : String) (r : Registry) :
    s.toPolicy.parse fqn (some (r.withHandlers h)) = s.toPolicy.parse fqn (some r) := by
  unfold Naming.Policy.parse toPolicy
  cases s.nameOnly || s.fallbackSeparators.isEmpty with
  | true => rfl
  | false =>
    simp only [Bool.false_eq_true, if_false, Naming.trySeparators, Naming.Parsed.resolve,
      Registry.get?_withHandlers, Option.isSome_map]

/-! ## What is run -/

namespace Invoker

/-- A call is permitted to enter the same function, or refused with the same complaint. -/
theorem permit_withHandlers (inv : Invoker) (c : Configuration) (call : ParsedCall) :
    (inv.withHandlers h).permit (c.withHandlers h) call =
      (inv.permit c call).map (Callable.withHandlers h) := by
  have hlookup : call.name.resolve (inv.withHandlers h).registry =
      (call.name.resolve inv.registry).map (Callable.withHandlers h) :=
    inv.registry.get?_withHandlers h call.name.plugin call.name.function
  have hoffer : ∀ f, (c.withHandlers h).isAdvertised (inv.withHandlers h).registry
      (f.withHandlers h) = c.isAdvertised inv.registry f := c.isAdvertised_withHandlers h _
  -- the same gate decides, for the same reason
  refine Verdict.permit_eq ?_
  have hverdict := inv.verdict_permit c call
  generalize inv.permit c call = verdict at hverdict ⊢
  cases hverdict with
  | unknown hfound =>
    rw [hfound] at hlookup
    exact .unknown hlookup
  | withheld hfound hoffered hany =>
    rw [hfound] at hlookup
    exact .withheld hlookup ((hoffer _).trans hoffered) hany
  | invalid hfound hpassed hvalidate hcheck =>
    rw [hfound] at hlookup
    exact .invalid hlookup (hpassed.imp_left (hoffer _).trans) hvalidate hcheck
  | passed hfound hpassed hchecked =>
    rw [hfound] at hlookup
    exact .passed hlookup (hpassed.imp_left (hoffer _).trans) hchecked

variable {h}

/-- A call is run the same if what it is permitted to enter keeps its handler. -/
theorem execute_withHandlers {inv : Invoker} {c : Configuration} {call : ParsedCall}
    (hkept : ∀ e, inv.permit c call = .ok e → h e = e.handler) (o : Occasion) :
    (inv.withHandlers h).execute (c.withHandlers h) o call = inv.execute c o call := by
  have hpermit := inv.permit_withHandlers h c call
  cases hcall : inv.permit c call with
  | error complaint =>
    rw [hcall] at hpermit
    rw [execute_of_refused hpermit, execute_of_refused hcall]
  | ok e =>
    rw [hcall, Except.map, Callable.withHandlers_eq_self (hkept e hcall)] at hpermit
    simp only [execute, hpermit, hcall]
    rfl

/-- So are several calls. -/
theorem executions_withHandlers {inv : Invoker} {c : Configuration} {calls : List ParsedCall}
    (hkept : ∀ call ∈ calls, ∀ e, inv.permit c call = .ok e → h e = e.handler) (now : Nat) :
    (inv.withHandlers h).executions (c.withHandlers h) now calls =
      inv.executions c now calls := by
  have hturn : ∀ o, (inv.withHandlers h).executeInTurn (c.withHandlers h) o calls =
      inv.executeInTurn c o calls := by
    induction calls with
    | nil => exact fun _ => rfl
    | cons call calls ih =>
      intro o
      have hcall := execute_withHandlers (hkept call List.mem_cons_self) o
      have hrest := ih fun call hmem => hkept call (List.mem_cons_of_mem _ hmem)
      rw [executeInTurn, executeInTurn, hcall, hrest]
  have htogether : (inv.withHandlers h).executeTogether (c.withHandlers h) now calls =
      inv.executeTogether c now calls := by
    refine List.ext_getElem? fun i => ?_
    simp only [executeTogether, List.getElem?_mapIdx]
    cases hcall : calls[i]? with
    | none => rfl
    | some call =>
      exact congrArg some (execute_withHandlers (hkept call (List.mem_of_getElem? hcall)) _)
  have hinTurn : (inv.withHandlers h).inTurn calls = inv.inTurn calls := rfl
  rw [executions, executions, hinTurn, hturn, htogether]

/-- **Handlers that no call is permitted to enter are of no consequence.**  With any others in
    their place, calls that are read alike are dealt with alike. -/
theorem invoke_withHandlers {inv : Invoker} {c : Configuration} {calls : List ToolCall}
    (hread : ∀ call ∈ calls, inv.policy.parse call.function.name
        (some (inv.registry.withHandlers h)) =
      inv.policy.parse call.function.name (some inv.registry))
    (hkept : c.autoInvoke = true → ∀ call ∈ calls, ∀ e,
      inv.permit c (.ofToolCall inv.policy (some inv.registry) call) = .ok e → h e = e.handler)
    (now : Nat) :
    (inv.withHandlers h).invoke (c.withHandlers h) now calls = inv.invoke c now calls := by
  let parsed := calls.map (ParsedCall.ofToolCall inv.policy (some inv.registry))
  have hcalls : calls.map (ParsedCall.ofToolCall inv.policy (some (inv.registry.withHandlers h))) =
      parsed := by
    refine List.map_congr_left fun call hmem => ?_
    rw [ParsedCall.ofToolCall, ParsedCall.ofToolCall, hread call hmem]
  have hregistry : (inv.withHandlers h).registry = inv.registry.withHandlers h := rfl
  have hpolicy : (inv.withHandlers h).policy = inv.policy := rfl
  have hmode : (c.withHandlers h).autoInvoke = c.autoInvoke := rfl
  simp only [invoke, hmode, hregistry, hpolicy, hcalls]
  cases hauto : c.autoInvoke with
  | false => rfl
  | true =>
    have hruns : (inv.withHandlers h).executions (c.withHandlers h) now parsed =
        inv.executions c now parsed := by
      refine executions_withHandlers ?_ now
      intro parsedCall hparsed e hpermit
      obtain ⟨call, hmem, rfl⟩ := List.mem_map.1 hparsed
      exact hkept hauto call hmem e hpermit
    rw [if_pos rfl, if_pos rfl, hruns]

end Invoker

end FunctionCalling
