/-
  What a host has registered is what it was granted.

  A `Ledger` is the plain account of a run: the plugins under construction, the registry and the
  registry put aside, each as lists of what the host supplied.  `Ledger.grant` enters a step and
  checks nothing; a ledger has no identities either.  A registration keeps such a ledger behind
  its checks:

  1. a step that is granted does to the registration what `grant` does to the ledger, and any
     other step changes nothing but the next identity (`granted_or_unchanged`); hence a run leaves
     the ledger of its granted steps (`ledger_run`);
  2. a step is granted exactly when the plugin it names is there and the ledger it would leave is
     fit (`isGranted_iff`).  The checks, made one function at a time and with an early exit,
     refuse what would break the invariant and nothing else.

  Identities are apart from this.  A callable may stand in many places at once, but in one plugin
  or registry no callable stands twice, so there the identities are distinct
  (`Callable.ToldApart.nodup_ids`).
-/
import FunctionCalling.Proofs.Registering

namespace FunctionCalling

open FunctionCalling.Text

/-! ## Without identities -/

/-- A function without its identity. -/
def Callable.draft (f : Callable) : Draft :=
  ⟨f.metadata, f.handler⟩

/-- A draft under the name of a plugin, whatever plugin it named before. -/
def Draft.inPlugin (draft : Draft) (plugin : String) : Draft :=
  ⟨draft.metadata.inPlugin plugin, draft.handler⟩

namespace PluginDraft

/-- The plugin with several functions more, under its name. -/
def append (a : PluginDraft) (drafts : List Draft) : PluginDraft :=
  { a with functions := a.functions ++ drafts.map fun draft => draft.inPlugin a.name }

/-- A plugin with just these functions, under its name. -/
def ofFunctions (name : String) (drafts : List Draft) : PluginDraft :=
  append ⟨name, "", []⟩ drafts

theorem append_append (a : PluginDraft) (ds es : List Draft) :
    (a.append ds).append es = a.append (ds ++ es) := by
  simp [append]

/-- What a plugin has to be like: `Plugin.WellFormed` said of what the host supplied. -/
structure Fit (a : PluginDraft) : Prop where
  isName : isName a.name = true
  members_isName : ∀ d ∈ a.functions, Text.isName d.metadata.name = true
  stamped : ∀ d ∈ a.functions, d.metadata.pluginName = some a.name
  distinct : (a.functions.map fun d => fold d.metadata.name).Nodup

/-- With fewer functions a plugin is fit all the more. -/
theorem Fit.of_append {a : PluginDraft} {ds es : List Draft} (h : (a.append (ds ++ es)).Fit) :
    (a.append ds).Fit := by
  have hsub : (a.append ds).functions.Sublist (a.append (ds ++ es)).functions := by
    simp [append]
  exact ⟨h.isName, fun d hd => h.members_isName d (hsub.mem hd),
    fun d hd => h.stamped d (hsub.mem hd), h.distinct.sublist (hsub.map _)⟩

end PluginDraft

namespace Plugin

/-- A plugin without identities. -/
def draft (p : Plugin) : PluginDraft :=
  ⟨p.name, p.description, p.functions.map Callable.draft⟩

theorem fit_draft_iff {p : Plugin} : p.draft.Fit ↔ p.WellFormed := by
  have hmap : p.draft.functions.map (fun d => fold d.metadata.name) =
      p.functions.map fun f => fold f.name := by
    simp only [draft, List.map_map]
    rfl
  constructor
  · rintro ⟨hname, hmembers, hstamped, hdistinct⟩
    exact ⟨hname, fun f hf => hmembers f.draft (List.mem_map_of_mem hf),
      fun f hf => hstamped f.draft (List.mem_map_of_mem hf), hmap ▸ hdistinct⟩
  · rintro ⟨hname, hmembers, hstamped, hdistinct⟩
    exact ⟨hname, List.forall_mem_map.2 hmembers, List.forall_mem_map.2 hstamped,
      hmap.symm ▸ hdistinct⟩

theorem map_draft_members (id : Nat) (plugin : String) (drafts : List Draft) :
    (members id plugin drafts).map Callable.draft = drafts.map fun d => d.inPlugin plugin := by
  induction drafts generalizing id with
  | nil => rfl
  | cons draft drafts ih =>
    rw [members, List.map_cons, List.map_cons, ih]
    rfl

theorem draft_of_addAll {p q : Plugin} {id : Nat} {drafts : List Draft}
    (h : p.addAll id drafts = .ok q) : q.draft = p.draft.append drafts := by
  rw [eq_of_addAll h]
  simp [draft, PluginDraft.append, map_draft_members]

theorem draft_of_add {p q : Plugin} {id : Nat} {draft : Draft} (h : p.add id draft = .ok q) :
    q.draft = p.draft.append [draft] := by
  obtain ⟨-, -, rfl⟩ := add_eq_ok_iff.1 h
  simp [Plugin.draft, PluginDraft.append, Callable.draft, Callable.ofMember, Draft.inPlugin]

theorem ofDrafts_eq_ok_iff {id : Nat} {name : String} {drafts : List Draft} {p : Plugin} :
    ofDrafts id name drafts = .ok p ↔
      isName name = true ∧ (Plugin.mk name "" []).addAll id drafts = .ok p := by
  by_cases hname : isName name = true
  · simp [ofDrafts, create, checkName, hname, bind, Except.bind, pure, Except.pure]
  · simp [ofDrafts, create, checkName, hname, bind, Except.bind]

theorem ofDrafts_eq_error_iff {id : Nat} {name : String} {drafts : List Draft} {fault : Error} :
    ofDrafts id name drafts = .error fault ↔
      (isName name = false ∧ fault = .invalidName name) ∨
      (isName name = true ∧ (Plugin.mk name "" []).addAll id drafts = .error fault) := by
  cases hname : isName name with
  | false =>
    simp only [ofDrafts, create, checkName, hname, bind, Except.bind, Bool.false_eq_true, if_false,
      Except.error.injEq, true_and, false_and, or_false]
    exact eq_comm
  | true => simp [ofDrafts, create, checkName, hname, bind, Except.bind, pure, Except.pure]

theorem draft_of_ofDrafts {p : Plugin} {id : Nat} {name : String} {drafts : List Draft}
    (h : ofDrafts id name drafts = .ok p) : p.draft = .ofFunctions name drafts :=
  draft_of_addAll (ofDrafts_eq_ok_iff.1 h).2

/-! ## What the checks let pass -/

/-- A function is taken in when the plugin is fit with it. -/
theorem exists_add_of_fit {p : Plugin} {draft : Draft} (h : (p.draft.append [draft]).Fit)
    (id : Nat) : ∃ q, p.add id draft = .ok q := by
  have hmem : draft.inPlugin p.name ∈ (p.draft.append [draft]).functions := by
    simp [PluginDraft.append, Plugin.draft]
  have hname : isName draft.metadata.name = true :=
    h.members_isName (draft.inPlugin p.name) hmem
  have hdistinct : ((p.functions ++ [Callable.ofMember id p.name draft]).map fun f =>
      fold f.name).Nodup := by
    have hfit := h.distinct
    simp only [PluginDraft.append, Plugin.draft, List.map_append, List.map_map] at hfit
    rw [List.map_append]
    exact hfit
  have hnew : p.get? draft.metadata.name = none := (nodup_concat_iff.1 hdistinct).2
  exact ⟨_, add_eq_ok_iff.2 ⟨hname, hnew, rfl⟩⟩

/-- Several functions are taken in when the plugin is fit with all of them: none of the checks on
    the way fails. -/
theorem exists_addAll_of_fit {p : Plugin} {drafts : List Draft} (h : (p.draft.append drafts).Fit)
    (id : Nat) : ∃ q, p.addAll id drafts = .ok q := by
  induction drafts generalizing p id with
  | nil => exact ⟨p, rfl⟩
  | cons draft drafts ih =>
    have hsplit : (p.draft.append ([draft] ++ drafts)).Fit := h
    obtain ⟨p', hadd⟩ := exists_add_of_fit hsplit.of_append id
    have htail : (p'.draft.append drafts).Fit := by
      rw [draft_of_add hadd, PluginDraft.append_append]
      exact h
    obtain ⟨q, hq⟩ := ih htail (id + 1)
    refine ⟨q, ?_⟩
    simp only [addAll, hadd, bind, Except.bind]
    exact hq

theorem exists_ofDrafts_of_fit {name : String} {drafts : List Draft}
    (h : (PluginDraft.ofFunctions name drafts).Fit) (id : Nat) :
    ∃ p, ofDrafts id name drafts = .ok p := by
  obtain ⟨p, hp⟩ := exists_addAll_of_fit (p := ⟨name, "", []⟩) h id
  exact ⟨p, ofDrafts_eq_ok_iff.2 ⟨h.isName, hp⟩⟩

end Plugin

namespace Registry

/-- A plugin is taken in when its name is new. -/
theorem exists_add_of_distinct {r : Registry} {p : Plugin}
    (h : ((r.plugins ++ [p]).map fun q => fold q.name).Nodup) : ∃ s, r.add p = .ok s := by
  exact ⟨_, add_eq_ok_iff.2 ⟨(nodup_concat_iff.1 h).2, rfl⟩⟩

end Registry

/-! ## The ledger -/

/-- What was supplied to a registration, with nothing checked. -/
structure Ledger where
  plugins : List PluginDraft
  registry : List PluginDraft
  saved : List PluginDraft

namespace Registration

/-- Whether a step was taken. -/
def Reply.isGranted : Reply → Bool
  | .created _ | .added _ | .done => true
  | .refused _ | .noSuchPlugin => false

/-- The plugin under construction that a step names. -/
def Step.plugin? : Step → Option Nat
  | .copy plugin | .describe plugin _ | .add plugin _ | .register plugin => some plugin
  | .create .. | .createFrom .. | .addFunctions .. | .save | .restore => none

/-- The steps of a run that were granted. -/
def granted (s : Registration) : List Step → List Step
  | [] => []
  | step :: steps =>
    if (s.apply step).1.isGranted then step :: (s.apply step).2.granted steps
    else (s.apply step).2.granted steps

/-- The ledger behind a registration. -/
def ledger (s : Registration) : Ledger :=
  ⟨s.plugins.map Plugin.draft, s.registry.plugins.map Plugin.draft,
    s.saved.plugins.map Plugin.draft⟩

end Registration

namespace Ledger

/-- Nothing supplied yet. -/
def empty : Ledger :=
  ⟨[], [], []⟩

/-- Enters a step.  Where the step names a plugin that is not there, nothing is entered. -/
def grant (l : Ledger) : Registration.Step → Ledger
  | .create name description =>
    { l with plugins := l.plugins ++ [⟨name, description.getD "", []⟩] }
  | .createFrom name functions =>
    { l with plugins := l.plugins ++ [.ofFunctions name functions] }
  | .copy plugin => { l with plugins := l.plugins ++ l.plugins[plugin]?.toList }
  | .describe plugin description =>
    { l with plugins := l.plugins.modify plugin fun a => { a with description := description } }
  | .add plugin function =>
    { l with plugins := l.plugins.modify plugin fun a => a.append [function] }
  | .register plugin => { l with registry := l.registry ++ l.plugins[plugin]?.toList }
  | .addFunctions name functions =>
    { l with registry := l.registry ++ [.ofFunctions name functions] }
  | .save => { l with saved := l.registry }
  | .restore => { l with registry := l.saved }

/-- The ledger of several steps. -/
def ofSteps (steps : List Registration.Step) : Ledger :=
  steps.foldl grant empty

/-- All functions in the registry, plugin by plugin. -/
def functions (l : Ledger) : List Draft :=
  l.registry.flatMap PluginDraft.functions

/-- What a ledger has to be like: all plugins are fit, and no two in the registry go by one
    name. -/
structure Fit (l : Ledger) : Prop where
  plugins : ∀ a ∈ l.plugins, a.Fit
  registry : ∀ a ∈ l.registry, a.Fit
  distinct : (l.registry.map fun a => fold a.name).Nodup

end Ledger

/-! ## Steps and runs -/

/-- Another element in the place of one, seen through a function. -/
theorem map_set_eq_modify {α β : Type} {g : α → β} {h : β → β} {l : List α} {i : Nat} {a b : α}
    (ha : l[i]? = some a) (hb : g b = h (g a)) : (l.set i b).map g = (l.map g).modify i h := by
  have hget : (l.map g)[i]? = some (g a) := by
    rw [List.getElem?_map, ha]
    rfl
  rw [List.map_set, List.modify_eq_set_getElem?, hget, hb]
  rfl

namespace Registration

variable {s : Registration}

/-- **One step.**  It is granted, and then it names no plugin that is not there and does what the
    ledger says; or it changes nothing but the next identity. -/
theorem granted_or_unchanged (s : Registration) (step : Step) :
    ((s.apply step).1.isGranted = true ∧ (∀ i ∈ step.plugin?, i < s.plugins.length) ∧
      (s.apply step).2.ledger = s.ledger.grant step) ∨
    ((s.apply step).1.isGranted = false ∧
      (s.apply step).2 = { s with next := (s.apply step).2.next }) := by
  have hthere : ∀ {i : Nat} {p : Plugin}, s.plugins[i]? = some p →
      ∀ j ∈ some i, j < s.plugins.length := by
    intro i p hget j hj
    obtain rfl := Option.mem_some_iff.1 hj
    exact (List.getElem?_eq_some_iff.1 hget).1
  have hnone : ∀ j ∈ (none : Option Nat), j < s.plugins.length := by
    intro j hj
    cases hj
  cases step with
  | create name description =>
    simp only [apply]
    split
    · exact Or.inr ⟨rfl, rfl⟩
    next p hcreate =>
      obtain ⟨-, rfl⟩ := Plugin.create_eq_ok_iff.1 hcreate
      refine Or.inl ⟨rfl, hnone, ?_⟩
      simp [ledger, Ledger.grant, Plugin.draft, Plugin.withDescription]
  | createFrom name functions =>
    simp only [apply]
    split
    · exact Or.inr ⟨rfl, rfl⟩
    next p hmade =>
      refine Or.inl ⟨rfl, hnone, ?_⟩
      simp [ledger, Ledger.grant, Plugin.draft_of_ofDrafts hmade]
  | copy plugin =>
    simp only [apply]
    split
    · exact Or.inr ⟨rfl, rfl⟩
    next p hget =>
      refine Or.inl ⟨rfl, hthere hget, ?_⟩
      simp [ledger, Ledger.grant, hget]
  | describe plugin description =>
    simp only [apply]
    split
    · exact Or.inr ⟨rfl, rfl⟩
    next p hget =>
      refine Or.inl ⟨rfl, hthere hget, ?_⟩
      have hplugins : (s.plugins.set plugin (p.withDescription description)).map Plugin.draft =
          (s.plugins.map Plugin.draft).modify plugin fun a => { a with description } :=
        map_set_eq_modify hget rfl
      simp only [ledger, Ledger.grant, hplugins]
  | add plugin function =>
    simp only [apply]
    split
    · exact Or.inr ⟨rfl, rfl⟩
    next p hget =>
      split
      · exact Or.inr ⟨rfl, rfl⟩
      next q hadd =>
        refine Or.inl ⟨rfl, hthere hget, ?_⟩
        have hplugins : (s.plugins.set plugin q).map Plugin.draft =
            (s.plugins.map Plugin.draft).modify plugin fun a => a.append [function] :=
          map_set_eq_modify hget (Plugin.draft_of_add hadd)
        simp only [ledger, Ledger.grant, hplugins]
  | register plugin =>
    simp only [apply]
    split
    · exact Or.inr ⟨rfl, rfl⟩
    next p hget =>
      split
      · exact Or.inr ⟨rfl, rfl⟩
      next r hadd =>
        obtain ⟨-, rfl⟩ := Registry.add_eq_ok_iff.1 hadd
        refine Or.inl ⟨rfl, hthere hget, ?_⟩
        simp [ledger, Ledger.grant, hget]
  | addFunctions name functions =>
    simp only [apply]
    split
    · exact Or.inr ⟨rfl, rfl⟩
    next r hadded =>
      obtain ⟨p, hmade, hadd⟩ := Registry.addDrafts_eq_ok_iff.1 hadded
      obtain ⟨-, rfl⟩ := Registry.add_eq_ok_iff.1 hadd
      refine Or.inl ⟨rfl, hnone, ?_⟩
      simp [ledger, Ledger.grant, Plugin.draft_of_ofDrafts hmade]
  | save => exact Or.inl ⟨rfl, hnone, rfl⟩
  | restore => exact Or.inl ⟨rfl, hnone, rfl⟩

theorem unchanged_of_not_granted {step : Step} (h : (s.apply step).1.isGranted = false) :
    (s.apply step).2 = { s with next := (s.apply step).2.next } := by
  rcases s.granted_or_unchanged step with ⟨hgranted, -⟩ | ⟨-, hsame⟩
  · rw [h] at hgranted
    cases hgranted
  · exact hsame

/-- **A run leaves the ledger of its granted steps.** -/
theorem ledger_run (s : Registration) (steps : List Step) :
    (s.run steps).ledger = (s.granted steps).foldl Ledger.grant s.ledger := by
  induction steps generalizing s with
  | nil => rfl
  | cons step steps ih =>
    have hrun : (s.run (step :: steps)).ledger = ((s.apply step).2.run steps).ledger := rfl
    rw [hrun, ih, granted]
    rcases s.granted_or_unchanged step with ⟨hgranted, -, hledger⟩ | ⟨hrefused, hsame⟩
    · rw [if_pos hgranted, List.foldl_cons, hledger]
    · have hledger : (s.apply step).2.ledger = s.ledger := by
        rw [hsame]
        rfl
      rw [if_neg (Bool.eq_false_iff.1 hrefused), hledger]

/-! ## Granted means fit -/

theorem Sound.fit_ledger (hs : s.Sound) : s.ledger.Fit where
  plugins := List.forall_mem_map.2 fun p hp => Plugin.fit_draft_iff.2 (hs.plugins p hp)
  registry := List.forall_mem_map.2 fun p hp => Plugin.fit_draft_iff.2 (hs.registry.plugins p hp)
  distinct := by
    simp only [ledger, List.map_map]
    exact hs.registry.distinct

/-- A step is granted when it names no plugin that is not there and leaves the ledger fit. -/
theorem isGranted_of_fit {step : Step} (hthere : ∀ i ∈ step.plugin?, i < s.plugins.length)
    (hfit : (s.ledger.grant step).Fit) : (s.apply step).1.isGranted = true := by
  have hget : ∀ i, step.plugin? = some i → ∃ p, s.plugins[i]? = some p := fun i hi =>
    ⟨_, List.getElem?_eq_getElem (hthere i hi)⟩
  cases step with
  | create name description =>
    have hnew := hfit.plugins ⟨name, description.getD "", []⟩
      (List.mem_append_right _ List.mem_cons_self)
    have hcreate := Plugin.create_eq_ok_iff.2 ⟨hnew.isName, rfl⟩
    simp only [apply, hcreate, Reply.isGranted]
  | createFrom name functions =>
    have hnew := hfit.plugins (.ofFunctions name functions)
      (List.mem_append_right _ List.mem_cons_self)
    obtain ⟨p, hmade⟩ := Plugin.exists_ofDrafts_of_fit hnew s.next
    simp only [apply, hmade, Reply.isGranted]
  | copy plugin =>
    obtain ⟨p, hp⟩ := hget plugin rfl
    simp only [apply, hp, Reply.isGranted]
  | describe plugin description =>
    obtain ⟨p, hp⟩ := hget plugin rfl
    simp only [apply, hp, Reply.isGranted]
  | add plugin function =>
    obtain ⟨p, hp⟩ := hget plugin rfl
    have hmem : p.draft.append [function] ∈ (s.ledger.grant (.add plugin function)).plugins := by
      refine List.mem_of_getElem? (i := plugin) ?_
      simp [Ledger.grant, ledger, hp]
    obtain ⟨q, hadd⟩ := Plugin.exists_add_of_fit (hfit.plugins _ hmem) s.next
    simp only [apply, hp, hadd, Reply.isGranted]
  | register plugin =>
    obtain ⟨p, hp⟩ := hget plugin rfl
    have hdistinct : ((s.registry.plugins ++ [p]).map fun q => fold q.name).Nodup := by
      simpa [Ledger.grant, ledger, hp, Function.comp_def, Plugin.draft] using hfit.distinct
    obtain ⟨r, hadd⟩ := Registry.exists_add_of_distinct hdistinct
    simp only [apply, hp, hadd, Reply.isGranted]
  | addFunctions name functions =>
    have hnew := hfit.registry (.ofFunctions name functions)
      (List.mem_append_right _ List.mem_cons_self)
    obtain ⟨p, hmade⟩ := Plugin.exists_ofDrafts_of_fit hnew s.next
    have hdistinct : ((s.registry.plugins ++ [p]).map fun q => fold q.name).Nodup := by
      have hledger := hfit.distinct
      simp only [Ledger.grant, ledger, ← Plugin.draft_of_ofDrafts hmade] at hledger
      simpa [Function.comp_def, Plugin.draft] using hledger
    obtain ⟨r, hadd⟩ := Registry.exists_add_of_distinct hdistinct
    have hadded := Registry.addDrafts_eq_ok_iff.2 ⟨p, hmade, hadd⟩
    simp only [apply, hadded, Reply.isGranted]
  | save => rfl
  | restore => rfl

/-- **A step is granted exactly when the plugin it names is there and it leaves the ledger fit.** -/
theorem isGranted_iff (hs : s.Sound) {step : Step} :
    (s.apply step).1.isGranted = true ↔
      (∀ i ∈ step.plugin?, i < s.plugins.length) ∧ (s.ledger.grant step).Fit := by
  constructor
  · intro h
    rcases s.granted_or_unchanged step with ⟨-, hthere, hledger⟩ | ⟨hrefused, -⟩
    · exact ⟨hthere, hledger ▸ (hs.apply step).fit_ledger⟩
    · rw [hrefused] at h
      cases h
  · rintro ⟨hthere, hfit⟩
    exact isGranted_of_fit hthere hfit

end Registration

/-- Where no callable stands twice and identities tell callables apart, no identity stands
    twice. -/
theorem Callable.ToldApart.nodup_ids {fs : List Callable} (h : ToldApart fs) (hfs : fs.Nodup) :
    (fs.map Callable.id).Nodup :=
  hfs.map_on h

/-- **What is held is what was granted.**  After any steps of registering, granted or not,

    1. all plugins and the registry are well formed: names are names, no two of a plugin or
       registry differ in the case of letters at most, and functions carry the name of their plugin;
    2. the plugins and the registry are those of the ledger of the granted steps, so that all
       functions, what is known of them and their number are read off the ledger;
    3. in a plugin and in the registry no identity is twice;
    4. another step is granted exactly when the plugin it names is there and the ledger it would
       leave is fit, and a step that is not granted changes no plugin and no registry. -/
theorem holds_what_was_granted (steps : List Registration.Step) :
    let s := Registration.start.run steps
    let l := Ledger.ofSteps (Registration.start.granted steps)
    ((∀ p ∈ s.plugins, p.WellFormed) ∧ s.registry.WellFormed) ∧
    (s.plugins.map Plugin.draft = l.plugins ∧ s.registry.plugins.map Plugin.draft = l.registry ∧
      s.registry.functions.map Callable.draft = l.functions ∧
      s.registry.metadata = l.functions.map Draft.metadata ∧
      s.registry.size = l.functions.length) ∧
    ((∀ p ∈ s.plugins, (p.functions.map Callable.id).Nodup) ∧
      (s.registry.functions.map Callable.id).Nodup) ∧
    ∀ step,
      ((s.apply step).1.isGranted = true ↔
        (∀ i ∈ step.plugin?, i < l.plugins.length) ∧ (l.grant step).Fit) ∧
      ((s.apply step).1.isGranted = false →
        (s.apply step).2 = { s with next := (s.apply step).2.next }) := by
  intro s l
  have hs : s.Sound := Registration.sound_start.run steps
  have hledger : s.ledger = l := Registration.start.ledger_run steps
  have hplugins : s.plugins.map Plugin.draft = l.plugins := congrArg Ledger.plugins hledger
  have hregistry : s.registry.plugins.map Plugin.draft = l.registry :=
    congrArg Ledger.registry hledger
  have hfunctions : s.registry.functions.map Callable.draft = l.functions := by
    rw [Ledger.functions, ← hregistry, List.flatMap_map, Registry.functions, List.map_flatMap]
    rfl
  refine ⟨⟨hs.plugins, hs.registry⟩, ⟨hplugins, hregistry, hfunctions, ?_, ?_⟩, ⟨?_, ?_⟩, ?_⟩
  · rw [← hfunctions, List.map_map]
    rfl
  · rw [← hfunctions, List.length_map, Registry.size_eq_length_functions]
  · intro p hp
    have happart := hs.toldApart.mono fun f hf => Registration.mem_callables_of_plugin hp hf
    exact happart.nodup_ids ((hs.plugins p hp).distinct.of_map)
  · have happart := hs.toldApart.mono fun f hf => Registration.mem_callables_of_registry hf
    exact happart.nodup_ids (Registry.nodup_functions hs.registry)
  · intro step
    rw [← hplugins, List.length_map, ← hledger]
    exact ⟨Registration.isGranted_iff hs, Registration.unchanged_of_not_granted⟩

/-- A run in which half of the steps come to nothing: a name that is taken but for case, in a
    plugin and in the registry, a list of functions with a bad name at its end, and a plugin that
    is not there. -/
theorem holds_what_was_granted_refusals :
    let steps : List Registration.Step :=
      [.create "Math" none, .add 0 ((Draft.echo "Add").inPlugin "Other"), .add 0 (.echo "ADD"),
        .addFunctions "Tools" [.echo "Clip", .echo "a b"], .copy 0, .register 0,
        .add 0 (.echo "Sub"), .addFunctions "MATH" [.echo "Mul"], .register 7,
        .addFunctions "Tools" [.echo "Clip"]]
    let s := Registration.start.run steps
    Registration.start.granted steps =
        [.create "Math" none, .add 0 ((Draft.echo "Add").inPlugin "Other"), .copy 0, .register 0,
          .add 0 (.echo "Sub"), .addFunctions "Tools" [.echo "Clip"]] ∧
      s.registry.functions.map Callable.draft =
        [(Draft.echo "Add").inPlugin "Math", (Draft.echo "Clip").inPlugin "Tools"] ∧
      s.registry.size = 2 ∧ (s.registry.functions.map Callable.id).Nodup ∧
      (s.apply (.addFunctions "tools" [])).2 = s := by
  intro steps s
  obtain ⟨-, ⟨-, -, hfunctions, -, hsize⟩, ⟨-, hids⟩, hnext⟩ := holds_what_was_granted steps
  refine ⟨rfl, hfunctions, hsize, hids, ?_⟩
  exact (hnext (.addFunctions "tools" [])).2 rfl

end FunctionCalling
