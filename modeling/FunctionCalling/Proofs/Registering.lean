/-
  What holds after any steps of registering.

  `Registration.Sound` is the invariant: all plugins and both registries are well formed, and the
  identities are in order, that is

  1. every identity given out so far is below the next one;
  2. callables of one identity are one callable (`Callable.ToldApart`), although a callable may
     stand in several places: in a plugin under construction, in copies of it, in the registry
     and in the registry put aside.

  A step puts at most one plugin somewhere, and what is new in that plugin has identities from
  the old `next` up to the new one (`Ready`), so 1 and 2 survive it (`Sound.place`).  Hence a step
  keeps the invariant (`Sound.apply`), and so does a run (`Sound.run`).  A registry is `Built`
  when some run leads to it.
-/
import FunctionCalling.Proofs.WellFormed
import FunctionCalling.Registration

namespace FunctionCalling

open FunctionCalling.Text

/-! ## Identities -/

/-- In a list of callables, those of one identity are one callable.  An identity stands for a
    shared handle, so this holds of all callables that a host has at one time; it is proved of
    those that registering makes, and supposed where a host brings callables of its own. -/
def Callable.ToldApart (fs : List Callable) : Prop :=
  ∀ f ∈ fs, ∀ g ∈ fs, f.id = g.id → f = g

namespace Callable

theorem ToldApart.mono {fs gs : List Callable} (h : ToldApart gs) (hsub : ∀ f ∈ fs, f ∈ gs) :
    ToldApart fs :=
  fun f hf g hg hid => h f (hsub f hf) g (hsub g hg) hid

theorem ToldApart.eq_of_sameAs {fs : List Callable} (h : ToldApart fs) {f g : Callable}
    (hf : f ∈ fs) (hg : g ∈ fs) (hsame : f.sameAs g = true) : f = g :=
  h f hf g hg (sameAs_iff.1 hsame)

/-- Where no identity occurs twice, identities tell callables apart. -/
theorem toldApart_of_nodup {fs : List Callable} (h : (fs.map Callable.id).Nodup) :
    ToldApart fs :=
  fun _ hf _ hg hid => List.inj_on_of_nodup_map h hf hg hid

end Callable

/-- The identities of new members lie in the range set aside for them. -/
theorem Plugin.id_of_mem_members {id : Nat} {name : String} {drafts : List Draft} {f : Callable}
    (hf : f ∈ members id name drafts) : id ≤ f.id ∧ f.id < id + drafts.length := by
  induction drafts generalizing id with
  | nil => cases hf
  | cons draft drafts ih =>
    rw [List.length_cons]
    rcases List.mem_cons.1 hf with rfl | hf
    · exact ⟨Nat.le_refl _, Nat.lt_add_of_pos_right (Nat.succ_pos _)⟩
    · obtain ⟨hlo, hhi⟩ := ih hf
      omega

theorem Plugin.toldApart_members (id : Nat) (name : String) (drafts : List Draft) :
    Callable.ToldApart (members id name drafts) := by
  induction drafts generalizing id with
  | nil =>
    intro f hf
    cases hf
  | cons draft drafts ih =>
    intro f hf g hg hid
    rcases List.mem_cons.1 hf with rfl | hf
    · rcases List.mem_cons.1 hg with rfl | hg
      · rfl
      · have hlo := (id_of_mem_members hg).1
        have hhead : (Callable.ofMember id name draft).id = id := rfl
        omega
    · rcases List.mem_cons.1 hg with rfl | hg
      · have hlo := (id_of_mem_members hf).1
        have hhead : (Callable.ofMember id name draft).id = id := rfl
        omega
      · exact ih (id + 1) f hf g hg hid

/-! ## The invariant -/

namespace Registration

/-- Every callable that is anywhere at hand. -/
def callables (s : Registration) : List Callable :=
  s.plugins.flatMap Plugin.functions ++ (s.registry.functions ++ s.saved.functions)

theorem mem_callables_iff {s : Registration} {f : Callable} :
    f ∈ s.callables ↔ (∃ p ∈ s.plugins, f ∈ p.functions) ∨ f ∈ s.registry.functions ∨
      f ∈ s.saved.functions := by
  simp [callables]

theorem mem_callables_of_plugin {s : Registration} {p : Plugin} (hp : p ∈ s.plugins) {f : Callable}
    (hf : f ∈ p.functions) : f ∈ s.callables :=
  mem_callables_iff.2 (Or.inl ⟨p, hp, hf⟩)

theorem mem_callables_of_registry {s : Registration} {f : Callable}
    (hf : f ∈ s.registry.functions) : f ∈ s.callables :=
  mem_callables_iff.2 (Or.inr (Or.inl hf))

theorem mem_callables_of_saved {s : Registration} {f : Callable} (hf : f ∈ s.saved.functions) :
    f ∈ s.callables :=
  mem_callables_iff.2 (Or.inr (Or.inr hf))

/-- What holds between any two steps. -/
structure Sound (s : Registration) : Prop where
  plugins : ∀ p ∈ s.plugins, p.WellFormed
  registry : s.registry.WellFormed
  saved : s.saved.WellFormed
  /-- The next identity is new. -/
  fresh : ∀ f ∈ s.callables, f.id < s.next
  toldApart : Callable.ToldApart s.callables

theorem sound_start : start.Sound where
  plugins := by simp [start]
  registry := Registry.wellFormed_empty
  saved := Registry.wellFormed_empty
  fresh := by simp [start, callables, Registry.functions, Registry.empty]
  toldApart := by simp [Callable.ToldApart, start, callables, Registry.functions, Registry.empty]

/-- A plugin fit to be put anywhere when the next identity becomes `next`: what it holds is at
    hand already, or new with an identity from the range set aside. -/
structure Ready (s : Registration) (p : Plugin) (next : Nat) : Prop where
  wellFormed : p.WellFormed
  next_le : s.next ≤ next
  known_or_new : ∃ new, (∀ f ∈ p.functions, f ∈ s.callables ∨ f ∈ new) ∧
    (∀ f ∈ new, s.next ≤ f.id ∧ f.id < next) ∧ Callable.ToldApart new

/-- A plugin under construction is fit to be put elsewhere. -/
theorem Sound.ready_of_plugin {s : Registration} (hs : s.Sound) {i : Nat} {p : Plugin}
    (hp : s.plugins[i]? = some p) : s.Ready p s.next := by
  refine ⟨hs.plugins p (List.mem_of_getElem? hp), Nat.le_refl _, [], ?_, by simp, ?_⟩
  · intro f hf
    exact Or.inl (mem_callables_of_plugin (List.mem_of_getElem? hp) hf)
  · intro f hf
    cases hf

/-- A plugin made of new functions is fit to be put anywhere. -/
theorem ready_of_ofDrafts {s : Registration} {name : String} {drafts : List Draft} {p : Plugin}
    (h : Plugin.ofDrafts s.next name drafts = .ok p) : s.Ready p (s.next + drafts.length) := by
  obtain ⟨hp, hmembers⟩ := Plugin.wellFormed_of_ofDrafts h
  refine ⟨hp, Nat.le_add_right _ _, Plugin.members s.next name drafts, ?_, ?_, ?_⟩
  · intro f hf
    exact Or.inr (hmembers ▸ hf)
  · exact fun f hf => Plugin.id_of_mem_members hf
  · exact Plugin.toldApart_members _ _ _

/-- A plugin under construction with one function more is fit to be put back. -/
theorem Ready.add {s : Registration} {p q : Plugin} (hp : s.Ready p s.next) {draft : Draft}
    (h : p.add s.next draft = .ok q) : s.Ready q (s.next + 1) := by
  obtain ⟨old, hold, hrange, -⟩ := hp.known_or_new
  have hwf := hp.wellFormed.add h
  obtain ⟨-, -, rfl⟩ := Plugin.add_eq_ok_iff.1 h
  refine ⟨hwf, Nat.le_succ _, Plugin.members s.next p.name [draft], ?_, ?_, ?_⟩
  · intro f hf
    rcases List.mem_append.1 hf with hf | hf
    · rcases hold f hf with hf | hf
      · exact Or.inl hf
      · -- no identity has been set aside yet
        have hnone := hrange f hf
        omega
    · exact Or.inr hf
  · exact fun f hf => Plugin.id_of_mem_members hf
  · exact Plugin.toldApart_members _ _ _

/-- **One plugin is put somewhere.**  Under construction or in the registry, a plugin that is
    fit for it disturbs nothing: whatever is new in it lies beyond all identities so far. -/
theorem Sound.place {s t : Registration} (hs : s.Sound) {p : Plugin} (hp : s.Ready p t.next)
    (hplugins : ∀ q ∈ t.plugins, q ∈ s.plugins ∨ q = p) (hregistry : t.registry.WellFormed)
    (hsaved : t.saved.WellFormed)
    (hfrom : ∀ f ∈ t.callables, f ∈ s.callables ∨ f ∈ p.functions) : t.Sound := by
  obtain ⟨new, hknown, hrange, hnew⟩ := hp.known_or_new
  have hnext := hp.next_le
  have hsplit : ∀ f ∈ t.callables, f ∈ s.callables ∨ f ∈ new := by
    intro f hf
    rcases hfrom f hf with hf | hf
    · exact Or.inl hf
    · exact hknown f hf
  refine ⟨?_, hregistry, hsaved, ?_, ?_⟩
  · intro q hq
    rcases hplugins q hq with hq | rfl
    · exact hs.plugins q hq
    · exact hp.wellFormed
  · intro f hf
    rcases hsplit f hf with hold | hf
    · have hlt := hs.fresh f hold
      omega
    · exact (hrange f hf).2
  · -- two old ones, two new ones, or one of each, which cannot have one identity
    intro f hf g hg hid
    rcases hsplit f hf with hf | hf
    · rcases hsplit g hg with hg | hg
      · exact hs.toldApart f hf g hg hid
      · have hlt := hs.fresh f hf
        have hge := (hrange g hg).1
        omega
    · rcases hsplit g hg with hg | hg
      · have hlt := hs.fresh g hg
        have hge := (hrange f hf).1
        omega
      · exact hnew f hf g hg hid

/-- Identities may be used up for nothing, as by a step that is refused. -/
theorem Sound.skip {s : Registration} (hs : s.Sound) {next : Nat} (hnext : s.next ≤ next) :
    ({ s with next := next } : Registration).Sound :=
  ⟨hs.plugins, hs.registry, hs.saved, fun f hf => Nat.lt_of_lt_of_le (hs.fresh f hf) hnext,
    hs.toldApart⟩

/-- One plugin more under construction. -/
theorem Sound.push {s : Registration} (hs : s.Sound) {p : Plugin} {next : Nat}
    (hp : s.Ready p next) :
    ({ s with plugins := s.plugins ++ [p], next := next } : Registration).Sound := by
  refine hs.place hp ?_ hs.registry hs.saved ?_
  · intro q hq
    rcases List.mem_append.1 hq with hq | hq
    · exact Or.inl hq
    · exact Or.inr (List.mem_singleton.1 hq)
  · intro f hf
    rcases mem_callables_iff.1 hf with ⟨q, hq, hfq⟩ | hf
    · rcases List.mem_append.1 hq with hq | hq
      · exact Or.inl (mem_callables_of_plugin hq hfq)
      · obtain rfl := List.mem_singleton.1 hq
        exact Or.inr hfq
    · exact Or.inl (mem_callables_iff.2 (Or.inr hf))

/-- Another plugin in the place of one under construction. -/
theorem Sound.set {s : Registration} (hs : s.Sound) (i : Nat) {p : Plugin} {next : Nat}
    (hp : s.Ready p next) :
    ({ s with plugins := s.plugins.set i p, next := next } : Registration).Sound := by
  refine hs.place hp ?_ hs.registry hs.saved ?_
  · intro q hq
    exact List.mem_or_eq_of_mem_set hq
  · intro f hf
    rcases mem_callables_iff.1 hf with ⟨q, hq, hfq⟩ | hf
    · rcases List.mem_or_eq_of_mem_set hq with hq | rfl
      · exact Or.inl (mem_callables_of_plugin hq hfq)
      · exact Or.inr hfq
    · exact Or.inl (mem_callables_iff.2 (Or.inr hf))

/-- One plugin more in the registry. -/
theorem Sound.register {s : Registration} (hs : s.Sound) {p : Plugin} {next : Nat}
    (hp : s.Ready p next) {r : Registry} (hadd : s.registry.add p = .ok r) :
    ({ s with registry := r, next := next } : Registration).Sound := by
  refine hs.place hp (fun q hq => Or.inl hq) (hs.registry.add hp.wellFormed hadd) hs.saved ?_
  intro f hf
  rcases mem_callables_iff.1 hf with hf | hf | hf
  · exact Or.inl (mem_callables_iff.2 (Or.inl hf))
  · rw [Registry.functions_of_add hadd] at hf
    rcases List.mem_append.1 hf with hf | hf
    · exact Or.inl (mem_callables_of_registry hf)
    · exact Or.inr hf
  · exact Or.inl (mem_callables_of_saved hf)

/-- The registry in hand and the one put aside may be exchanged for one another. -/
theorem Sound.swap {s : Registration} (hs : s.Sound) {r saved : Registry}
    (hr : r = s.registry ∨ r = s.saved) (hsaved : saved = s.registry ∨ saved = s.saved) :
    ({ s with registry := r, saved := saved } : Registration).Sound := by
  have hfrom : ∀ f ∈ ({ s with registry := r, saved := saved } : Registration).callables,
      f ∈ s.callables := by
    intro f hf
    rcases mem_callables_iff.1 hf with hf | hf | hf
    · exact mem_callables_iff.2 (Or.inl hf)
    · rcases hr with rfl | rfl
      · exact mem_callables_of_registry hf
      · exact mem_callables_of_saved hf
    · rcases hsaved with rfl | rfl
      · exact mem_callables_of_registry hf
      · exact mem_callables_of_saved hf
  refine ⟨hs.plugins, ?_, ?_, fun f hf => hs.fresh f (hfrom f hf), hs.toldApart.mono hfrom⟩
  · rcases hr with rfl | rfl
    · exact hs.registry
    · exact hs.saved
  · rcases hsaved with rfl | rfl
    · exact hs.registry
    · exact hs.saved

/-! ## Steps and runs -/

/-- **A step keeps the invariant**, whether it is taken or refused. -/
theorem Sound.apply {s : Registration} (hs : s.Sound) (step : Step) : (s.apply step).2.Sound := by
  cases step with
  | create name description =>
    simp only [Registration.apply]
    split
    · exact hs
    next p hcreate =>
      have hwf := (Plugin.wellFormed_of_create hcreate).withDescription (description.getD "")
      obtain ⟨-, rfl⟩ := Plugin.create_eq_ok_iff.1 hcreate
      exact hs.push ⟨hwf, Nat.le_refl _, [], by simp [Plugin.withDescription], by simp,
        by simp [Callable.ToldApart]⟩
  | createFrom name functions =>
    simp only [Registration.apply]
    split
    · exact hs.skip (Nat.le_add_right _ _)
    next p hmade => exact hs.push (ready_of_ofDrafts hmade)
  | copy plugin =>
    simp only [Registration.apply]
    split
    · exact hs
    next p hget => exact hs.push (hs.ready_of_plugin hget)
  | describe plugin description =>
    simp only [Registration.apply]
    split
    · exact hs
    next p hget =>
      obtain ⟨hwf, hnext, hknown⟩ := hs.ready_of_plugin hget
      exact hs.set plugin ⟨hwf.withDescription description, hnext, hknown⟩
  | add plugin function =>
    simp only [Registration.apply]
    split
    · exact hs
    next p hget =>
      split
      · exact hs.skip (Nat.le_succ _)
      next q hadd => exact hs.set plugin ((hs.ready_of_plugin hget).add hadd)
  | register plugin =>
    simp only [Registration.apply]
    split
    · exact hs
    next p hget =>
      split
      · exact hs
      next r hadd => exact hs.register (hs.ready_of_plugin hget) hadd
  | addFunctions name functions =>
    simp only [Registration.apply]
    split
    · exact hs.skip (Nat.le_add_right _ _)
    next r hadded =>
      obtain ⟨p, hmade, hadd⟩ := Registry.addDrafts_eq_ok_iff.1 hadded
      exact hs.register (ready_of_ofDrafts hmade) hadd
  | save => exact hs.swap (Or.inl rfl) (Or.inl rfl)
  | restore => exact hs.swap (Or.inr rfl) (Or.inr rfl)

/-- **A run keeps the invariant.** -/
theorem Sound.run {s : Registration} (hs : s.Sound) (steps : List Step) : (s.run steps).Sound := by
  induction steps generalizing s with
  | nil => exact hs
  | cons step steps ih => exact ih (hs.apply step)

end Registration

/-! ## Built registries -/

namespace Registry

/-- Some run of registering leads to the registry. -/
def Built (r : Registry) : Prop :=
  ∃ steps, (Registration.start.run steps).registry = r

theorem Built.wellFormed {r : Registry} (hr : r.Built) : r.WellFormed := by
  obtain ⟨steps, rfl⟩ := hr
  exact (Registration.sound_start.run steps).registry

/-- The functions of a built registry are told apart by their identities. -/
theorem Built.toldApart {r : Registry} (hr : r.Built) : Callable.ToldApart r.functions := by
  obtain ⟨steps, rfl⟩ := hr
  refine (Registration.sound_start.run steps).toldApart.mono ?_
  intro f hf
  exact Registration.mem_callables_of_registry hf

end Registry

/-! ## A registry for examples -/

/-- A function that answers with its arguments. -/
def Draft.echo (name : String) : Draft :=
  ⟨⟨none, name, "", Metadata.anyObject⟩, .implemented fun _ text => .ok (.reply text)⟩

/-- Two plugins that both have a function of one name, but for the case of its letters. -/
def Registry.sample : Registry :=
  (Registration.start.run
    [.addFunctions "Math" [.echo "Add", .echo "Sub"],
      .addFunctions "My_Tools" [.echo "add"]]).registry

theorem Registry.built_sample : sample.Built :=
  ⟨_, rfl⟩

theorem Registry.functions_sample : sample.functions =
    [.ofMember 0 "Math" (.echo "Add"), .ofMember 1 "Math" (.echo "Sub"),
      .ofMember 2 "My_Tools" (.echo "add")] := rfl

end FunctionCalling
