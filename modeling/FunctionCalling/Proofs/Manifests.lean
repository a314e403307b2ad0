/-
  What a manifest comes to.

  A manifest is taken in entry by entry, and an entry function by function.  Checks are made all the
  way, and the first that fails ends it.  What comes of a manifest can yet be said without running
  anything:

  1. it makes a registry exactly when it is `Declarable`: all names are names, and none comes twice
     where it may come once;
  2. the registry lists what is declared, each function under the name of its plugin (`stamped`),
     and the manifest written back from it makes the same again;
  3. otherwise the error is the `FirstFault`.  What stands before a first fault is declarable.

  Both loops are runs that stop at the first thing that is refused.  Such a run fails exactly when
  what it made of some things refuses the next (`run_eq_error_iff`).  From this, on either level, in
  turn: what is made of things is well formed, so they were declarable; hence an error is a first
  fault; and as nothing that has a first fault is declarable, of what is declarable something is
  made.
-/
import FunctionCalling.Manifest
import FunctionCalling.Proofs.Ledger

namespace FunctionCalling

open FunctionCalling.Text

/-! ## Runs that stop at the first thing refused -/

/-- A run takes in one thing after another, under numbers that grow by the width of each.  It fails
    exactly when what it made of some things refuses the next. -/
theorem run_eq_error_iff {σ α ε : Type} (step : σ → Nat → α → Except ε σ) (width : α → Nat)
    (run : σ → Nat → List α → Except ε σ) {Refuses : σ → α → ε → Prop}
    (hnil : ∀ s n, run s n [] = .ok s)
    (hcons : ∀ s n a l, run s n (a :: l) = step s n a >>= fun t => run t (n + width a) l)
    (hstep : ∀ s n a e, step s n a = .error e ↔ Refuses s a e)
    {s : σ} {n : Nat} {l : List α} {e : ε} :
    run s n l = .error e ↔
      ∃ before a after t, l = before ++ a :: after ∧ run s n before = .ok t ∧ Refuses t a e := by
  induction l generalizing s n with
  | nil => simp [hnil]
  | cons a l ih =>
    cases hfirst : step s n a with
    | error fault =>
      -- the first thing is refused, and nothing that begins with it is taken in
      have hrun : ∀ l, run s n (a :: l) = .error fault := by
        intro l
        rw [hcons, hfirst]
        rfl
      rw [hrun]
      constructor
      · intro h
        rw [Except.error.injEq] at h
        exact ⟨[], a, l, s, rfl, hnil s n, (hstep s n a e).1 (h ▸ hfirst)⟩
      · rintro ⟨before, b, after, t, hsplit, hbefore, hrefused⟩
        cases before with
        | nil =>
          obtain ⟨rfl, -⟩ := List.cons.inj hsplit
          rw [hnil, Except.ok.injEq] at hbefore
          rw [← hfirst, hbefore]
          exact (hstep t n a e).2 hrefused
        | cons b before =>
          obtain ⟨rfl, -⟩ := List.cons.inj hsplit
          rw [hrun] at hbefore
          cases hbefore
    | ok t =>
      -- the first thing is taken in, so the one that is refused is behind it
      have hrun : ∀ l, run s n (a :: l) = run t (n + width a) l := by
        intro l
        rw [hcons, hfirst]
        rfl
      rw [hrun, ih]
      constructor
      · rintro ⟨before, b, after, u, rfl, hbefore, hrefused⟩
        exact ⟨a :: before, b, after, u, rfl, (hrun before).trans hbefore, hrefused⟩
      · rintro ⟨before, b, after, u, hsplit, hbefore, hrefused⟩
        cases before with
        | nil =>
          obtain ⟨rfl, -⟩ := List.cons.inj hsplit
          rw [hnil, Except.ok.injEq] at hbefore
          rw [hbefore, (hstep u n a e).2 hrefused] at hfirst
          cases hfirst
        | cons b before =>
          obtain ⟨rfl, rfl⟩ := List.cons.inj hsplit
          exact ⟨before, _, after, u, rfl, (hrun before).symm.trans hbefore, hrefused⟩

/-- A search by name finds something exactly when the name is listed. -/
theorem isSome_find?_sameName_iff {α : Type} {name : α → String} {l : List α} {n : String} :
    (l.find? fun x => sameName (name x) n).isSome = true ↔
      ∃ m ∈ l.map name, sameName m n = true := by
  simp [List.find?_isSome]

/-- Names are not distinct when one of them is that of something before it. -/
theorem not_nodup_of_sameName {α : Type} {name : α → String} {before after : List α} {a b : α}
    (hb : b ∈ before) (hsame : sameName (name b) (name a) = true) :
    ¬ ((before ++ a :: after).map fun x => fold (name x)).Nodup := by
  intro h
  rw [← List.singleton_append, ← List.append_assoc, List.map_append] at h
  have hnew := (nodup_concat_iff.1 h.of_append_left).2
  exact List.find?_eq_none.1 hnew b hb hsame

/-! ## What can be declared -/

/-- An entry that a plugin can be made of. -/
structure PluginEntry.Declarable (e : PluginEntry) : Prop where
  isName : isName e.name = true
  members_isName : ∀ m ∈ e.functions, Text.isName m.name = true
  distinct : (e.functions.map fun m => fold m.name).Nodup

/-- A manifest that a registry can be made of. -/
structure Manifest.Declarable (m : Manifest) : Prop where
  entries : ∀ e ∈ m.plugins, e.Declarable
  distinct : (m.plugins.map fun e => fold e.name).Nodup

/-- The first fault of an entry: its name, or the name of a function behind some that are in
    order, or that name when one of these has it. -/
inductive PluginEntry.FirstFault (e : PluginEntry) : Error → Prop where
  | name (hname : isName e.name = false) : e.FirstFault (.invalidName e.name)
  | member {before after : List Metadata} {m : Metadata}
      (hsplit : e.functions = before ++ m :: after)
      (hbefore : { e with functions := before }.Declarable)
      (hname : isName m.name = false) : e.FirstFault (.invalidName m.name)
  | repeated {before after : List Metadata} {m g : Metadata}
      (hsplit : e.functions = before ++ m :: after)
      (hbefore : { e with functions := before }.Declarable)
      (hname : isName m.name = true) (hg : g ∈ before) (hsame : sameName g.name m.name = true) :
      e.FirstFault (.duplicateFunction e.name m.name)

/-- The first fault of a manifest: that of an entry behind some that are in order, or the name of
    an entry that has none when one of these has it. -/
inductive Manifest.FirstFault (m : Manifest) : Error → Prop where
  | entry {before after : List PluginEntry} {e : PluginEntry} {fault : Error}
      (hsplit : m.plugins = before ++ e :: after) (hbefore : (Manifest.mk before).Declarable)
      (hfault : e.FirstFault fault) : m.FirstFault fault
  | repeated {before after : List PluginEntry} {e d : PluginEntry}
      (hsplit : m.plugins = before ++ e :: after) (hbefore : (Manifest.mk before).Declarable)
      (he : e.Declarable) (hd : d ∈ before) (hsame : sameName d.name e.name = true) :
      m.FirstFault (.duplicatePlugin e.name)

/-- An entry with its functions under the name of the plugin, whatever plugin they named before. -/
def PluginEntry.stamped (e : PluginEntry) : PluginEntry :=
  { e with functions := e.functions.map fun m => m.inPlugin e.name }

/-- A manifest with its functions under the names of their plugins. -/
def Manifest.stamped (m : Manifest) : Manifest :=
  ⟨m.plugins.map PluginEntry.stamped⟩

/-- A plugin as a manifest declares it. -/
def Plugin.entry (p : Plugin) : PluginEntry :=
  ⟨p.name, p.description, p.functions.map Callable.metadata⟩

/-- The manifest that declares what a registry holds. -/
def Manifest.ofRegistry (r : Registry) : Manifest :=
  ⟨r.plugins.map Plugin.entry⟩

/-- Names are the same under the name of the plugin. -/
theorem PluginEntry.declarable_stamped_iff {e : PluginEntry} :
    e.stamped.Declarable ↔ e.Declarable := by
  have hmap : e.stamped.functions.map (fun m => fold m.name) =
      e.functions.map fun m => fold m.name := by
    rw [stamped, List.map_map]
    rfl
  constructor
  · rintro ⟨hname, hmembers, hdistinct⟩
    exact ⟨hname, fun m hm => hmembers (m.inPlugin e.name) (List.mem_map_of_mem hm),
      hmap ▸ hdistinct⟩
  · rintro ⟨hname, hmembers, hdistinct⟩
    exact ⟨hname, List.forall_mem_map.2 hmembers, hmap.symm ▸ hdistinct⟩

theorem Manifest.declarable_stamped_iff {m : Manifest} :
    m.stamped.Declarable ↔ m.Declarable := by
  have hmap : m.stamped.plugins.map (fun e => fold e.name) =
      m.plugins.map fun e => fold e.name := by
    rw [stamped, List.map_map]
    rfl
  constructor
  · rintro ⟨hentries, hdistinct⟩
    refine ⟨fun e he => ?_, hmap ▸ hdistinct⟩
    exact PluginEntry.declarable_stamped_iff.1 (hentries e.stamped (List.mem_map_of_mem he))
  · rintro ⟨hentries, hdistinct⟩
    refine ⟨List.forall_mem_map.2 fun e he => ?_, hmap.symm ▸ hdistinct⟩
    exact PluginEntry.declarable_stamped_iff.2 (hentries e he)

theorem Manifest.stamped_stamped (m : Manifest) : m.stamped.stamped = m.stamped := by
  simp [stamped, PluginEntry.stamped, Metadata.inPlugin]

/-- What is well formed can be declared. -/
theorem Plugin.WellFormed.declarable {p : Plugin} (hp : p.WellFormed) : p.entry.Declarable where
  isName := hp.isName
  members_isName := List.forall_mem_map.2 hp.members_isName
  distinct := by
    rw [Plugin.entry, List.map_map]
    exact hp.distinct

theorem Registry.WellFormed.declarable {r : Registry} (hr : r.WellFormed) :
    (Manifest.ofRegistry r).Declarable where
  entries := List.forall_mem_map.2 fun p hp => (hr.plugins p hp).declarable
  distinct := by
    rw [Manifest.ofRegistry, List.map_map]
    exact hr.distinct

/-! ## One entry -/

/-- Functions are refused for one of them, behind some that are taken in. -/
theorem Plugin.addAll_declared_eq_error_iff {p : Plugin} {id : Nat} {ms : List Metadata}
    {fault : Error} :
    p.addAll id (ms.map Draft.declared) = .error fault ↔
      ∃ before m after q, ms = before ++ m :: after ∧
        p.addAll id (before.map Draft.declared) = .ok q ∧
        ((isName m.name = false ∧ fault = .invalidName m.name) ∨
          (isName m.name = true ∧ (q.get? m.name).isSome = true ∧
            fault = .duplicateFunction q.name m.name)) :=
  run_eq_error_iff (fun (p : Plugin) id m => p.add id (Draft.declared m)) (fun _ => 1)
    (fun p id ms => p.addAll id (ms.map Draft.declared)) (fun _ _ => rfl) (fun _ _ _ _ => rfl)
    (fun _ _ _ _ => add_eq_error_iff)

namespace PluginEntry

/-- The plugin of an entry, without its description. -/
def toPlugin (e : PluginEntry) (id : Nat) : Except Error Plugin :=
  Plugin.ofDrafts id e.name (e.functions.map Draft.declared)

variable {e : PluginEntry} {id : Nat} {p : Plugin} {fault : Error}

theorem name_of_toPlugin (h : e.toPlugin id = .ok p) : p.name = e.name :=
  congrArg PluginDraft.name (Plugin.draft_of_ofDrafts h)

/-- The plugin of an entry is what the entry declares, under its name. -/
theorem entry_of_toPlugin (h : e.toPlugin id = .ok p) :
    (p.withDescription e.description).entry = e.stamped := by
  have hdraft : p.draft = .ofFunctions e.name (e.functions.map Draft.declared) :=
    Plugin.draft_of_ofDrafts h
  have hmetadata : p.functions.map Callable.metadata =
      e.functions.map fun m => m.inPlugin e.name := by
    have hfunctions := congrArg (fun a => a.functions.map Draft.metadata) hdraft
    simpa [Plugin.draft, PluginDraft.ofFunctions, PluginDraft.append, Callable.draft,
      Draft.inPlugin, Draft.declared, Function.comp_def] using hfunctions
  simp only [Plugin.withDescription, Plugin.entry, stamped, name_of_toPlugin h, hmetadata]

theorem declarable_of_toPlugin (h : e.toPlugin id = .ok p) : e.Declarable := by
  have hp : p.WellFormed := (Plugin.wellFormed_of_ofDrafts h).1
  have hentry := (hp.withDescription e.description).declarable
  rw [entry_of_toPlugin h] at hentry
  exact declarable_stamped_iff.1 hentry

/-- A plugin of an entry has the names that the entry lists. -/
theorem isSome_get?_iff (h : e.toPlugin id = .ok p) {n : String} :
    (p.get? n).isSome = true ↔ ∃ g ∈ e.functions, sameName g.name n = true := by
  have hnames : p.functions.map Callable.name = e.functions.map Metadata.name := by
    have hmetadata : (p.functions.map Callable.metadata).map Metadata.name =
        e.stamped.functions.map Metadata.name :=
      congrArg (fun d => d.functions.map Metadata.name) (entry_of_toPlugin h)
    rw [stamped, List.map_map, List.map_map] at hmetadata
    exact hmetadata
  rw [Plugin.get?, isSome_find?_sameName_iff, hnames]
  simp

/-- An error is the first fault. -/
theorem firstFault_of_toPlugin (h : e.toPlugin id = .error fault) : e.FirstFault fault := by
  rcases Plugin.ofDrafts_eq_error_iff.1 h with ⟨hname, rfl⟩ | ⟨hname, hfunctions⟩
  · exact .name hname
  · obtain ⟨before, m, after, p, hsplit, hadded, hm⟩ :=
      Plugin.addAll_declared_eq_error_iff.1 hfunctions
    have hp : { e with functions := before }.toPlugin id = .ok p :=
      Plugin.ofDrafts_eq_ok_iff.2 ⟨hname, hadded⟩
    have hbefore := declarable_of_toPlugin hp
    rcases hm with ⟨hm, rfl⟩ | ⟨hm, hthere, rfl⟩
    · exact .member hsplit hbefore hm
    · obtain ⟨g, hg, hsame⟩ := (isSome_get?_iff hp).1 hthere
      rw [name_of_toPlugin hp]
      exact .repeated hsplit hbefore hm hg hsame

theorem FirstFault.not_declarable (h : e.FirstFault fault) : ¬ e.Declarable := by
  intro he
  cases h with
  | name hname =>
    rw [he.isName] at hname
    cases hname
  | @member before after m hsplit hbefore hname =>
    have hm : m ∈ e.functions := hsplit ▸ List.mem_append_right before List.mem_cons_self
    rw [he.members_isName m hm] at hname
    cases hname
  | repeated hsplit hbefore hname hg hsame =>
    exact not_nodup_of_sameName hg hsame (hsplit ▸ he.distinct)

theorem exists_toPlugin_iff : (∃ p, e.toPlugin id = .ok p) ↔ e.Declarable := by
  constructor
  · rintro ⟨p, hp⟩
    exact declarable_of_toPlugin hp
  · intro he
    cases h : e.toPlugin id with
    | ok p => exact ⟨p, rfl⟩
    | error fault => exact absurd he (firstFault_of_toPlugin h).not_declarable

/-- A function that is refused behind some that make a plugin is what the entry fails for. -/
theorem toPlugin_of_refused {before after : List Metadata} {m : Metadata}
    (hsplit : e.functions = before ++ m :: after)
    (hp : { e with functions := before }.toPlugin id = .ok p)
    (hm : p.add id (.declared m) = .error fault) : e.toPlugin id = .error fault := by
  obtain ⟨hname, hadded⟩ := Plugin.ofDrafts_eq_ok_iff.1 hp
  have hfunctions := Plugin.addAll_declared_eq_error_iff.2
    ⟨before, m, after, p, hsplit, hadded, Plugin.add_eq_error_iff.1 hm⟩
  exact Plugin.ofDrafts_eq_error_iff.2 (Or.inr ⟨hname, hfunctions⟩)

/-- **An entry fails for its first fault.** -/
theorem toPlugin_eq_error_iff : e.toPlugin id = .error fault ↔ e.FirstFault fault := by
  constructor
  · exact firstFault_of_toPlugin
  · intro h
    cases h with
    | name hname => exact Plugin.ofDrafts_eq_error_iff.2 (Or.inl ⟨hname, rfl⟩)
    | member hsplit hbefore hm =>
      obtain ⟨p, hp⟩ := exists_toPlugin_iff.2 hbefore
      exact toPlugin_of_refused hsplit hp (Plugin.add_eq_error_iff.2 (Or.inl ⟨hm, rfl⟩))
    | @repeated _ _ m g hsplit hbefore hm hg hsame =>
      obtain ⟨p, hp⟩ := exists_toPlugin_iff.2 hbefore
      have hthere : (p.get? m.name).isSome = true := (isSome_get?_iff hp).2 ⟨g, hg, hsame⟩
      have hname := name_of_toPlugin hp
      rw [← hname]
      exact toPlugin_of_refused hsplit hp
        (Plugin.add_eq_error_iff.2 (Or.inr ⟨hm, hthere, rfl⟩))

end PluginEntry

/-! ## The whole manifest -/

namespace Registry

/-- The registry with the plugin of an entry. -/
def addEntry (r : Registry) (id : Nat) (e : PluginEntry) : Except Error Registry := do
  r.add ((← e.toPlugin id).withDescription e.description)

variable {r s : Registry} {id : Nat} {e : PluginEntry} {fault : Error}

theorem addEntry_eq_ok_iff :
    r.addEntry id e = .ok s ↔
      ∃ p, e.toPlugin id = .ok p ∧ r.add (p.withDescription e.description) = .ok s := by
  cases h : e.toPlugin id <;> simp [addEntry, h, bind, Except.bind]

/-- An entry is refused for its first fault, or else for a name that the registry has. -/
theorem addEntry_eq_error_iff :
    r.addEntry id e = .error fault ↔
      e.FirstFault fault ∨
      (e.Declarable ∧ (r.plugin? e.name).isSome = true ∧ fault = .duplicatePlugin e.name) := by
  have hfault : e.toPlugin id = .error fault ↔ e.FirstFault fault :=
    PluginEntry.toPlugin_eq_error_iff
  have hgood : (∃ p, e.toPlugin id = .ok p) ↔ e.Declarable := PluginEntry.exists_toPlugin_iff
  rw [← hfault, ← hgood]
  cases h : e.toPlugin id with
  | error fault' => simp [addEntry, h, bind, Except.bind]
  | ok p =>
    have hname : p.name = e.name := PluginEntry.name_of_toPlugin h
    have hadd : r.addEntry id e = r.add (p.withDescription e.description) := by
      rw [addEntry, h]
      rfl
    rw [hadd, add_eq_error_iff, Plugin.withDescription, hname]
    simp

theorem addAll_cons (id : Nat) (e : PluginEntry) (es : List PluginEntry) :
    r.addAll id ((e :: es).map PluginEntry.toDraft) =
      r.addEntry id e >>= fun s =>
        s.addAll (id + e.toDraft.functions.length) (es.map PluginEntry.toDraft) := by
  rw [addEntry, bind_assoc]
  rfl

/-- What entries make of a registry comes behind what it holds. -/
theorem plugins_of_addAll {es : List PluginEntry} (hr : r.WellFormed)
    (h : r.addAll id (es.map PluginEntry.toDraft) = .ok s) :
    s.WellFormed ∧
      s.plugins.map Plugin.entry = r.plugins.map Plugin.entry ++ es.map PluginEntry.stamped := by
  induction es generalizing r id with
  | nil =>
    have hsame : r = s := Except.ok.inj h
    simp [← hsame, hr]
  | cons e es ih =>
    rw [addAll_cons] at h
    cases hentry : r.addEntry id e with
    | error fault =>
      rw [hentry] at h
      cases h
    | ok t =>
      rw [hentry] at h
      obtain ⟨p, hp, hadd⟩ := addEntry_eq_ok_iff.1 hentry
      have hwf : p.WellFormed := (Plugin.wellFormed_of_ofDrafts hp).1
      have ht := hr.add (hwf.withDescription e.description) hadd
      obtain ⟨-, rfl⟩ := add_eq_ok_iff.1 hadd
      obtain ⟨hs, hplugins⟩ := ih ht h
      refine ⟨hs, ?_⟩
      rw [hplugins, List.map_append, List.map_singleton, PluginEntry.entry_of_toPlugin hp,
        List.append_assoc, List.map_cons, List.singleton_append]

/-- Entries are refused for one of them, behind some that are taken in. -/
theorem addAll_eq_error_iff {es : List PluginEntry} :
    r.addAll id (es.map PluginEntry.toDraft) = .error fault ↔
      ∃ before e after s, es = before ++ e :: after ∧
        r.addAll id (before.map PluginEntry.toDraft) = .ok s ∧
        (e.FirstFault fault ∨
          (e.Declarable ∧ (s.plugin? e.name).isSome = true ∧ fault = .duplicatePlugin e.name)) :=
  run_eq_error_iff addEntry (fun e => e.toDraft.functions.length)
    (fun r id es => r.addAll id (es.map PluginEntry.toDraft)) (fun _ _ => rfl)
    (fun _ => addAll_cons) (fun _ _ _ _ => addEntry_eq_error_iff)

end Registry

namespace Manifest

variable {m : Manifest} {r : Registry} {fault : Error}

theorem wellFormed_of_toRegistry (h : m.toRegistry = .ok r) :
    r.WellFormed ∧ ofRegistry r = m.stamped := by
  obtain ⟨hr, hplugins⟩ := Registry.plugins_of_addAll Registry.wellFormed_empty h
  exact ⟨hr, congrArg Manifest.mk hplugins⟩

theorem declarable_of_toRegistry (h : m.toRegistry = .ok r) : m.Declarable := by
  obtain ⟨hr, hmanifest⟩ := wellFormed_of_toRegistry h
  rw [← declarable_stamped_iff, ← hmanifest]
  exact hr.declarable

/-- The registry of a manifest has the plugins that the manifest lists. -/
theorem isSome_plugin?_iff (h : m.toRegistry = .ok r) {n : String} :
    (r.plugin? n).isSome = true ↔ ∃ d ∈ m.plugins, sameName d.name n = true := by
  have hnames : r.plugins.map Plugin.name = m.plugins.map PluginEntry.name := by
    have hentries : (r.plugins.map Plugin.entry).map PluginEntry.name =
        (m.plugins.map PluginEntry.stamped).map PluginEntry.name :=
      congrArg (fun m => m.plugins.map PluginEntry.name) (wellFormed_of_toRegistry h).2
    rw [List.map_map, List.map_map] at hentries
    exact hentries
  rw [Registry.plugin?, isSome_find?_sameName_iff, hnames]
  simp

/-- An error is the first fault. -/
theorem firstFault_of_toRegistry (h : m.toRegistry = .error fault) : m.FirstFault fault := by
  obtain ⟨before, e, after, r, hsplit, hadded, he⟩ := Registry.addAll_eq_error_iff.1 h
  have hr : (Manifest.mk before).toRegistry = .ok r := hadded
  have hbefore := declarable_of_toRegistry hr
  rcases he with hfault | ⟨he, hthere, rfl⟩
  · exact .entry hsplit hbefore hfault
  · obtain ⟨d, hd, hsame⟩ := (isSome_plugin?_iff hr).1 hthere
    exact .repeated hsplit hbefore he hd hsame

theorem FirstFault.not_declarable (h : m.FirstFault fault) : ¬ m.Declarable := by
  intro hm
  cases h with
  | @entry before after e _ hsplit hbefore hfault =>
    have he : e ∈ m.plugins := hsplit ▸ List.mem_append_right before List.mem_cons_self
    exact hfault.not_declarable (hm.entries e he)
  | repeated hsplit hbefore he hd hsame =>
    exact not_nodup_of_sameName hd hsame (hsplit ▸ hm.distinct)

theorem exists_toRegistry_iff : (∃ r, m.toRegistry = .ok r) ↔ m.Declarable := by
  constructor
  · rintro ⟨r, hr⟩
    exact declarable_of_toRegistry hr
  · intro hm
    cases h : m.toRegistry with
    | ok r => exact ⟨r, rfl⟩
    | error fault => exact absurd hm (firstFault_of_toRegistry h).not_declarable

/-- **A manifest fails for its first fault.** -/
theorem toRegistry_eq_error_iff : m.toRegistry = .error fault ↔ m.FirstFault fault := by
  constructor
  · exact firstFault_of_toRegistry
  · intro h
    cases h with
    | entry hsplit hbefore hfault =>
      obtain ⟨r, hr⟩ := exists_toRegistry_iff.2 hbefore
      exact Registry.addAll_eq_error_iff.2 ⟨_, _, _, r, hsplit, hr, Or.inl hfault⟩
    | repeated hsplit hbefore he hd hsame =>
      obtain ⟨r, hr⟩ := exists_toRegistry_iff.2 hbefore
      have hthere := (isSome_plugin?_iff hr).2 ⟨_, hd, hsame⟩
      exact Registry.addAll_eq_error_iff.2 ⟨_, _, _, r, hsplit, hr, Or.inr ⟨he, hthere, rfl⟩⟩

/-- What a registry holds is what its manifest declares. -/
theorem metadata_eq_flatMap (r : Registry) :
    r.metadata = (ofRegistry r).plugins.flatMap PluginEntry.functions := by
  rw [Registry.metadata, Registry.functions, List.map_flatMap, ofRegistry, List.flatMap_map]
  rfl

/-- The manifest written back from the registry of a manifest makes the same once more. -/
theorem exists_toRegistry_ofRegistry (h : m.toRegistry = .ok r) :
    ∃ s, (ofRegistry r).toRegistry = .ok s ∧ ofRegistry s = ofRegistry r := by
  obtain ⟨hr, hmanifest⟩ := wellFormed_of_toRegistry h
  obtain ⟨s, hs⟩ := exists_toRegistry_iff.2 hr.declarable
  refine ⟨s, hs, ?_⟩
  rw [(wellFormed_of_toRegistry hs).2, hmanifest, stamped_stamped]

end Manifest

/-- **A manifest makes its registry or fails for its first fault.**

    1. It makes a registry exactly when it is declarable.
    2. The registry has the plugins of the manifest, in its order and with their names and
       descriptions, and their functions as declared, but for the plugin that these name.  The
       manifest written back from the registry makes the same plugins and metadata again.
    3. It fails with an error exactly when that is its first fault. -/
theorem builds_or_reports_first_fault (m : Manifest) :
    ((∃ r, m.toRegistry = .ok r) ↔ m.Declarable) ∧
    (∀ r, m.toRegistry = .ok r →
      (r.plugins.map fun p => (p.name, p.description)) =
        m.plugins.map (fun e => (e.name, e.description)) ∧
      Manifest.ofRegistry r = m.stamped ∧
      r.metadata = m.plugins.flatMap (fun e => e.functions.map fun f => f.inPlugin e.name) ∧
      ∃ s, (Manifest.ofRegistry r).toRegistry = .ok s ∧
        Manifest.ofRegistry s = Manifest.ofRegistry r ∧ s.metadata = r.metadata) ∧
    ∀ fault, m.toRegistry = .error fault ↔ m.FirstFault fault := by
  refine ⟨Manifest.exists_toRegistry_iff, ?_, fun _ => Manifest.toRegistry_eq_error_iff⟩
  intro r hr
  have hmanifest : Manifest.ofRegistry r = m.stamped := (Manifest.wellFormed_of_toRegistry hr).2
  refine ⟨?_, hmanifest, ?_, ?_⟩
  · have hplugins : (r.plugins.map Plugin.entry).map (fun e => (e.name, e.description)) =
        (m.plugins.map PluginEntry.stamped).map fun e => (e.name, e.description) :=
      congrArg (fun m => m.plugins.map fun e => (e.name, e.description)) hmanifest
    rw [List.map_map, List.map_map] at hplugins
    exact hplugins
  · rw [Manifest.metadata_eq_flatMap, hmanifest, Manifest.stamped, List.flatMap_map]
    rfl
  · obtain ⟨s, hs, hsame⟩ := Manifest.exists_toRegistry_ofRegistry hr
    refine ⟨s, hs, hsame, ?_⟩
    rw [Manifest.metadata_eq_flatMap, Manifest.metadata_eq_flatMap, hsame]

/-- Of several faults the first is reported: a repeated function before a bad name behind it and
    before the name of the next plugin, and a repeated plugin before a bad one behind it.  Without
    faults, a function that was declared for another plugin is listed for its own. -/
theorem builds_or_reports_first_fault_of_several :
    (Manifest.mk [⟨"Tools", "", ["Clip", "CLIP", "a b"].map fun n => (Draft.echo n).metadata⟩,
      ⟨"TOOLS", "", []⟩]).FirstFault (.duplicateFunction "Tools" "CLIP") ∧
    (Manifest.mk [⟨"Math", "Sums", []⟩, ⟨"MATH", "", []⟩, ⟨"a b", "", []⟩]).FirstFault
      (.duplicatePlugin "MATH") ∧
    (Manifest.mk [⟨"Math", "Sums", [(Draft.echo "Add").metadata.inPlugin "Other"]⟩]).Declarable ∧
    ∃ r, (Manifest.mk [⟨"Math", "Sums",
        [(Draft.echo "Add").metadata.inPlugin "Other"]⟩]).toRegistry = .ok r ∧
      (r.plugins.map fun p => (p.name, p.description)) = [("Math", "Sums")] ∧
      r.metadata = [(Draft.echo "Add").metadata.inPlugin "Math"] := by
  obtain ⟨hmade, hlisted, -⟩ := builds_or_reports_first_fault
    ⟨[⟨"Math", "Sums", [(Draft.echo "Add").metadata.inPlugin "Other"]⟩]⟩
  have hgood := hmade.1 ⟨_, rfl⟩
  obtain ⟨r, hr⟩ := hmade.2 hgood
  obtain ⟨hplugins, -, hmetadata, -⟩ := hlisted r hr
  refine ⟨?_, ?_, hgood, r, hr, hplugins, hmetadata⟩
  · exact ((builds_or_reports_first_fault _).2.2 _).1 rfl
  · exact ((builds_or_reports_first_fault _).2.2 _).1 rfl

end FunctionCalling
