/-
  Recovering names that are written with another separator.

  `trySeparators` takes a name apart at the first split under which the registry holds a function,
  of all splits at the occurrences that are met, separator by separator.  Three things are asked of
  it:

  1. that it finds such a split when there is one.  It does, unless the occurrence is passed over:
     nothing that is met is lost (`isSome_resolve_trySeparators_iff`), and what is not overlapped is
     met.  An occurrence that is overlapped may be lost (`overlapped_split_missed`).
  2. that the registry holds what it accepts.  It does, in the plugin that was read; but a name
     that begins with a separator is read as one without a plugin, which stands for the first
     function of the rest of the name (`leading_separator_accepted`).
  3. that it finds the function that was meant.  Of separators that are single characters, those
     tried earlier may find something else in a name; but not when the name was written with a
     character that no name holds.  Then every other split leaves this character in the plugin or
     in the function, and nothing is registered there (`eq_of_mem_candidates_join`).
-/
import FunctionCalling.Proofs.FurtherSeparators
import FunctionCalling.Proofs.Lookup
import FunctionCalling.Proofs.Occurrences

namespace FunctionCalling

open FunctionCalling.Text

namespace Naming

/-! ## What is tried -/

/-- The splits that are tried are those at the occurrences that are met. -/
theorem mem_candidates_iff {separators : List String} {fqn : String} {p : Parsed} :
    p ∈ candidates separators fqn ↔ ∃ s ∈ separators, s ≠ "" ∧ ∃ plugin, p.plugin = some plugin ∧
      Met s.toList fqn.toList plugin.toList p.function.toList := by
  have hlist : ∀ {s : String}, s ≠ "" → s.toList ≠ [] := by
    intro s hne
    simpa [String.toList_eq_nil_iff] using hne
  constructor
  · intro h
    obtain ⟨s, hs, hp⟩ := List.mem_flatMap.1 h
    obtain ⟨parts, hparts, rfl⟩ := List.mem_map.1 hp
    obtain ⟨hmem, husable⟩ := List.mem_filter.1 hs
    have hne : s ≠ "" := by
      simpa using husable
    refine ⟨s, hmem, hne, String.ofList parts.1, rfl, ?_⟩
    simpa [ofParts] using (mem_splits_iff (hlist hne)).1 hparts
  · rintro ⟨s, hs, hne, plugin, hplugin, hmet⟩
    have husable : s ∈ usable separators := List.mem_filter.2 ⟨hs, by simpa using hne⟩
    have hparts : (plugin.toList, p.function.toList) ∈ splits s.toList fqn.toList :=
      (mem_splits_iff (hlist hne)).2 hmet
    refine List.mem_flatMap.2 ⟨s, husable, List.mem_map.2 ⟨_, hparts, ?_⟩⟩
    rw [ofParts_toList, ← hplugin]

/-- The split of a name at an occurrence that is not overlapped is tried. -/
theorem mem_candidates_of_clear {separators : List String} {s p n : String} (hs : s ∈ separators)
    (hne : s ≠ "") (hclear : Clear s.toList p.toList n.toList) :
    ⟨some p, n⟩ ∈ candidates separators (p ++ s ++ n) := by
  refine mem_candidates_iff.2 ⟨s, hs, hne, p, rfl, ?_⟩
  rw [String.toList_append, String.toList_append]
  exact hclear.met (by simpa [String.toList_eq_nil_iff] using hne)

/-- In particular when the separator is a single character. -/
theorem mem_candidates_of_length_eq_one {separators : List String} {s : String}
    (hs : s ∈ separators) (hsingle : s.length = 1) (p n : String) :
    ⟨some p, n⟩ ∈ candidates separators (p ++ s ++ n) := by
  have hne : s ≠ "" := by
    rintro rfl
    cases hsingle
  have halone : ¬ OverlapsItself s.toList :=
    not_overlapsItself_of_length_eq_one (s.length_toList.trans hsingle)
  exact mem_candidates_of_clear hs hne (clear_of_not_overlapsItself halone _ _)

/-! ## What is found -/

/-- A name stands for a function when one of the splits that are tried does, or the whole name. -/
theorem isSome_resolve_trySeparators_iff (separators : List String) (fqn : String) (r : Registry) :
    ((trySeparators separators fqn (some r)).resolve r).isSome = true ↔
      (∃ p ∈ candidates separators fqn, (p.resolve r).isSome = true) ∨
        ((Parsed.whole fqn).resolve r).isSome = true := by
  rcases trySeparators_cases separators fqn r with ⟨p, hp, hread, hgood⟩ | ⟨hnone, hread⟩
  · rw [hread]
    exact ⟨fun _ => Or.inl ⟨p, hp, hgood⟩, fun _ => hgood⟩
  · rw [hread]
    constructor
    · exact Or.inr
    · rintro (⟨p, hp, hgood⟩ | hwhole)
      · rw [hnone p hp] at hgood
        cases hgood
      · exact hwhole

end Naming

/-- **A registered split is found unless it is passed over.**  Whatever separators are tried,

    1. the answer stands for a function exactly when the registry holds one under the split at an
       occurrence of a separator that is met, or under the whole name;
    2. so it does when the registry holds a function under the split at any occurrence of a
       separator that is not empty, provided that no occurrence of it further to the left reaches
       into this one; in particular when the separator does not overlap itself. -/
theorem found_unless_overlapped (r : Registry) (separators : List String) (fqn : String) :
    let read := Naming.trySeparators separators fqn (some r)
    ((read.resolve r).isSome = true ↔
      (∃ s ∈ separators, s ≠ "" ∧ ∃ p n, Text.Met s.toList fqn.toList p.toList n.toList ∧
        (r.get? (some p) n).isSome = true) ∨ (r.get? none fqn).isSome = true) ∧
    ∀ s ∈ separators, s ≠ "" → ∀ p n, fqn = p ++ s ++ n → (r.get? (some p) n).isSome = true →
      Text.Clear s.toList p.toList n.toList ∨ ¬ Text.OverlapsItself s.toList →
      (read.resolve r).isSome = true := by
  intro read
  have hfound := Naming.isSome_resolve_trySeparators_iff separators fqn r
  constructor
  · refine hfound.trans (or_congr ?_ Iff.rfl)
    constructor
    · rintro ⟨q, hq, hgood⟩
      obtain ⟨s, hs, hne, p, hplugin, hmet⟩ := Naming.mem_candidates_iff.1 hq
      rw [Naming.Parsed.resolve, hplugin] at hgood
      exact ⟨s, hs, hne, p, q.function, hmet, hgood⟩
    · rintro ⟨s, hs, hne, p, n, hmet, hgood⟩
      exact ⟨⟨some p, n⟩, Naming.mem_candidates_iff.2 ⟨s, hs, hne, p, rfl, hmet⟩, hgood⟩
  · rintro s hs hne p n rfl hgood hapart
    have hclear : Text.Clear s.toList p.toList n.toList :=
      hapart.elim id fun h => Text.clear_of_not_overlapsItself h _ _
    exact hfound.2 (Or.inl ⟨_, Naming.mem_candidates_of_clear hs hne hclear, hgood⟩)

/-- Two occurrences of one separator: the first leads nowhere, the second to the function. -/
theorem found_unless_overlapped_second :
    let read := Naming.trySeparators ["_"] "My_Tools_add" (some .sample)
    "My_Tools_add" = "My_Tools" ++ "_" ++ "add" ∧
      (Registry.sample.get? (some "My_Tools") "add").isSome = true ∧
      ¬ Text.OverlapsItself "_".toList ∧ (read.resolve .sample).isSome = true := by
  intro read
  have hgood : (Registry.sample.get? (some "My_Tools") "add").isSome = true := by decide
  have halone : ¬ Text.OverlapsItself "_".toList :=
    Text.not_overlapsItself_of_length_eq_one rfl
  refine ⟨rfl, hgood, halone, ?_⟩
  exact (found_unless_overlapped .sample ["_"] "My_Tools_add").2 "_" List.mem_cons_self (by decide)
    "My_Tools" "add" rfl hgood (Or.inr halone)

/-- A plugin of which the name ends in a character that a separator may be made of. -/
def Registry.trailing : Registry :=
  (Registration.start.run [.addFunctions "a_" [.echo "b"]]).registry

/-- Of two occurrences that overlap the second is passed over, and with it the only split under
    which there is a function. -/
theorem overlapped_split_missed :
    let read := Naming.trySeparators ["__"] "a___b" (some .trailing)
    Registry.trailing.Built ∧ "a___b" = "a_" ++ "__" ++ "b" ∧
      (Registry.trailing.get? (some "a_") "b").isSome = true ∧
      read = ⟨none, "a___b"⟩ ∧ read.resolve .trailing = none := by
  intro read
  have hread : read = ⟨none, "a___b"⟩ := by decide +kernel
  refine ⟨⟨_, rfl⟩, by decide, by decide, hread, ?_⟩
  rw [hread]
  rfl

/-! ## What is accepted -/

namespace Registry

/-- With a plugin, a lookup finds a function of the name in a plugin of the name. -/
theorem exists_plugin_of_get? {r : Registry} {q n : String} (hq : q ≠ "") {f : Callable}
    (h : r.get? (some q) n = some f) :
    ∃ p ∈ r.plugins, sameName p.name q = true ∧ f ∈ p.functions ∧ sameName f.name n = true := by
  rw [get?, Metadata.namedPlugin_some_of_ne hq] at h
  obtain ⟨p, hp, hf⟩ := Option.bind_eq_some_iff.1 h
  have hname : sameName p.name q = true :=
    List.find?_some (p := fun p : Plugin => sameName p.name q) hp
  exact ⟨p, List.mem_of_find?_eq_some hp, hname, Plugin.mem_and_sameName_of_get? hf⟩

end Registry

/-- **The registry holds what is read, or the name is left whole.**  Whatever separators are tried,
    the answer is the whole name as a function without a plugin, or it is a split of the name at
    one of the separators, which stands for a function:

    1. if the plugin that is read is not empty, for a function of the name that is read in a plugin
       of the name that is read;
    2. if it is empty, because the name begins with the separator, for the first function of the
       name that is read, in whatever plugin. -/
theorem accepted_if_registered (r : Registry) (separators : List String) (fqn : String) :
    let read := Naming.trySeparators separators fqn (some r)
    (∃ p f, read.plugin = some p ∧ read.resolve r = some f ∧
      (∃ s ∈ separators, s ≠ "" ∧ fqn = p ++ s ++ read.function) ∧
      (p ≠ "" → ∃ plugin ∈ r.plugins, Text.sameName plugin.name p = true ∧
        f ∈ plugin.functions ∧ Text.sameName f.name read.function = true) ∧
      (p = "" → (r.functions.find? fun g => Text.sameName g.name read.function) = some f)) ∨
    read = ⟨none, fqn⟩ := by
  intro read
  rcases Naming.trySeparators_cases separators fqn r with ⟨q, hq, hread, hgood⟩ | ⟨-, hread⟩
  · left
    obtain ⟨s, hs, hne, p, hplugin, hjoin⟩ := Naming.append_of_mem_candidates hq
    obtain ⟨f, hf⟩ := Option.isSome_iff_exists.1 hgood
    have hget : r.get? (some p) q.function = some f := by
      rw [← hplugin]
      exact hf
    obtain rfl : read = q := hread
    refine ⟨p, f, hplugin, hf, ⟨s, hs, hne, hjoin⟩, ?_, ?_⟩
    · intro hp
      exact Registry.exists_plugin_of_get? hp hget
    · rintro rfl
      exact (r.get?_none_eq_find? _).symm.trans hget
  · right
    exact hread

/-- A name in other letters than those registered is read, and the registry holds what is read. -/
theorem accepted_if_registered_recased :
    let read := Naming.trySeparators ["-", "_"] "my_TOOLS_ADD" (some .sample)
    read = ⟨some "my_TOOLS", "ADD"⟩ ∧
      ∃ plugin ∈ Registry.sample.plugins, Text.sameName plugin.name "my_TOOLS" = true ∧
        ∃ f ∈ plugin.functions, Text.sameName f.name "ADD" = true := by
  intro read
  have hread : read = ⟨some "my_TOOLS", "ADD"⟩ := by decide +kernel
  refine ⟨hread, ?_⟩
  rcases accepted_if_registered .sample ["-", "_"] "my_TOOLS_ADD" with
    ⟨p, f, hplugin, -, -, hnamed, -⟩ | hwhole
  · obtain rfl : "my_TOOLS" = p := Option.some.inj ((congrArg _ hread).symm.trans hplugin)
    obtain ⟨plugin, hmem, hname, hf, hfname⟩ := hnamed (by decide)
    have hfunction : read.function = "ADD" := congrArg _ hread
    exact ⟨plugin, hmem, hname, f, hf, hfunction ▸ hfname⟩
  · cases hread.symm.trans hwhole

/-- A name that begins with the separator is taken for the first function of what follows, though
    there is no plugin without a name. -/
theorem leading_separator_accepted :
    let read := Naming.trySeparators ["-"] "-Add" (some .sample)
    Registry.sample.Built ∧ read = ⟨some "", "Add"⟩ ∧
      ¬ ∃ plugin ∈ Registry.sample.plugins, Text.sameName plugin.name "" = true ∧
        ∃ f ∈ plugin.functions, Text.sameName f.name read.function = true := by
  intro read
  refine ⟨Registry.built_sample, by decide +kernel, ?_⟩
  rintro ⟨plugin, hmem, hname, -⟩
  have hvalid := (Registry.built_sample.wellFormed.plugins plugin hmem).isName
  rw [Text.isName_eq_of_sameName hname] at hvalid
  cases hvalid

/-! ## What was meant -/

namespace Text

/-- Between texts without foreign characters, those of the separator are all there are. -/
theorem filter_isForeign_join {before sep rest : List Char} (hbefore : before.countP isForeign = 0)
    (hrest : rest.countP isForeign = 0) :
    (before ++ sep ++ rest).filter isForeign = sep.filter isForeign := by
  rw [List.countP_eq_length_filter, List.length_eq_zero_iff] at hbefore hrest
  rw [List.filter_append, List.filter_append, hbefore, hrest, List.nil_append, List.append_nil]

/-- A single character is foreign or it is not. -/
theorem filter_isForeign_of_length_eq_one {sep : List Char} (h : sep.length = 1)
    (hforeign : sep.filter isForeign ≠ []) : sep.filter isForeign = sep := by
  obtain ⟨c, rfl⟩ := List.length_eq_one_iff.1 h
  by_cases hc : isForeign c = true
  · simp [hc]
  · simp [hc] at hforeign

end Text

namespace Naming

/-- Where anything is found, nothing that was read holds a foreign character. -/
theorem countP_isForeign_of_resolve {r : Registry} (hr : r.WellFormed) {p n : String}
    {f : Callable} (h : Parsed.resolve ⟨some p, n⟩ r = some f) :
    p.toList.countP isForeign = 0 ∧ n.toList.countP isForeign = 0 := by
  refine ⟨?_, countP_isForeign_of_isName (Registry.isName_of_get? hr h)⟩
  by_cases hp : p = ""
  · subst hp
    rfl
  · exact countP_isForeign_of_isName (Registry.isName_plugin_of_get? hr hp h)

/-- **A name that was joined around a foreign character can be split there only**, if the registry
    is to hold what is read and all separators are single characters. -/
theorem eq_of_mem_candidates_join {separators : List String}
    (hsingle : ∀ t ∈ separators, t.length = 1) {r : Registry} (hr : r.WellFormed) {s p n : String}
    (hs : s ∈ separators) (hforeign : standsOut s = true) (hp : isName p = true)
    (hn : isName n = true) {q : Parsed} (hq : q ∈ candidates separators (p ++ s ++ n))
    (hgood : (q.resolve r).isSome = true) : q = ⟨some p, n⟩ := by
  obtain ⟨t, ht, -, plugin, hplugin, hjoin⟩ := append_of_mem_candidates hq
  obtain ⟨_, m⟩ := q
  obtain rfl : _ = some plugin := hplugin
  obtain ⟨f, hf⟩ := Option.isSome_iff_exists.1 hgood
  obtain ⟨hplugin0, hm0⟩ := countP_isForeign_of_resolve hr hf
  have hp0 := countP_isForeign_of_isName hp
  have hn0 := countP_isForeign_of_isName hn
  have hlists : p.toList ++ s.toList ++ n.toList = plugin.toList ++ t.toList ++ m.toList := by
    simpa using congrArg String.toList hjoin
  -- the foreign characters on both sides are those of the separators, so these are the same
  have hparts : s.toList.filter isForeign = t.toList.filter isForeign := by
    rw [← filter_isForeign_join hp0 hn0, hlists, filter_isForeign_join hplugin0 hm0]
  have hsome : s.toList.filter isForeign ≠ [] := by
    obtain ⟨c, hc, hcforeign⟩ := List.any_eq_true.1 hforeign
    exact List.ne_nil_of_mem (List.mem_filter.2 ⟨hc, hcforeign⟩)
  have hsame : s.toList = t.toList := by
    have hfroms := filter_isForeign_of_length_eq_one (s.length_toList.trans (hsingle s hs)) hsome
    have hfromt := filter_isForeign_of_length_eq_one (t.length_toList.trans (hsingle t ht))
      (hparts ▸ hsome)
    rw [← hfroms, hparts, hfromt]
  rw [← hsame] at hlists
  obtain ⟨hfront, hback⟩ := join_inj hforeign hp0 hn0 hlists
  rw [String.toList_inj.1 hfront, String.toList_inj.1 hback]

/-- With a reader that tries separators, a policy finds what the reader finds. -/
theorem Policy.resolve_of_reader {policy : Policy} {read : NameReader}
    (h : policy.reader = some read) (fqn : String) (r : Registry) :
    policy.resolve fqn r = (read fqn (some r)).resolve r := by
  simp only [Policy.resolve, Policy.parse, h]

end Naming

/-- **A name is recovered whatever else is tried.**  Let a policy read names by trying separators
    that are single characters.  The name of a registered function, written with its plugin and any
    one of the separators, stands for some function of the registry; it stands for the very function
    if no name holds the separator, in whatever order the separators are tried and whatever the
    others are. -/
theorem recovered_whatever_is_tried {r : Registry} (hr : r.Built) {policy : Naming.Policy}
    {separators : List String} (hreader : policy.reader = some (Naming.trySeparators separators))
    (hsingle : ∀ t ∈ separators, t.length = 1) {plugin : Plugin} (hplugin : plugin ∈ r.plugins)
    {f : Callable} (hf : f ∈ plugin.functions) {s : String} (hs : s ∈ separators) :
    (∃ g ∈ r.functions, policy.resolve (plugin.name ++ s ++ f.name) r = some g) ∧
      (Text.standsOut s = true → policy.resolve (plugin.name ++ s ++ f.name) r = some f) := by
  have hwf := hr.wellFormed
  rw [Naming.Policy.resolve_of_reader hreader]
  -- the split at the separator is tried, and the registry holds the function under it
  have htried := Naming.mem_candidates_of_length_eq_one hs (hsingle s hs) plugin.name f.name
  have hself : Naming.Parsed.resolve ⟨some plugin.name, f.name⟩ r = some f := by
    have hfound := Registry.get?_self hwf (Registry.mem_functions_iff.2 ⟨plugin, hplugin, hf⟩)
    rw [Registry.plugin_of_mem hwf hplugin hf] at hfound
    exact hfound
  have hgood : (Naming.Parsed.resolve ⟨some plugin.name, f.name⟩ r).isSome = true :=
    Option.isSome_iff_exists.2 ⟨f, hself⟩
  rcases Naming.trySeparators_cases separators (plugin.name ++ s ++ f.name) r with
    ⟨q, hq, hread, hqgood⟩ | ⟨hnone, -⟩
  · rw [hread]
    constructor
    · obtain ⟨g, hg⟩ := Option.isSome_iff_exists.1 hqgood
      exact ⟨g, (Registry.mem_and_sameName_of_get? hg).1, hg⟩
    · intro hforeign
      rw [Naming.eq_of_mem_candidates_join hsingle hwf hs hforeign (hwf.plugins _ hplugin).isName
        ((hwf.plugins _ hplugin).members_isName f hf) hq hqgood]
      exact hself
  · rw [hnone _ htried] at hgood
    cases hgood

/-- Two separators that names hold are tried before the one that was used, and both occur. -/
theorem recovered_whatever_is_tried_last :
    let policy : Naming.Policy := { Naming.Policy.default with
      reader := some (Naming.trySeparators ["d", "_", "~"]) }
    let f : Callable := .ofMember 2 "My_Tools" (.echo "add")
    Text.standsOut "~" = true ∧ policy.resolve "My_Tools~add" .sample = some f ∧
      ∃ g ∈ Registry.sample.functions, policy.resolve "My_Tools_add" .sample = some g := by
  intro policy f
  have hplugin : (⟨"My_Tools", "", [f]⟩ : Plugin) ∈ Registry.sample.plugins := by
    rw [show Registry.sample.plugins = [_, ⟨"My_Tools", "", [f]⟩] from rfl]
    exact List.mem_cons_of_mem _ List.mem_cons_self
  have hsingle : ∀ t ∈ ["d", "_", "~"], t.length = 1 := by decide
  have hforeign : Text.standsOut "~" = true := by decide
  have htilde : "~" ∈ ["d", "_", "~"] := by decide
  have hunderscore : "_" ∈ ["d", "_", "~"] := by decide
  have hreader : policy.reader = some (Naming.trySeparators ["d", "_", "~"]) := rfl
  obtain ⟨-, hsame⟩ := recovered_whatever_is_tried Registry.built_sample hreader hsingle hplugin
    List.mem_cons_self htilde
  obtain ⟨hsome, -⟩ := recovered_whatever_is_tried Registry.built_sample hreader hsingle hplugin
    List.mem_cons_self hunderscore
  exact ⟨hforeign, hsame hforeign, hsome⟩

end FunctionCalling
