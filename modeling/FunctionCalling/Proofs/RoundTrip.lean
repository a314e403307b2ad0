/-
  Names that are read back as they were built.

  A fully qualified name says which function is meant only if it can be taken apart again.  This
  is so for every separator that stands out, that is, holds a character that no name holds:

  1. the name of a plugin, the separator and the name of a function are joined in one way only
     (`join_inj`), wherever else the separator might seem to begin;
  2. so the first occurrence of the separator is the one that was put there (`splitFirst_join`),
     and the first split that is tried is the right one, whatever else would be tried after it
     (`trySeparators_join`);
  3. hence names are read back as they were built (`parse_fqn`), and names that differ in the case
     of letters at most are names of one function.

  The crux is 1.  The characters that no name holds are counted: the separator has them all, so
  another reading has none outside the separator either, and then the first of them is equally
  far from the beginning of the separator in both readings.
-/
import FunctionCalling.Proofs.Registering
import FunctionCalling.Settings

namespace FunctionCalling

open FunctionCalling.Text

/-! ## Separators that stand out -/

namespace Text

/-- A character that no name holds. -/
def isForeign (c : Char) : Bool :=
  !isNameChar c

/-- A separator stands out when it holds a character that no name holds. -/
def standsOut (separator : String) : Bool :=
  separator.toList.any isForeign

@[simp] theorem isForeign_toLower (c : Char) : isForeign c.toLower = isForeign c := by
  simp [isForeign]

/-- Whether a separator stands out does not depend on the case of its letters. -/
@[simp] theorem standsOut_fold (separator : String) :
    standsOut (fold separator) = standsOut separator := by
  simp [standsOut, fold, List.any_map, Function.comp_def]

theorem ne_empty_of_standsOut {separator : String} (h : standsOut separator = true) :
    separator ≠ "" := by
  rintro rfl
  exact absurd h (by decide)

/-- Names hold nothing foreign. -/
theorem countP_isForeign_of_isName {s : String} (h : isName s = true) :
    s.toList.countP isForeign = 0 := by
  refine List.countP_eq_zero.2 ?_
  intro c hc
  simp [isForeign, isNameChar_of_isName h c hc]

/-- Where nothing foreign comes before the separator, the first foreign character is as far behind
    the beginning of the separator as in the separator itself. -/
theorem findIdx_isForeign_join {before sep rest : List Char} (hsep : sep.any isForeign = true)
    (hbefore : before.countP isForeign = 0) :
    (before ++ sep ++ rest).findIdx isForeign = before.length + sep.findIdx isForeign := by
  have hnone : before.findIdx isForeign = before.length := by
    refine List.findIdx_eq_length.2 ?_
    intro c hc
    exact eq_false_of_ne_true (List.countP_eq_zero.1 hbefore c hc)
  have hin : sep.findIdx isForeign < sep.length := by
    obtain ⟨c, hc, hforeign⟩ := List.any_eq_true.1 hsep
    exact List.findIdx_lt_length.2 ⟨c, hc, hforeign⟩
  rw [List.append_assoc, List.findIdx_append, List.findIdx_append, hnone,
    if_neg (Nat.lt_irrefl _), if_pos hin, Nat.add_comm]

/-- **A text is joined around a separator that stands out in one way only**, when nothing else in
    it is foreign. -/
theorem join_inj {before before' sep rest rest' : List Char} (hsep : sep.any isForeign = true)
    (hbefore : before.countP isForeign = 0) (hrest : rest.countP isForeign = 0)
    (h : before ++ sep ++ rest = before' ++ sep ++ rest') : before = before' ∧ rest = rest' := by
  -- all that is foreign is in the separator, so nothing of it is left for `before'`
  have hbefore' : before'.countP isForeign = 0 := by
    have hcount := congrArg (List.countP isForeign) h
    simp only [List.countP_append] at hcount
    omega
  have hlength : before.length = before'.length := by
    have hfirst := congrArg (List.findIdx isForeign) h
    rw [findIdx_isForeign_join hsep hbefore, findIdx_isForeign_join hsep hbefore'] at hfirst
    omega
  exact eq_of_join_eq_of_length_eq h hlength

/-- The first occurrence of a separator that stands out is the one it was put at. -/
theorem splitFirst_join {before sep rest : List Char} (hsep : sep.any isForeign = true)
    (hbefore : before.countP isForeign = 0) (hrest : rest.countP isForeign = 0) :
    splitFirst sep (before ++ sep ++ rest) = some (before, rest) := by
  obtain ⟨parts, hparts⟩ := Option.isSome_iff_exists.1 (isSome_splitFirst before sep rest)
  obtain ⟨rfl, rfl⟩ := join_inj hsep hbefore hrest (append_of_splitFirst hparts)
  exact hparts

/-- A separator that stands out does not occur where nothing is foreign. -/
theorem splitFirst_eq_none {sep s : List Char} (hsep : sep.any isForeign = true)
    (hs : s.countP isForeign = 0) : splitFirst sep s = none := by
  cases hsplit : splitFirst sep s with
  | none => rfl
  | some parts =>
    have hcount := congrArg (List.countP isForeign) (append_of_splitFirst hsplit)
    have hpos : 0 < sep.countP isForeign := by
      obtain ⟨c, hc, hforeign⟩ := List.any_eq_true.1 hsep
      exact List.countP_pos_iff.2 ⟨c, hc, hforeign⟩
    simp only [List.countP_append] at hcount
    omega

/-- Names that are joined around a separator that stands out are the same names, but for the case
    of letters, when the joined names are. -/
theorem sameName_of_sameName_join {separator p q n m : String} (hsep : standsOut separator = true)
    (hp : isName p = true) (hn : isName n = true)
    (h : sameName (p ++ separator ++ n) (q ++ separator ++ m) = true) :
    sameName p q = true ∧ sameName n m = true := by
  have hfold := sameName_iff.1 h
  rw [← String.toList_inj] at hfold
  simp only [fold_append, String.toList_append] at hfold
  rw [← standsOut_fold] at hsep
  rw [← isName_fold] at hp hn
  obtain ⟨hplugin, hname⟩ := join_inj hsep (countP_isForeign_of_isName hp)
    (countP_isForeign_of_isName hn) hfold
  exact ⟨sameName_iff.2 (String.toList_inj.1 hplugin), sameName_iff.2 (String.toList_inj.1 hname)⟩

end Text

/-! ## Reading names back -/

namespace Naming

/-- The first occurrence of the separator in a name that was joined. -/
theorem splitFirst_toList_join {separator p n : String} (hsep : standsOut separator = true)
    (hp : isName p = true) (hn : isName n = true) :
    splitFirst separator.toList (p ++ separator ++ n).toList = some (p.toList, n.toList) := by
  rw [String.toList_append, String.toList_append]
  exact splitFirst_join hsep (countP_isForeign_of_isName hp) (countP_isForeign_of_isName hn)

theorem ofParts_toList (p n : String) : ofParts (p.toList, n.toList) = ⟨some p, n⟩ := by
  simp [ofParts]

/-- A name that was joined around a separator that stands out is split into its parts. -/
theorem split_join {separator p n : String} (hsep : standsOut separator = true)
    (hp : isName p = true) (hn : isName n = true) :
    split separator (p ++ separator ++ n) = ⟨some p, n⟩ := by
  have hne : separator.isEmpty = false := by
    simpa using ne_empty_of_standsOut hsep
  rw [split, hne, if_neg Bool.false_ne_true, splitFirst_toList_join hsep hp hn]
  exact ofParts_toList p n

/-- A name alone has no separator that stands out. -/
theorem split_name {separator n : String} (hsep : standsOut separator = true)
    (hn : isName n = true) : split separator n = .whole n := by
  have hne : separator.isEmpty = false := by
    simpa using ne_empty_of_standsOut hsep
  have hnone := splitFirst_eq_none hsep (countP_isForeign_of_isName hn)
  simp [split, hne, hnone]

/-- The first split that is tried is that at the first occurrence of the first separator. -/
theorem head?_candidates {separator fqn : String} (hne : separator ≠ "")
    {parts : List Char × List Char}
    (h : splitFirst separator.toList fqn.toList = some parts) (others : List String) :
    (candidates (separator :: others) fqn).head? = some (ofParts parts) := by
  have husable : usable (separator :: others) = separator :: usable others := by
    simp [usable, hne]
  have hlist : separator.toList ≠ [] := by
    simpa [String.toList_eq_nil_iff] using hne
  rw [candidates, husable, List.flatMap_cons, List.head?_append, List.head?_map,
    head?_splits hlist, h]
  rfl

/-- When the registry holds what that first split says, no other separator and no other split is
    tried. -/
theorem trySeparators_of_splitFirst {separator fqn : String} (hne : separator ≠ "")
    {parts : List Char × List Char}
    (h : splitFirst separator.toList fqn.toList = some parts) (others : List String)
    {r : Registry} (hfound : ((ofParts parts).resolve r).isSome = true) :
    trySeparators (separator :: others) fqn (some r) = ofParts parts := by
  obtain ⟨rest, hcandidates⟩ := List.head?_eq_some_iff.1 (head?_candidates hne h others)
  simp only [trySeparators, hcandidates, List.find?_cons, hfound, Option.getD_some]

/-- In particular a name that was joined is read as the names it was joined from. -/
theorem trySeparators_join {separator p n : String} (hsep : standsOut separator = true)
    (hp : isName p = true) (hn : isName n = true) (others : List String) {r : Registry}
    (hfound : (r.get? (some p) n).isSome = true) :
    trySeparators (separator :: others) (p ++ separator ++ n) (some r) = ⟨some p, n⟩ := by
  have hparts := ofParts_toList p n
  rw [← hparts]
  refine trySeparators_of_splitFirst (ne_empty_of_standsOut hsep)
    (splitFirst_toList_join hsep hp hn) others ?_
  rw [hparts]
  exact hfound

end Naming

/-! ## Policies from settings -/

namespace PolicySettings

/-- Unless functions go by their name alone, plugin and function are joined by the separator. -/
theorem fqn_toPolicy {separator : String} {others : List String} {m : Metadata} {p : String}
    (hp : m.plugin = some p) :
    (PolicySettings.mk separator false others).toPolicy.fqn m = p ++ separator ++ m.name :=
  Naming.Policy.fqn_of_plugin rfl hp

/-- A function that has no plugin goes by its name. -/
theorem fqn_toPolicy_of_none {separator : String} {others : List String} {m : Metadata}
    (hp : m.plugin = none) :
    (PolicySettings.mk separator false others).toPolicy.fqn m = m.name :=
  Naming.Policy.fqn_of_no_plugin hp

/-- A policy of which the separator is used and stands out reads the name it builds for a function
    as the plugin and the name it was built from, when the registry holds these.  A name without a
    plugin is only safe when there are no other separators: they may occur in it. -/
theorem parse_fqn {separator : String} (hsep : Text.standsOut separator = true)
    {others : List String} {r : Registry} (hr : r.WellFormed) {m : Metadata}
    (hplain : m.plugin ≠ none ∨ others = []) (hfound : r.contains m = true) :
    let policy := (PolicySettings.mk separator false others).toPolicy
    policy.parse (policy.fqn m) (some r) = ⟨m.plugin, m.name⟩ := by
  intro policy
  obtain ⟨e, he⟩ := Option.isSome_iff_exists.1 hfound
  have hname : Text.isName m.name = true := Registry.isName_of_get? hr he
  cases hp : m.plugin with
  | none =>
    obtain rfl : others = [] := hplain.resolve_left fun hne => hne hp
    rw [fqn_toPolicy_of_none hp]
    show Naming.split separator m.name = .whole m.name
    exact Naming.split_name hsep hname
  | some p =>
    rw [Registry.entry?, hp] at he
    have hne : p ≠ "" := (Metadata.namedPlugin_eq_some_iff.1 hp).2
    have hpname := Registry.isName_plugin_of_get? hr hne he
    rw [fqn_toPolicy hp]
    -- without other separators the policy has no reader of its own
    cases others with
    | nil =>
      show Naming.split separator (p ++ separator ++ m.name) = ⟨some p, m.name⟩
      exact Naming.split_join hsep hpname hname
    | cons s others =>
      show Naming.trySeparators (separator :: s :: others) (p ++ separator ++ m.name) (some r) =
        ⟨some p, m.name⟩
      exact Naming.trySeparators_join hsep hpname hname (s :: others)
        (Option.isSome_iff_exists.2 ⟨e, he⟩)

/-- The name built for a function that the registry holds stands for what the registry holds. -/
theorem resolve_fqn {separator : String} (hsep : Text.standsOut separator = true)
    {others : List String} {r : Registry} (hr : r.WellFormed) {m : Metadata}
    (hplain : m.plugin ≠ none ∨ others = []) {e : Callable} (he : r.entry? m = some e) :
    let policy := (PolicySettings.mk separator false others).toPolicy
    policy.resolve (policy.fqn m) r = some e := by
  intro policy
  have hparse := parse_fqn hsep hr hplain (Option.isSome_iff_exists.2 ⟨e, he⟩)
  rw [Naming.Policy.resolve, hparse]
  exact he

end PolicySettings

/-- **Names are read back as they were built.**  A policy of which the separator is used and stands
    out, whatever other separators it may try,

    1. reads the name it builds for a registered function as the name of the plugin that has the
       function and the name of the function, and so finds that very function;
    2. builds names for the functions of the registry of which no two differ in the case of
       letters at most. -/
theorem fqn_round_trip {r : Registry} (hr : r.Built) {separator : String}
    (hsep : Text.standsOut separator = true) (others : List String) :
    let policy := (PolicySettings.mk separator false others).toPolicy
    (∀ plugin ∈ r.plugins, ∀ f ∈ plugin.functions,
      policy.parse (policy.fqn f.metadata) (some r) = ⟨some plugin.name, f.name⟩ ∧
      policy.resolve (policy.fqn f.metadata) r = some f) ∧
    (r.functions.map fun f => Text.fold (policy.fqn f.metadata)).Nodup := by
  intro policy
  have hwf := hr.wellFormed
  constructor
  · intro plugin hplugin f hf
    have hp : f.metadata.plugin = some plugin.name := Registry.plugin_of_mem hwf hplugin hf
    have hplain : f.metadata.plugin ≠ none ∨ others = [] := by
      left
      rw [hp]
      exact Option.some_ne_none _
    have hself : r.entry? f.metadata = some f :=
      Registry.get?_self hwf (Registry.mem_functions_iff.2 ⟨plugin, hplugin, hf⟩)
    refine ⟨?_, PolicySettings.resolve_fqn hsep hwf hplain hself⟩
    have hparse := PolicySettings.parse_fqn hsep hwf hplain (Option.isSome_iff_exists.2 ⟨f, hself⟩)
    rw [hp] at hparse
    exact hparse
  · -- functions whose names agree but for case are in one plugin and have one name: they are one
    refine (Registry.nodup_functions hwf).map_on ?_
    intro f hf g hg hfold
    obtain ⟨p, hp, hfp⟩ := Registry.mem_functions_iff.1 hf
    obtain ⟨q, hq, hgq⟩ := Registry.mem_functions_iff.1 hg
    rw [PolicySettings.fqn_toPolicy (Registry.plugin_of_mem hwf hp hfp),
      PolicySettings.fqn_toPolicy (Registry.plugin_of_mem hwf hq hgq)] at hfold
    obtain ⟨hplugin, hname⟩ := Text.sameName_of_sameName_join hsep (hwf.plugins p hp).isName
      ((hwf.plugins p hp).members_isName f hfp) (Text.sameName_iff.2 hfold)
    exact Registry.eq_of_sameName hwf hp hq hfp hgq hplugin hname

/-- The separator ends the name of the plugin as well, and two of the others that may be tried
    occur further to the left; still the name is read back. -/
theorem fqn_round_trip_sample :
    let policy := (PolicySettings.mk "s-" false ["", "_", "s"]).toPolicy
    let f : Callable := .ofMember 2 "My_Tools" (.echo "add")
    Text.standsOut "s-" = true ∧ policy.fqn f.metadata = "My_Toolss-add" ∧
      policy.parse "My_Toolss-add" (some .sample) = ⟨some "My_Tools", "add"⟩ ∧
      policy.resolve "My_Toolss-add" .sample = some f := by
  intro policy f
  have hsep : Text.standsOut "s-" = true := by decide
  have hfqn : policy.fqn f.metadata = "My_Toolss-add" := by decide
  have hplugin : (⟨"My_Tools", "", [f]⟩ : Plugin) ∈ Registry.sample.plugins := by
    rw [show Registry.sample.plugins = [_, ⟨"My_Tools", "", [f]⟩] from rfl]
    exact List.mem_cons_of_mem _ List.mem_cons_self
  obtain ⟨hparse, hresolve⟩ := (fqn_round_trip Registry.built_sample hsep ["", "_", "s"]).1
    ⟨"My_Tools", "", [f]⟩ hplugin f List.mem_cons_self
  exact ⟨hsep, hfqn, hfqn ▸ hparse, hfqn ▸ hresolve⟩

end FunctionCalling
