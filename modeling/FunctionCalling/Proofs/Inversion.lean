/-
  When building a name and taking it apart undo each other.

  `RoundTrip` shows that names are read back for registered functions and separators that stand
  out.  Here nothing is supposed of the names or of the separator, and both directions are exact,
  for policies without a reader of their own:

  1. a name that was joined is split where the separator FIRST occurs.  That is the place it was
     put at unless it begins earlier, and an occurrence that begins earlier also ends earlier.  So
     the rest of the name does not matter: the plugin and the separator alone decide
     (`splitFirst_join_eq_some_iff`).  The earlier occurrence may lie in the plugin, or reach from
     the plugin into the separator that was put there;
  2. a name that was not joined is read as a whole unless the separator occurs in it;
  3. what a name is split into is joined to that name again, except that an empty plugin is none,
     and without a plugin the separator is not written.  So only a name that begins with the
     separator is lost (`fqn_split_iff`).
-/
import FunctionCalling.Proofs.FurtherSeparators
import FunctionCalling.Proofs.Occurrences

namespace FunctionCalling

open FunctionCalling.Text

/-! ## Where the first occurrence is -/

namespace Text

/-- A text occurs in another and begins before a place in it. -/
def OccursBefore (part s : String) (place : Nat) : Prop :=
  ∃ before after, s = before ++ part ++ after ∧ before.length < place

/-- A text begins with another. -/
def BeginsWith (lead s : String) : Prop :=
  ∃ rest, s = lead ++ rest

theorem BeginsWith.occurs {lead s : String} (h : BeginsWith lead s) : Occurs lead s := by
  obtain ⟨rest, rfl⟩ := h
  exact ⟨"", rest, by simp⟩

theorem not_occursBefore_iff {part s : String} {place : Nat} :
    ¬ OccursBefore part s place ↔
      ∀ before after, s.toList = before ++ part.toList ++ after → place ≤ before.length := by
  constructor
  · intro h before after hjoin
    refine Nat.not_lt.1 fun hlt => h ⟨String.ofList before, String.ofList after, ?_, ?_⟩
    · rw [← String.toList_inj, hjoin]
      simp
    · rw [String.length_ofList]
      exact hlt
  · rintro h ⟨before, after, rfl, hlt⟩
    have hle := h before.toList after.toList (by simp)
    rw [String.length_toList] at hle
    omega

/-- **A joined text is split where it was joined** exactly when, in what comes before the rest, no
    occurrence of the separator begins earlier. -/
theorem splitFirst_join_eq_some_iff {sep before rest : List Char} :
    splitFirst sep (before ++ sep ++ rest) = some (before, rest) ↔
      ∀ before' after, before ++ sep = before' ++ sep ++ after →
        before.length ≤ before'.length := by
  constructor
  · intro h before' after hearlier
    have hjoin : before ++ sep ++ rest = before' ++ sep ++ (after ++ rest) := by
      rw [hearlier, List.append_assoc]
    exact length_le_of_splitFirst h hjoin
  · intro h
    obtain ⟨⟨before', rest'⟩, hfirst⟩ :=
      Option.isSome_iff_exists.1 (isSome_splitFirst before sep rest)
    have hjoin := append_of_splitFirst hfirst
    have hle : before'.length ≤ before.length := length_le_of_splitFirst hfirst rfl
    -- the first occurrence ends before the rest begins, so it is one of those in question
    obtain ⟨after, hafter⟩ : before' ++ sep <+: before ++ sep := by
      refine List.prefix_of_prefix_length_le ⟨rest', hjoin.symm⟩ ⟨rest, rfl⟩ ?_
      simp only [List.length_append]
      omega
    have hge := h before' after hafter.symm
    obtain ⟨rfl, rfl⟩ := eq_of_join_eq_of_length_eq hjoin (by omega)
    exact hfirst

/-- Nothing comes before the first occurrence exactly when the text begins with the separator. -/
theorem splitFirst_before_eq_nil_iff {separator s : String} {parts : List Char × List Char}
    (h : splitFirst separator.toList s.toList = some parts) :
    parts.1 = [] ↔ BeginsWith separator s := by
  have hjoin := append_of_splitFirst h
  constructor
  · intro hnil
    refine ⟨String.ofList parts.2, ?_⟩
    rw [← String.toList_inj, hjoin, hnil]
    simp
  · rintro ⟨rest, rfl⟩
    have hlead : (separator ++ rest).toList = [] ++ separator.toList ++ rest.toList :=
      String.toList_append
    exact List.length_eq_zero_iff.1 (Nat.le_zero.1 (length_le_of_splitFirst h hlead))

end Text

/-! ## Names that are taken apart -/

namespace Naming

theorem ofParts_eq_iff {parts : List Char × List Char} {p n : String} :
    ofParts parts = ⟨some p, n⟩ ↔ parts = (p.toList, n.toList) := by
  constructor
  · intro h
    obtain ⟨hplugin, hfunction⟩ := Parsed.mk.inj h
    rw [← Option.some.inj hplugin, ← hfunction]
    simp
  · rintro rfl
    exact ofParts_toList p n

/-- A name that was joined is split into its parts exactly when the separator does not begin
    earlier than where it was put. -/
theorem split_join_iff {separator : String} (hsep : separator ≠ "") (p n : String) :
    split separator (p ++ separator ++ n) = ⟨some p, n⟩ ↔
      ¬ OccursBefore separator (p ++ separator) p.length := by
  have hoccurs : Occurs separator (p ++ separator ++ n) := ⟨p, n, rfl⟩
  obtain ⟨parts, hparts⟩ := exists_splitFirst_of_occurs hoccurs
  rw [split_of_splitFirst hsep hparts, ofParts_eq_iff, not_occursBefore_iff, ← Option.some_inj,
    ← hparts, ← String.length_toList]
  simp only [String.toList_append]
  exact splitFirst_join_eq_some_iff

/-- A name is taken as a whole exactly when the separator does not occur in it. -/
theorem split_eq_whole_iff {separator : String} (hsep : separator ≠ "") (fqn : String) :
    split separator fqn = .whole fqn ↔ ¬ Occurs separator fqn := by
  constructor
  · intro h hoccurs
    obtain ⟨parts, hparts⟩ := exists_splitFirst_of_occurs hoccurs
    rw [split_of_splitFirst hsep hparts] at h
    cases (Parsed.mk.inj h).1
  · intro h
    exact split_eq_whole fun _ => h

/-! ## Names that are put together again -/

namespace Policy

variable {policy : Policy}

/-- The parts of a name are joined to that name again, unless there was nothing before the
    separator. -/
theorem fqn_ofParts_iff (hbare : policy.nameOnly = false) {fqn : String}
    {parts : List Char × List Char} (hsep : policy.separator ≠ "")
    (h : splitFirst policy.separator.toList fqn.toList = some parts) {m : Metadata}
    (hplugin : m.pluginName = (ofParts parts).plugin) (hname : m.name = (ofParts parts).function) :
    policy.fqn m = fqn ↔ ¬ BeginsWith policy.separator fqn := by
  have hjoin : fqn = String.ofList parts.1 ++ policy.separator ++ m.name := by
    rw [← String.toList_inj, append_of_splitFirst h, hname]
    simp [ofParts]
  rw [← splitFirst_before_eq_nil_iff h]
  by_cases hnil : parts.1 = []
  · have hnone : m.plugin = none := by
      rw [Metadata.plugin, hplugin]
      simp [ofParts, hnil, Metadata.namedPlugin]
    rw [fqn_of_no_plugin hnone]
    simp only [hnil, not_true_eq_false, iff_false]
    intro hsame
    -- the name would be its own rest
    have hlength := congrArg String.length (hsame.trans hjoin)
    have hpos : policy.separator.length ≠ 0 := by
      simpa using hsep
    simp only [String.length_append] at hlength
    omega
  · have hsome : m.plugin = some (String.ofList parts.1) := by
      rw [Metadata.plugin, hplugin]
      exact Metadata.namedPlugin_some_of_ne (by simpa using hnil)
    rw [fqn_of_plugin hbare hsome, ← hjoin]
    simp [hnil]

/-- **What a name is split into is joined to that name again**, unless the name begins with the
    separator. -/
theorem fqn_split_iff (hbare : policy.nameOnly = false) {fqn : String} {m : Metadata}
    (hplugin : m.pluginName = (split policy.separator fqn).plugin)
    (hname : m.name = (split policy.separator fqn).function) :
    policy.fqn m = fqn ↔ policy.separator = "" ∨ ¬ BeginsWith policy.separator fqn := by
  by_cases hoccurs : policy.separator ≠ "" ∧ Occurs policy.separator fqn
  · obtain ⟨hsep, hin⟩ := hoccurs
    obtain ⟨parts, hparts⟩ := exists_splitFirst_of_occurs hin
    rw [split_of_splitFirst hsep hparts] at hplugin hname
    rw [fqn_ofParts_iff hbare hsep hparts hplugin hname]
    simp [hsep]
  · rw [split_eq_whole (not_and.1 hoccurs)] at hplugin hname
    have hnone : m.plugin = none := by
      rw [Metadata.plugin, hplugin]
      rfl
    rw [fqn_of_no_plugin hnone, hname]
    refine iff_of_true rfl ?_
    by_cases hsep : policy.separator = ""
    · exact Or.inl hsep
    · exact Or.inr fun hlead => hoccurs ⟨hsep, hlead.occurs⟩

end Policy

end Naming

/-- **Building names and reading them invert each other**, and when exactly.  Let a policy have no
    reader of its own.  When functions do not go by their name alone and the separator is not empty,

    1. the name built for a function with a plugin is read as that plugin and that function exactly
       when, in the plugin and the separator put together, no occurrence of the separator begins
       within the plugin;
    2. the name built for a function without a plugin, or with an empty one, is read as that
       function exactly when the separator does not occur in it.

    Under any such policy the name built from what a name was read as is that name again exactly
    when functions go by their name alone, the separator is empty, or the name does not begin with
    it. -/
theorem building_and_reading_invert (policy : Naming.Policy) (hreader : policy.reader = none)
    (registry : Option Registry) :
    (policy.nameOnly = false → policy.separator ≠ "" → ∀ m : Metadata,
      (∀ p, m.plugin = some p →
        (policy.parse (policy.fqn m) registry = ⟨some p, m.name⟩ ↔
          ¬ Text.OccursBefore policy.separator (p ++ policy.separator) p.length)) ∧
      (m.plugin = none →
        (policy.parse (policy.fqn m) registry = ⟨none, m.name⟩ ↔
          ¬ Text.Occurs policy.separator m.name))) ∧
    ∀ (fqn : String) (m : Metadata), m.pluginName = (policy.parse fqn registry).plugin →
      m.name = (policy.parse fqn registry).function →
      (policy.fqn m = fqn ↔ policy.nameOnly = true ∨ policy.separator = "" ∨
        ¬ Text.BeginsWith policy.separator fqn) := by
  constructor
  · intro hbare hsep m
    rw [Naming.Policy.parse_of_not_nameOnly hbare hreader]
    constructor
    · intro p hp
      rw [Naming.Policy.fqn_of_plugin hbare hp]
      exact Naming.split_join_iff hsep p m.name
    · intro hnone
      rw [Naming.Policy.fqn_of_no_plugin hnone]
      exact Naming.split_eq_whole_iff hsep m.name
  · intro fqn m hplugin hname
    cases hbare : policy.nameOnly with
    | true =>
      rw [Naming.Policy.parse_of_nameOnly hbare hreader] at hname
      rw [Naming.Policy.fqn_of_nameOnly hbare, hname]
      exact iff_of_true rfl (Or.inl rfl)
    | false =>
      rw [Naming.Policy.parse_of_not_nameOnly hbare hreader] at hplugin hname
      rw [Naming.Policy.fqn_split_iff hbare hplugin hname]
      simp

/-- The plugin ends in what the separator begins with, so its name is read back as another plugin
    and another function, though it is built from these again.  A name that begins with the
    separator is not. -/
theorem building_and_reading_invert_overlapped :
    let policy : Naming.Policy := .custom "--"
    let m : Metadata := ⟨some "a-", "b", "", Metadata.anyObject⟩
    let other : Metadata := ⟨some "a", "-b", "", Metadata.anyObject⟩
    let bare : Metadata := ⟨some "", "b", "", Metadata.anyObject⟩
    policy.reader = none ∧ policy.fqn m = "a---b" ∧
      policy.parse "a---b" none ≠ ⟨some "a-", "b"⟩ ∧
      policy.parse "a---b" none = ⟨some "a", "-b"⟩ ∧ policy.fqn other = "a---b" ∧
      policy.parse "b" none = ⟨none, "b"⟩ ∧ policy.fqn bare ≠ "--b" := by
  intro policy m other bare
  obtain ⟨hread, hbuilt⟩ := building_and_reading_invert policy rfl none
  have hsep : policy.separator ≠ "" := by decide
  have hearlier : Text.OccursBefore "--" ("a-" ++ "--") "a-".length := ⟨"a", "-", rfl, by decide⟩
  have hfirst : ¬ Text.OccursBefore "--" ("a" ++ "--") "a".length := by
    refine Text.not_occursBefore_iff.2 ?_
    intro before after hjoin
    cases before with
    | nil =>
      have hhead : some 'a' = some '-' := congrArg List.head? hjoin
      cases hhead
    | cons c before => exact Nat.succ_pos _
  have hnowhere : ¬ Text.Occurs "--" "b" := by
    rintro ⟨before, after, hjoin⟩
    have hlength : 1 = (before ++ "--" ++ after).length := congrArg String.length hjoin
    have hlong : "--".length = 2 := rfl
    simp only [String.length_append] at hlength
    omega
  have hmiddle : ¬ Text.BeginsWith "--" "a---b" := by
    rintro ⟨rest, hjoin⟩
    have hchars := congrArg String.toList hjoin
    rw [String.toList_append] at hchars
    have hhead : some 'a' = some '-' := congrArg List.head? hchars
    cases hhead
  have hother : policy.parse "a---b" none = ⟨some "a", "-b"⟩ :=
    ((hread rfl hsep other).1 "a" rfl).2 hfirst
  have hempty : policy.parse "--b" none = ⟨some "", "b"⟩ := by decide +kernel
  refine ⟨rfl, rfl, ?_, hother, ?_, ((hread rfl hsep bare).2 rfl).2 hnowhere, ?_⟩
  · intro hsame
    exact ((hread rfl hsep m).1 "a-" rfl).1 hsame hearlier
  · exact (hbuilt "a---b" other (by rw [hother]) (by rw [hother])).2 (Or.inr (Or.inr hmiddle))
  · intro hsame
    rcases (hbuilt "--b" bare (by rw [hempty]) (by rw [hempty])).1 hsame with hbare | hnone | hlead
    · cases hbare
    · exact hsep hnone
    · exact hlead ⟨"b", rfl⟩

end FunctionCalling
