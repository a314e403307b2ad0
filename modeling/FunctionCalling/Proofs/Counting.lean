/-
  The two ways of counting calls.

  Calls are counted by the name that the model used (`History.callCounts`) and by the identity of
  the function that the name stands for (`CallLimit.callCounts`).  Both counts are tallies, and
  what a tally is needs to be said once: each key that occurs, in the order of first occurrence,
  with the number of its occurrences (`tally_eq_map`).  From this

  1. a tally counts everything once: what is counted under the keys that pass a test is what
     passes the test (`total_filter_tally`);
  2. a key that does not occur is not in the tally, and one that does is in it once
     (`lookup_tally_eq`, `nodup_keys_tally`);
  3. the order of what is counted is no more than the order of the entries (`perm_tally`).

  The identity of a call depends on its name alone.  So the calls under one identity are those
  under the names of that identity, and the finer count, summed up over these names, is the
  coarser (`count_map_callIdentity`).
-/
import FunctionCalling.Choice.CallLimit
import FunctionCalling.Proofs.Registering

namespace FunctionCalling

/-! ## Tallies -/

section

variable {α : Type} [DecidableEq α]

/-- Each key that occurs in a list, once, in the order of first occurrence. -/
def firsts (keys : List α) : List α :=
  keys.reverse.dedup.reverse

theorem mem_firsts {keys : List α} {k : α} : k ∈ firsts keys ↔ k ∈ keys := by
  simp [firsts]

theorem nodup_firsts (keys : List α) : (firsts keys).Nodup :=
  List.nodup_reverse.2 (List.nodup_dedup _)

theorem perm_firsts_dedup (keys : List α) : (firsts keys).Perm keys.dedup :=
  (List.reverse_perm _).trans (List.reverse_perm keys).dedup

theorem firsts_concat_of_mem {keys : List α} {k : α} (h : k ∈ keys) :
    firsts (keys ++ [k]) = firsts keys := by
  rw [firsts, List.reverse_append, List.reverse_singleton, List.singleton_append,
    List.dedup_cons_of_mem (List.mem_reverse.2 h), firsts]

theorem firsts_concat_of_notMem {keys : List α} {k : α} (h : k ∉ keys) :
    firsts (keys ++ [k]) = firsts keys ++ [k] := by
  rw [firsts, List.reverse_append, List.reverse_singleton, List.singleton_append,
    List.dedup_cons_of_notMem (fun hmem => h (List.mem_reverse.1 hmem)), List.reverse_cons, firsts]

/-- A key that is new gets an entry behind the others. -/
theorem increment_map_of_notMem {keys : List α} {k : α} (h : k ∉ keys) (count : α → Nat) :
    increment k (keys.map fun x => (x, count x)) =
      (keys.map fun x => (x, count x)) ++ [(k, 1)] := by
  induction keys with
  | nil => rfl
  | cons key rest ih =>
    rw [List.mem_cons, not_or] at h
    obtain ⟨hne, hrest⟩ := h
    rw [List.map_cons, increment, if_neg (Ne.symm hne), ih hrest, List.cons_append]

/-- A key that is there once has one more, and the others have what they had. -/
theorem increment_map_of_mem {keys : List α} (hkeys : keys.Nodup) {k : α} (h : k ∈ keys)
    (count : α → Nat) :
    increment k (keys.map fun x => (x, count x)) =
      keys.map fun x => (x, count x + if x = k then 1 else 0) := by
  induction keys with
  | nil => cases h
  | cons key rest ih =>
    obtain ⟨hkey, hrest⟩ := List.nodup_cons.1 hkeys
    rw [List.map_cons, List.map_cons, increment]
    by_cases heq : key = k
    · subst heq
      have hothers : ∀ x ∈ rest, (x, count x) = (x, count x + if x = key then 1 else 0) := by
        intro x hx
        rw [if_neg (fun hxk : x = key => hkey (hxk ▸ hx)), Nat.add_zero]
      rw [if_pos rfl, if_pos rfl, List.map_congr_left hothers]
    · have hmem : k ∈ rest := (List.mem_cons.1 h).resolve_left (Ne.symm heq)
      rw [if_neg heq, if_neg heq, Nat.add_zero, ih hrest hmem]

theorem tally_concat (keys : List α) (k : α) : tally (keys ++ [k]) = increment k (tally keys) := by
  rw [tally, List.foldl_append]
  rfl

/-- **A tally has each key that occurs, in the order of first occurrence, with the number of its
    occurrences.** -/
theorem tally_eq_map (keys : List α) :
    tally keys = (firsts keys).map fun k => (k, keys.count k) := by
  -- a tally is made from the front, so the last key is the last to be entered
  induction keys using List.reverseRecOn with
  | nil => rfl
  | append_singleton keys k ih =>
    have hcount : ∀ x, (keys ++ [k]).count x = keys.count x + if x = k then 1 else 0 := by
      intro x
      by_cases hxk : x = k
      · simp [hxk]
      · simp [hxk, Ne.symm hxk]
    rw [tally_concat, ih]
    by_cases hk : k ∈ keys
    · rw [firsts_concat_of_mem hk,
        increment_map_of_mem (nodup_firsts keys) (mem_firsts.2 hk)]
      simp only [hcount]
    · have hothers : ∀ x ∈ firsts keys, (x, keys.count x) = (x, (keys ++ [k]).count x) := by
        intro x hx
        rw [hcount, if_neg (fun hxk : x = k => hk (hxk ▸ mem_firsts.1 hx)), Nat.add_zero]
      have hnew : (keys ++ [k]).count k = 1 := by
        rw [hcount, if_pos rfl, List.count_eq_zero.2 hk]
      rw [firsts_concat_of_notMem hk, increment_map_of_notMem (fun h => hk (mem_firsts.1 h)),
        List.map_append, List.map_singleton, hnew, List.map_congr_left hothers]

/-- Everything that was counted. -/
def total (counts : List (α × Nat)) : Nat :=
  (counts.map Prod.snd).sum

/-- **What is counted under the keys that pass a test is what passes the test.** -/
theorem total_filter_tally (p : α → Bool) (keys : List α) :
    total ((tally keys).filter fun entry => p entry.1) = keys.countP p := by
  have hperm : ((firsts keys).filter p).Perm (keys.dedup.filter p) :=
    (perm_firsts_dedup keys).filter p
  calc total ((tally keys).filter fun entry => p entry.1)
      = (((firsts keys).filter p).map keys.count).sum := by
        simp only [total, tally_eq_map, List.filter_map, List.map_map]
        rfl
    _ = ((keys.dedup.filter p).map keys.count).sum := (hperm.map _).sum_eq
    _ = keys.countP p := List.sum_map_count_dedup_filter_eq_countP p keys

/-- Everything is counted once. -/
theorem total_tally (keys : List α) : total (tally keys) = keys.length := by
  have hall := total_filter_tally (fun _ => true) keys
  rwa [List.filter_true, List.countP_true] at hall

theorem keys_tally (keys : List α) : (tally keys).map Prod.fst = firsts keys := by
  rw [tally_eq_map, List.map_map]
  exact List.map_id _

/-- No key has two entries. -/
theorem nodup_keys_tally (keys : List α) : ((tally keys).map Prod.fst).Nodup := by
  rw [keys_tally]
  exact nodup_firsts keys

/-- A key that occurs has its count, and any other has no entry. -/
theorem lookup_tally_eq [BEq α] [LawfulBEq α] (keys : List α) (k : α) :
    (tally keys).lookup k = if keys.count k = 0 then none else some (keys.count k) := by
  have hcount := lookup_tally keys k
  cases hlookup : (tally keys).lookup k with
  | none =>
    rw [hlookup] at hcount
    have hzero : keys.count k = 0 := hcount.symm
    rw [if_pos hzero]
  | some n =>
    rw [hlookup] at hcount
    have hn : n = keys.count k := hcount
    obtain ⟨before, after, htally, -⟩ := List.lookup_eq_some_iff.1 hlookup
    have hk : k ∈ keys := by
      rw [← mem_firsts, ← keys_tally, htally]
      simp
    rw [if_neg (List.count_pos_iff.2 hk).ne', hn]

/-- In another order the same is counted. -/
theorem perm_tally {keys keys' : List α} (h : keys.Perm keys') :
    (tally keys).Perm (tally keys') := by
  have hfirsts : (firsts keys).Perm (firsts keys') :=
    (perm_firsts_dedup keys).trans (h.dedup.trans (perm_firsts_dedup keys').symm)
  simp only [tally_eq_map, h.count_eq]
  exact hfirsts.map _

end

/-! ## Histories -/

namespace History

theorem toolCalls_eq_nil {more : History} (h : ∀ m ∈ more, m.calls = []) : toolCalls more = [] :=
  List.flatMap_eq_nil_iff.2 h

/-- Messages that ask for nothing add no calls. -/
theorem toolCalls_append_of_calls_eq_nil (h : History) {more : History}
    (hmore : ∀ m ∈ more, m.calls = []) : toolCalls (h ++ more) = toolCalls h := by
  rw [toolCalls_append, toolCalls_eq_nil hmore, List.append_nil]

theorem perm_toolCalls {h h' : History} (hperm : h.Perm h') :
    (toolCalls h).Perm (toolCalls h') :=
  hperm.flatMap_right Message.calls

end History

namespace Choice.CallLimit

/-- The identity of the function that a name stands for, under the policy of the limit. -/
def nameIdentity (limit : CallLimit) (registry : Option Registry) (name : String) :
    String × String :=
  let parsed := limit.policy.parse name registry
  identity registry parsed.plugin parsed.function

/-- The calls under an identity are those under the names that have it. -/
theorem count_map_callIdentity (limit : CallLimit) (registry : Option Registry)
    (history : History) (key : String × String) :
    (history.toolCalls.map (limit.callIdentity registry)).count key =
      total (history.callCounts.filter fun entry => limit.nameIdentity registry entry.1 = key) := by
  rw [History.callCounts, total_filter_tally (fun name => limit.nameIdentity registry name = key),
    List.count_eq_countP, List.countP_map, List.countP_map]
  refine List.countP_congr ?_
  intro call _
  simp only [Function.comp_apply, beq_iff_eq, decide_eq_true_eq]
  rfl

end Choice.CallLimit

/-- **The two counts agree.**  Whatever the policy and whatever the history, with a registry or
    without,

    1. both counts have no key twice, and each adds up to the number of calls;
    2. what is counted under an identity is what is counted under all names of that identity
       together, and where this is nothing the identity is not among the counts;
    3. messages that ask for no calls leave both counts as they are;
    4. in whatever order the messages stand, both counts have the same entries. -/
theorem counts_agree (limit : Choice.CallLimit) (registry : Option Registry) (history : History) :
    ((history.callCounts.map Prod.fst).Nodup ∧
      total history.callCounts = history.toolCalls.length) ∧
    (((limit.callCounts registry history).map Prod.fst).Nodup ∧
      total (limit.callCounts registry history) = history.toolCalls.length) ∧
    (∀ key : String × String, (limit.callCounts registry history).lookup key =
      let calls := total (history.callCounts.filter fun entry =>
        limit.nameIdentity registry entry.1 = key)
      if calls = 0 then none else some calls) ∧
    (∀ more : History, (∀ m ∈ more, m.calls = []) →
      History.callCounts (history ++ more) = history.callCounts ∧
      limit.callCounts registry (history ++ more) = limit.callCounts registry history) ∧
    ∀ other : History, history.Perm other →
      history.callCounts.Perm other.callCounts ∧
      (limit.callCounts registry history).Perm (limit.callCounts registry other) := by
  refine ⟨⟨nodup_keys_tally _, ?_⟩, ⟨nodup_keys_tally _, ?_⟩, ?_, ?_, ?_⟩
  · rw [History.callCounts, total_tally, List.length_map]
  · rw [Choice.CallLimit.callCounts, total_tally, List.length_map]
  · intro key
    rw [Choice.CallLimit.callCounts, lookup_tally_eq, limit.count_map_callIdentity]
  · intro more hmore
    have hcalls := history.toolCalls_append_of_calls_eq_nil hmore
    exact ⟨by rw [History.callCounts, hcalls, History.callCounts],
      by rw [Choice.CallLimit.callCounts, hcalls, Choice.CallLimit.callCounts]⟩
  · intro other hperm
    have hcalls := History.perm_toolCalls hperm
    exact ⟨perm_tally (hcalls.map _), perm_tally (hcalls.map _)⟩

/-- Three spellings of one function, and a name that stands for nothing: the one count has an entry
    for each spelling, the other for the function.  The answers that follow change nothing, and the
    order of the messages only the order of the entries. -/
theorem counts_agree_spellings :
    let limit : Choice.CallLimit := ⟨1, .default, []⟩
    let asked (name : String) : Message := .ofToolCalls [.ofFunction "1" name "\x7b\x7d"]
    let history : History := [.ofText .user "Add these.", asked "Math-Add", asked "MATH-add",
      asked "nope", asked "Math-Add", asked "Add"]
    let answered : History := history ++ [.ofResult "1" "3", .ofText .assistant "Done."]
    history.callCounts = [("Math-Add", 2), ("MATH-add", 1), ("nope", 1), ("Add", 1)] ∧
      (limit.callCounts (some .sample) history).lookup ("math", "add") = some 4 ∧
      (limit.callCounts (some .sample) history).lookup ("math", "sub") = none ∧
      total (limit.callCounts (some .sample) history) = 5 ∧
      limit.callCounts (some .sample) answered = limit.callCounts (some .sample) history ∧
      (limit.callCounts (some .sample) history).Perm
        (limit.callCounts (some .sample) history.reverse) := by
  intro limit asked history answered
  obtain ⟨-, ⟨-, htotal⟩, hlookup, hmore, hperm⟩ := counts_agree limit (some .sample) history
  have hanswers : ∀ m ∈ [Message.ofResult "1" "3", .ofText .assistant "Done."], m.calls = [] := by
    decide
  have hreverse : history.Perm history.reverse := (List.reverse_perm history).symm
  refine ⟨by decide +kernel, ?_, ?_, htotal, (hmore _ hanswers).2, (hperm _ hreverse).2⟩
  · rw [hlookup]
    decide +kernel
  · rw [hlookup]
    decide +kernel

end FunctionCalling
