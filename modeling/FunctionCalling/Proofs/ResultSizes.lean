/-
  How long results are.

  Limits say how many bytes a result may have; a longer one is to be cut and followed by a notice
  (`Text.WithinLimit`).  What comes out of a handler is treated so, whatever it is: an answer, a
  complaint of the handler, or the word that it took too long (`withinLimit_truncate`).

  A call that is refused never enters a handler, and its complaint becomes the result as it is.
  Complaints quote what the model wrote, so there is no bound to them:

  1. no complaint ends like the notice (`Complaint.getLast?_message_ne`), so a complaint is within
     the limit only if it is short enough as a whole;
  2. a complaint about a name holds the name, and is longer than it
     (`Complaint.size_lt_of_notAvailable`, `Complaint.size_lt_of_notOffered`).

  Hence the limit holds for the calls that are permitted, and for others by chance.
-/
import FunctionCalling.Proofs.Safety

namespace FunctionCalling

open FunctionCalling.Choice (Configuration)
open FunctionCalling.Text

/-! ## Texts within a limit -/

namespace Text

/-- What is left of a text takes no more bytes than it may. -/
theorem utf8Len_clipChars_le (max : Nat) (s : List Char) :
    String.utf8Len (clipChars max s) ≤ max := by
  induction s generalizing max with
  | nil => simp [clipChars]
  | cons c s ih =>
    rw [clipChars]
    split
    next hfits =>
      have hrest := ih (max - c.utf8Size)
      rw [String.utf8Len_cons]
      omega
    next => simp

theorem utf8ByteSize_clip_le (max : Nat) (s : String) : (clip max s).utf8ByteSize ≤ max := by
  rw [clip, String.utf8ByteSize_ofList]
  exact utf8Len_clipChars_le max s.toList

/-- A text keeps to a limit when it has at most that many bytes, or is the beginning of a longer
    text, of at most that many bytes, with the notice that says how many the whole has. -/
def WithinLimit (max : Nat) (text : String) : Prop :=
  text.utf8ByteSize ≤ max ∨
    ∃ whole cut : String, max < whole.utf8ByteSize ∧ cut.toList <+: whole.toList ∧
      cut.utf8ByteSize ≤ max ∧ text = cut ++ truncationNotice whole.utf8ByteSize

/-- **A text that was cut to size keeps to the limit**, and so does one that need not be cut. -/
theorem withinLimit_truncate (max : Nat) (s : String) : WithinLimit max (truncate max s) := by
  unfold truncate
  split
  next hfits => exact Or.inl hfits
  next hlong =>
    right
    refine ⟨s, clip max s, Nat.lt_of_not_le hlong, ?_, utf8ByteSize_clip_le max s, rfl⟩
    simpa [clip] using clipChars_prefix max s.toList

/-- What a text ends with, any text that ends with it ends with. -/
theorem getLast?_toList_append {s t : String} {c : Char} (h : t.toList.getLast? = some c) :
    (s ++ t).toList.getLast? = some c := by
  rw [String.toList_append, List.getLast?_append, h, Option.some_or]

theorem getLast?_truncationNotice (total : Nat) :
    (truncationNotice total).toList.getLast? = some ']' :=
  getLast?_toList_append (by decide)

/-- A text that does not end like the notice keeps to a limit only as a whole. -/
theorem withinLimit_iff_of_getLast?_ne {max : Nat} {text : String}
    (h : text.toList.getLast? ≠ some ']') : WithinLimit max text ↔ text.utf8ByteSize ≤ max := by
  constructor
  · rintro (hfits | ⟨whole, cut, -, -, -, rfl⟩)
    · exact hfits
    · exact absurd (getLast?_toList_append (getLast?_truncationNotice _)) h
  · exact Or.inl

/-- A text amid others is shorter than the whole, if the first of them is not empty. -/
theorem utf8ByteSize_lt_of_amid {lead : String} (h : 0 < lead.utf8ByteSize)
    (before part after : String) :
    part.utf8ByteSize < (lead ++ (before ++ part ++ after)).utf8ByteSize := by
  simp only [String.utf8ByteSize_append]
  omega

end Text

/-! ## Complaints -/

namespace Complaint

/-- No complaint ends like the notice. -/
theorem getLast?_message_ne (c : Complaint) : c.message.toList.getLast? ≠ some ']' := by
  -- all end in a full stop, but for the one about a function that is only declared
  have hend : c.body.toList.getLast? = some '.' ∨ c.body.toList.getLast? = some 't' := by
    cases c with
    | notImplemented f => exact Or.inr (getLast?_toList_append (by decide))
    | notAvailable fqn => exact Or.inl (getLast?_toList_append (by decide))
    | notOffered fqn => exact Or.inl (getLast?_toList_append (by decide))
    | notJson f e => exact Or.inl (getLast?_toList_append (by decide))
    | notValid f findings => exact Or.inl (getLast?_toList_append (by decide))
    | notReadable reason => exact Or.inl (getLast?_toList_append (by decide))
    | timedOut fqn limit => exact Or.inl (getLast?_toList_append (by decide))
  rcases hend with hend | hend
  · rw [message, getLast?_toList_append hend]
    decide
  · rw [message, getLast?_toList_append hend]
    decide

/-- The complaint that there is no function of a name holds the name. -/
theorem size_lt_of_notAvailable (fqn : String) :
    fqn.utf8ByteSize < (notAvailable fqn).message.utf8ByteSize :=
  utf8ByteSize_lt_of_amid (by decide) _ fqn _

/-- So does the complaint that the function was not offered. -/
theorem size_lt_of_notOffered (fqn : String) :
    fqn.utf8ByteSize < (notOffered fqn).message.utf8ByteSize :=
  utf8ByteSize_lt_of_amid (by decide) _ fqn _

end Complaint

/-! ## Results -/

namespace Invoker

/-- What comes out of a handler keeps to the limit. -/
theorem withinLimit_execute_of_permit {inv : Invoker} {c : Configuration} {call : ParsedCall}
    {e : Callable} (h : inv.permit c call = .ok e) (o : Occasion) :
    WithinLimit inv.limits.maxResultBytes (inv.execute c o call).text := by
  rw [text_execute_of_permit h]
  exact withinLimit_truncate _ _

/-- A refusal is told as it is. -/
theorem text_execute_of_refused {inv : Invoker} {c : Configuration} {call : ParsedCall}
    {complaint : Complaint} (h : inv.permit c call = .error complaint) (o : Occasion) :
    (inv.execute c o call).text = complaint.message := by
  rw [execute_of_refused h]
  rfl

end Invoker

/-- **Only what comes out of handlers keeps to the limit.**  When calls are run, whatever validator
    checks their arguments, there is a result for each, and

    1. the result of a call that is permitted keeps to the limit;
    2. the result of one that is not is the complaint it was refused with, uncut, and keeps to the
       limit only if it happens to be short enough as a whole;
    3. when it was refused because there is no function of the name, or because the function was
       not offered, the result is longer than the name that the model wrote. -/
theorem within_limit_if_permitted (inv : Invoker) {c : Configuration} (hauto : c.autoInvoke = true)
    (now : Nat) (calls : List ToolCall) :
    ∃ results, (inv.invoke c now calls).outcome = .invoked results ∧
      results.length = calls.length ∧
      ∀ (i : Nat) (call : ToolCall) (result : CallResult), calls[i]? = some call →
        results[i]? = some result →
        (∀ e, inv.Permits c call e → WithinLimit inv.limits.maxResultBytes result.text) ∧
        ((∀ e, ¬ inv.Permits c call e) →
          (∃ complaint, inv.permit c (.ofToolCall inv.policy (some inv.registry) call) =
            .error complaint ∧ result.text = complaint.message) ∧
          (WithinLimit inv.limits.maxResultBytes result.text ↔
            result.text.utf8ByteSize ≤ inv.limits.maxResultBytes)) ∧
        ((inv.policy.resolve call.function.name inv.registry = none ∨
          ∃ e, inv.policy.resolve call.function.name inv.registry = some e ∧
            c.isAdvertised inv.registry e = false ∧ c.allowAny = false) →
          call.function.name.utf8ByteSize < result.text.utf8ByteSize) := by
  obtain ⟨results, houtcome, hlength, hall⟩ := Invoker.exists_results_of_auto hauto inv now calls
  refine ⟨results, houtcome, hlength, ?_⟩
  intro i call result hcall hresult
  obtain ⟨moment, run, -, rfl, -, hi⟩ := hall i call hcall
  obtain rfl := Option.some.inj (hresult.symm.trans hi)
  let parsed := ParsedCall.ofToolCall inv.policy (some inv.registry) call
  refine ⟨?_, ?_, ?_⟩
  · intro e hpermits
    exact Invoker.withinLimit_execute_of_permit ((Invoker.permits_iff hauto).1 hpermits) _
  · intro hrefused
    cases hpermit : inv.permit c parsed with
    | ok e => exact absurd ((Invoker.permits_iff hauto).2 hpermit) (hrefused e)
    | error complaint =>
      have htext := Invoker.text_execute_of_refused hpermit ⟨moment, i⟩
      refine ⟨⟨complaint, rfl, htext⟩, withinLimit_iff_of_getLast?_ne ?_⟩
      rw [htext]
      exact complaint.getLast?_message_ne
  · rintro (hnone | ⟨e, hfound, hoffered, hany⟩)
    · have hverdict : inv.Verdict c parsed (.error (.notAvailable call.function.name)) :=
        .unknown hnone
      rw [Invoker.text_execute_of_refused hverdict.permit_eq]
      exact Complaint.size_lt_of_notAvailable call.function.name
    · have hverdict : inv.Verdict c parsed (.error (.notOffered call.function.name)) :=
        .withheld hfound hoffered hany
      rw [Invoker.text_execute_of_refused hverdict.permit_eq]
      exact Complaint.size_lt_of_notOffered call.function.name

/-- A limit of 4 bytes, a call that is permitted and one of a function that there is not: what
    comes out of the handler keeps to the limit, and the complaint is longer than the name. -/
theorem within_limit_if_permitted_sample :
    let limits := { Limits.default with maxResultBytes := 4 }
    let inv : Invoker := ⟨.sample, .default, limits, .builtIn⟩
    let c : Configuration := ⟨.auto, Registry.sample.functions, true, false⟩
    let calls : List ToolCall :=
      [.ofFunction "1" "Math-Add" "\x7b\"a\":1\x7d", .ofFunction "2" "Nope" "\x7b\x7d"]
    ∃ first second, (inv.invoke c 0 calls).outcome = .invoked [first, second] ∧
      first.text = "\x7b\"a\"...\n[truncated: 7 bytes total]" ∧
      WithinLimit 4 first.text ∧ "Nope".utf8ByteSize < second.text.utf8ByteSize := by
  intro limits inv c calls
  have houtcome : (inv.invoke c 0 calls).outcome =
      .invoked [⟨"1", "Math-Add", "\x7b\"a\"...\n[truncated: 7 bytes total]"⟩,
        ⟨"2", "Nope", (Complaint.notAvailable "Nope").message⟩] := by
    decide +kernel
  have hchecked : (Schema.Validator.builtIn.check
      (Callable.ofMember 0 "Math" (.echo "Add")).metadata "\x7b\"a\":1\x7d").isNone = true := by
    decide +kernel
  have hresolves : Naming.Policy.default.resolve "Math-Add" .sample =
      some (.ofMember 0 "Math" (.echo "Add")) := rfl
  have hpermits : inv.Permits c (.ofFunction "1" "Math-Add" "\x7b\"a\":1\x7d")
      (.ofMember 0 "Math" (.echo "Add")) :=
    ⟨rfl, hresolves, Or.inl (by decide), fun _ => Option.isNone_iff_eq_none.1 hchecked⟩
  have hnothing : Naming.Policy.default.resolve "Nope" .sample = none := rfl
  obtain ⟨results, hresults, -, hall⟩ := within_limit_if_permitted inv (c := c) rfl 0 calls
  obtain rfl := Outcome.invoked.inj (houtcome.symm.trans hresults)
  have hfirst := (hall 0 _ _ rfl rfl).1 _ hpermits
  have hsecond := (hall 1 _ _ rfl rfl).2.2 (Or.inl hnothing)
  exact ⟨_, _, houtcome, rfl, hfirst, hsecond⟩

/-- A limit of 40 bytes, and a name that is no function's: the complaint has 82 bytes, and nothing
    of it is cut. -/
theorem refusal_beyond_limit :
    let limits := { Limits.default with maxResultBytes := 40 }
    let inv : Invoker := ⟨.sample, .default, limits, .builtIn⟩
    let c : Configuration := ⟨.auto, Registry.sample.functions, true, false⟩
    ∃ result, (inv.invoke c 0 [.ofFunction "1" "Nope" "\x7b\x7d"]).outcome = .invoked [result] ∧
      result.text = "Error: function 'Nope' is not available. "
        ++ "Call one of the functions you were given." ∧
      ¬ WithinLimit inv.limits.maxResultBytes result.text := by
  intro limits inv c
  have houtcome : (inv.invoke c 0 [.ofFunction "1" "Nope" "\x7b\x7d"]).outcome =
      .invoked [⟨"1", "Nope", (Complaint.notAvailable "Nope").message⟩] := by
    decide +kernel
  refine ⟨_, houtcome, by decide +kernel, ?_⟩
  rw [withinLimit_iff_of_getLast?_ne (Complaint.getLast?_message_ne _)]
  decide +kernel

end FunctionCalling
