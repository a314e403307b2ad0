/-
  Which handlers run on behalf of a model.

  The model writes the names and the arguments of its calls, a policy may read names as it likes,
  and the functions of a configuration may be anybody's.  What keeps the wrong handlers from
  running is a chain of gates, and `Invoker.Permits` says what has passed them: the calls are not
  left to the host, the name stands for a function of the registry, that function was offered or
  any may be called, and the arguments satisfy its schema where that is checked.

  For every call the handler of the permitted function is entered, once and with the arguments as
  they were written (`Invoker.entriesAt_of_permits`), and no other handler is entered for any call
  (`Invoker.exists_call_of_mem_entriesAt`).  What is recorded as entered is what counts: a permitted
  call is answered with what the handler gives on that occasion (`Handler.Gives`), cut to size, and
  any other handlers may be replaced without a trace (`Invoker.batch_withHandlers`).

  The gate "was offered" goes by identity OR by name.  Where identities tell callables apart it lets
  through just what is found under the names of something offered
  (`Choice.Configuration.offered_iff_looked_up`): what is known by its identity is an entry of the
  registry, and every entry is found under its own names.
-/
import FunctionCalling.Proofs.Registering
import FunctionCalling.Proofs.Replacing

namespace FunctionCalling

open FunctionCalling.Choice (Behavior Configuration Mode)

/-! ## What is offered -/

namespace Choice.Configuration

/-- What the registry holds under the names of a function that is offered is offered. -/
theorem isAdvertised_of_entry? {c : Configuration} {r : Registry} {f e : Callable}
    (hf : f ∈ c.functions) (he : r.entry? f.metadata = some e) : c.isAdvertised r e = true := by
  refine List.any_eq_true.2 ⟨f, hf, ?_⟩
  simp [he, Callable.sameAs]

/-- The registry holds a function of its own under the names of every callable that is the same:
    the callable is that function, and an entry is found under its own names. -/
theorem entry?_of_sameAs {r : Registry} (hr : r.Built) {fs : List Callable}
    (hid : Callable.ToldApart (r.functions ++ fs)) {f e : Callable} (hf : f ∈ fs)
    (he : e ∈ r.functions) (hsame : f.sameAs e = true) : r.entry? f.metadata = some e := by
  obtain rfl : f = e := hid.eq_of_sameAs (List.mem_append_right _ hf)
    (List.mem_append_left _ he) hsame
  exact Registry.get?_self hr.wellFormed he

/-- What is found under some names and is the same as a function of the registry is that
    function. -/
theorem entry?_eq_of_any_sameAs {r : Registry} (hr : r.Built) {m : Metadata} {e : Callable}
    (he : e ∈ r.functions) (h : ((r.entry? m).any fun entry => entry.sameAs e) = true) :
    r.entry? m = some e := by
  obtain ⟨g, hg, hsame⟩ := (Option.any_eq_true _ _).1 h
  obtain rfl : g = e :=
    hr.toldApart.eq_of_sameAs (Registry.mem_and_sameName_of_get? hg).1 he hsame
  exact hg

/-- **What is offered is offered by name**: some function of the configuration has names under
    which the registry holds it. -/
theorem exists_entry?_of_isAdvertised {c : Configuration} {r : Registry} (hr : r.Built)
    (hid : Callable.ToldApart (r.functions ++ c.functions)) {e : Callable}
    (he : e ∈ r.functions) (h : c.isAdvertised r e = true) :
    ∃ f ∈ c.functions, r.entry? f.metadata = some e := by
  obtain ⟨f, hf, hmatch⟩ := List.any_eq_true.1 h
  refine ⟨f, hf, ?_⟩
  rcases Bool.or_eq_true_iff.1 hmatch with hsame | hentry
  · exact entry?_of_sameAs hr hid hf he hsame
  · exact entry?_eq_of_any_sameAs hr he hentry

/-- **To be offered is to be looked up.**  Let callables of one identity be one callable, among
    those of a registry that was built and those of a configuration, whichever they are: entries of
    the registry or of another one, strays, with a plugin or without.  Then for every function of
    the registry

    1. it is offered exactly when a lookup under the names of some function of the configuration
       finds it;
    2. a lookup under the names of a function of the configuration that is the same finds it too,
       so going by identity first lets nothing through that the lookup would not. -/
theorem offered_iff_looked_up {r : Registry} (hr : r.Built) (c : Configuration)
    (hid : Callable.ToldApart (r.functions ++ c.functions)) {e : Callable}
    (he : e ∈ r.functions) :
    (c.isAdvertised r e = true ↔ ∃ f ∈ c.functions, r.get? f.plugin f.name = some e) ∧
      ∀ f ∈ c.functions, f.sameAs e = true → r.get? f.plugin f.name = some e := by
  constructor
  · constructor
    · exact exists_entry?_of_isAdvertised hr hid he
    · rintro ⟨f, hf, hfound⟩
      exact isAdvertised_of_entry? hf hfound
  · intro f hf hsame
    exact entry?_of_sameAs hr hid hf he hsame

/-- An entry of another registry, a stray without a plugin, one of a plugin that is not there, and
    an entry.  The first stands for that entry too.  The second stands for the first of two
    functions of its name, and the other of the two is not offered. -/
theorem offered_iff_looked_up_mixed :
    let add : Callable := .ofMember 0 "Math" (.echo "Add")
    let sub : Callable := .ofMember 1 "Math" (.echo "Sub")
    let other : Callable := .ofMember 2 "My_Tools" (.echo "add")
    let foreign : Callable := .ofMember 7 "MATH" (.echo "sub")
    let bare : Callable := .ofDraft 8 (.echo "ADD")
    let stray : Callable := .ofMember 9 "Nope" (.echo "add")
    let mixed : Configuration := ⟨.auto, [foreign, bare, stray, sub], true, false⟩
    mixed.isAdvertised .sample add = true ∧ mixed.isAdvertised .sample sub = true ∧
      Registry.sample.get? sub.plugin sub.name = some sub ∧
      mixed.isAdvertised .sample other ≠ true := by
  intro add sub other foreign bare stray mixed
  have hapart : Callable.ToldApart (Registry.sample.functions ++ [foreign, bare, stray]) :=
    Callable.toldApart_of_nodup (by decide)
  have hsub : sub ∈ Registry.sample.functions := by
    rw [Registry.functions_sample]
    exact List.mem_cons_of_mem _ List.mem_cons_self
  have hid : Callable.ToldApart (Registry.sample.functions ++ mixed.functions) := by
    refine hapart.mono ?_
    intro f hf
    rcases List.mem_append.1 hf with hf | hf
    · exact List.mem_append_left _ hf
    · -- of the four functions only `sub` is an entry
      rcases List.mem_append.1 (show f ∈ [foreign, bare, stray] ++ [sub] from hf) with hf | hf
      · exact List.mem_append_right _ hf
      · obtain rfl := List.mem_singleton.1 hf
        exact List.mem_append_left _ hsub
  have hadd : add ∈ Registry.sample.functions := List.mem_cons_self
  have hother : other ∈ Registry.sample.functions := by
    rw [Registry.functions_sample]
    exact List.mem_cons_of_mem _ (List.mem_cons_of_mem _ List.mem_cons_self)
  have hbare : Registry.sample.get? none "ADD" = some (.ofMember 0 "Math" (.echo "Add")) := rfl
  have hforeign : Registry.sample.get? (some "MATH") "sub" =
      some (.ofMember 1 "Math" (.echo "Sub")) := rfl
  obtain ⟨hoffered, hself⟩ := offered_iff_looked_up Registry.built_sample mixed hid hsub
  have hfound := hself sub (List.mem_append_right [foreign, bare, stray] List.mem_cons_self)
    (Callable.sameAs_iff.2 rfl)
  refine ⟨?_, ?_, hfound, ?_⟩
  · refine (offered_iff_looked_up Registry.built_sample mixed hid hadd).1.2 ⟨bare, ?_, hbare⟩
    exact List.mem_cons_of_mem _ List.mem_cons_self
  · exact hoffered.2 ⟨foreign, List.mem_cons_self, hforeign⟩
  · intro h
    obtain ⟨f, hf, hget⟩ := (offered_iff_looked_up Registry.built_sample mixed hid hother).1.1 h
    -- none of the four names stands for it
    have hids : ∀ g ∈ mixed.functions,
        (Registry.sample.get? g.plugin g.name).map Callable.id ≠ some 2 := by decide
    exact hids f hf (congrArg (Option.map Callable.id) hget)

end Choice.Configuration

/-! ## What handlers give -/

/-- What a handler gives that is entered for a call under a name, and may take so long. -/
inductive Handler.Gives (handler : Handler) (timeout : Option Nat) (fqn : String) (o : Occasion)
    (arguments : String) : String → Prop where
  /-- It cannot start, and says why. -/
  | complaint {complaint : Complaint} (hstart : handler.start o arguments = .error complaint) :
      Gives handler timeout fqn o arguments complaint.message
  /-- It is done in time, and answers. -/
  | answer {activity : Activity} (hstart : handler.start o arguments = .ok activity)
      (hin : ∀ limit, timeout = some limit → activity.duration ≤ limit) :
      Gives handler timeout fqn o arguments activity.text
  /-- It is cut off. -/
  | late {activity : Activity} {limit : Nat} (hstart : handler.start o arguments = .ok activity)
      (hlimit : timeout = some limit) (hlate : limit < activity.duration) :
      Gives handler timeout fqn o arguments (Complaint.timedOut fqn limit).message

/-- A function that is entered gives what its handler does. -/
theorem Execution.gives_enter (timeout : Option Nat) (o : Occasion) (f : Callable)
    (fqn arguments : String) :
    f.handler.Gives timeout fqn o arguments (enter timeout o f fqn arguments).text := by
  cases hstart : f.handler.start o arguments with
  | error complaint =>
    rw [text_enter_of_error hstart]
    exact .complaint hstart
  | ok activity =>
    rcases inTime_or_late timeout activity with hin | ⟨limit, hlimit, hlate⟩
    · rw [text_enter_of_inTime hstart hin]
      exact .answer hstart hin
    · rw [hlimit, text_enter_of_late hstart hlate]
      exact .late hstart rfl hlate

/-! ## What runs -/

/-- All gates on the way of a call to the handler of a function. -/
structure Invoker.Permits (inv : Invoker) (c : Configuration) (call : ToolCall) (e : Callable) :
    Prop where
  /-- Calls are not left to the host. -/
  auto : c.autoInvoke = true
  /-- The registry holds the function under the name, as the policy reads it. -/
  resolves : inv.policy.resolve call.function.name inv.registry = some e
  offered : c.isAdvertised inv.registry e = true ∨ c.allowAny = true
  checked : inv.limits.validateArguments = true →
    inv.validator.check e.metadata call.function.arguments = none

/-- The handlers that were entered for the call at a place in a batch. -/
def Batch.entriesAt (b : Batch) (i : Nat) : List Entry :=
  match b.runs[i]? with
  | some run => run.entries
  | none => []

theorem Batch.Answers.entriesAt_eq {b : Batch} {i : Nat} {call : ToolCall} {run : Execution}
    (h : b.Answers i call run) : b.entriesAt i = run.entries := by
  simp only [entriesAt, h.ran]

namespace Invoker

theorem permits_iff {inv : Invoker} {c : Configuration} (hauto : c.autoInvoke = true)
    {call : ToolCall} {e : Callable} :
    inv.Permits c call e ↔
      inv.permit c (ParsedCall.ofToolCall inv.policy (some inv.registry) call) = .ok e := by
  rw [permit_eq_ok_iff]
  constructor
  · intro h
    exact ⟨h.resolves, h.offered, h.checked⟩
  · rintro ⟨hresolves, hoffered, hchecked⟩
    exact ⟨hauto, hresolves, hoffered, hchecked⟩

/-- For a call that is permitted to, the handler is entered once. -/
theorem entriesAt_of_permits {inv : Invoker} {c : Configuration} (now : Nat)
    {calls : List ToolCall} {i : Nat} {call : ToolCall} (hcall : calls[i]? = some call)
    {e : Callable} (h : inv.Permits c call e) :
    (inv.invoke c now calls).entriesAt i = [⟨e, call.function.arguments⟩] := by
  obtain ⟨moment, -, hanswers⟩ := exists_answers_of_auto h.auto inv now hcall
  rw [hanswers.entriesAt_eq, entries_execute, (permits_iff h.auto).1 h]
  rfl

/-- For a call that is not permitted to, no handler is entered. -/
theorem entriesAt_of_not_permits {inv : Invoker} {c : Configuration} (now : Nat)
    {calls : List ToolCall} {i : Nat} {call : ToolCall} (hcall : calls[i]? = some call)
    (h : ∀ e, ¬ inv.Permits c call e) : (inv.invoke c now calls).entriesAt i = [] := by
  cases hauto : c.autoInvoke with
  | false => simp [Batch.entriesAt, runs_invoke_of_manual hauto]
  | true =>
    obtain ⟨moment, -, hanswers⟩ := exists_answers_of_auto hauto inv now hcall
    rw [hanswers.entriesAt_eq, entries_execute]
    split
    · rfl
    next e hok => exact absurd ((permits_iff hauto).2 hok) (h e)

/-- Beyond the calls there is no run. -/
theorem entriesAt_of_no_call {inv : Invoker} {c : Configuration} (now : Nat)
    {calls : List ToolCall} {i : Nat} (hcall : calls[i]? = none) :
    (inv.invoke c now calls).entriesAt i = [] := by
  cases hauto : c.autoInvoke with
  | false => simp [Batch.entriesAt, runs_invoke_of_manual hauto]
  | true =>
    obtain ⟨moment, -, hruns⟩ := exists_moment_runs_invoke hauto inv now calls i
    rw [hcall] at hruns
    simp [Batch.entriesAt, hruns]

/-- A handler that is entered is permitted to be, by the call it is entered for. -/
theorem exists_call_of_mem_entriesAt {inv : Invoker} {c : Configuration} {now : Nat}
    {calls : List ToolCall} {i : Nat} {entry : Entry}
    (h : entry ∈ (inv.invoke c now calls).entriesAt i) :
    ∃ call, calls[i]? = some call ∧ inv.Permits c call entry.function ∧
      entry.arguments = call.function.arguments := by
  cases hcall : calls[i]? with
  | none =>
    rw [entriesAt_of_no_call now hcall] at h
    cases h
  | some call =>
    by_cases hpermits : ∃ e, inv.Permits c call e
    · obtain ⟨e, he⟩ := hpermits
      rw [entriesAt_of_permits now hcall he] at h
      obtain rfl := List.mem_singleton.1 h
      exact ⟨call, rfl, he, rfl⟩
    · rw [entriesAt_of_not_permits now hcall (not_exists.1 hpermits)] at h
      cases h

/-- A call that is permitted is answered with what the handler gives, cut to size. -/
theorem exists_gives_of_permits {inv : Invoker} {c : Configuration} (now : Nat)
    {calls : List ToolCall} {i : Nat} {call : ToolCall} (hcall : calls[i]? = some call)
    {e : Callable} (h : inv.Permits c call e) :
    ∃ run text, (inv.invoke c now calls).Answers i call run ∧
      now ≤ run.occasion.moment ∧ run.occasion.place = i ∧
      e.handler.Gives inv.limits.timeout call.function.name run.occasion call.function.arguments
        text ∧
      run.text = Text.truncate inv.limits.maxResultBytes text := by
  obtain ⟨moment, hle, hanswers⟩ := exists_answers_of_auto h.auto inv now hcall
  refine ⟨_, _, hanswers, ?_, ?_, ?_,
    text_execute_of_permit ((permits_iff h.auto).1 h) ⟨moment, i⟩⟩
  · rw [occasion_execute]
    exact hle
  · rw [occasion_execute]
  · rw [occasion_execute]
    exact Execution.gives_enter _ _ _ _ _

/-- A call that is not permitted is answered with the complaint it was refused with, unless calls
    are left to the host. -/
theorem exists_refused_of_not_permits {inv : Invoker} {c : Configuration}
    (hauto : c.autoInvoke = true) (now : Nat) {calls : List ToolCall} {i : Nat} {call : ToolCall}
    (hcall : calls[i]? = some call) (h : ∀ e, ¬ inv.Permits c call e) :
    ∃ o complaint, inv.permit c (.ofToolCall inv.policy (some inv.registry) call) =
        .error complaint ∧
      (inv.invoke c now calls).Answers i call (.refused o complaint) := by
  obtain ⟨moment, -, hanswers⟩ := exists_answers_of_auto hauto inv now hcall
  cases hpermit : inv.permit c (.ofToolCall inv.policy (some inv.registry) call) with
  | ok e => exact absurd ((permits_iff hauto).2 hpermit) (h e)
  | error complaint =>
    rw [execute_of_refused hpermit] at hanswers
    exact ⟨_, complaint, rfl, hanswers⟩

/-- Handlers that no call is permitted to enter may be replaced without a trace. -/
theorem batch_withHandlers {inv : Invoker} {c : Configuration} {calls : List ToolCall}
    {h : Callable → Handler}
    (hread : ∀ call ∈ calls, inv.policy.parse call.function.name
        (some (inv.registry.withHandlers h)) =
      inv.policy.parse call.function.name (some inv.registry))
    (hkept : ∀ call ∈ calls, ∀ e, inv.Permits c call e → h e = e.handler) (now : Nat) :
    (inv.withHandlers h).invoke (c.withHandlers h) now calls = inv.invoke c now calls :=
  invoke_withHandlers hread
    (fun hauto call hmem e hpermit => hkept call hmem e ((permits_iff hauto).2 hpermit)) now

/-- Nothing is noted but by handlers that were entered. -/
theorem exists_entriesAt_of_mem_notes {inv : Invoker} {c : Configuration} {now : Nat}
    {calls : List ToolCall} {note : Note} (h : note ∈ (inv.invoke c now calls).notes) :
    ∃ i, ∃ entry ∈ (inv.invoke c now calls).entriesAt i, entry.function = note.function := by
  obtain ⟨run, hrun, hnote⟩ := exists_run_of_mem_notes h
  obtain ⟨i, hi⟩ := List.mem_iff_getElem?.1 hrun
  refine ⟨i, ?_⟩
  simp only [Batch.entriesAt, hi]
  cases hauto : c.autoInvoke with
  | false =>
    rw [runs_invoke_of_manual hauto] at hrun
    cases hrun
  | true =>
    obtain ⟨moment, -, hruns⟩ := exists_moment_runs_invoke hauto inv now calls i
    rw [hi] at hruns
    obtain ⟨call, -, rfl⟩ := Option.map_eq_some_iff.1 hruns.symm
    exact exists_entry_of_mem_notes_execute hnote

/-- A call that is permitted is of a mode that may lead to invocation, and unless any function may
    be called it is of one that the configuration offers by name. -/
theorem Permits.offered_by_name {inv : Invoker} {c : Configuration} {call : ToolCall}
    {e : Callable} (h : inv.Permits c call e) (hr : inv.registry.Built)
    (hid : Callable.ToldApart (inv.registry.functions ++ c.functions)) {b : Behavior}
    {history : History} (hc : b.configuration (some inv.registry) history = .ok c) :
    c.mode ≠ .none ∧
      (c.allowAny = false → ∃ f ∈ c.functions, inv.registry.entry? f.metadata = some e) := by
  obtain ⟨-, hconf⟩ := Behavior.configuration_eq_ok_iff.1 hc
  constructor
  · intro hmode
    have hauto := h.auto
    rw [hconf] at hmode hauto
    cases huse : b.use with
    | auto permission => simp [huse, Choice.Use.mode] at hmode
    | required permission => simp [huse, Choice.Use.mode] at hmode
    | none => simp [huse, Choice.Use.permission] at hauto
  · intro hany
    rcases h.offered with hoffered | hallowed
    · have he := (Registry.mem_and_sameName_of_get? h.resolves).1
      exact c.exists_entry?_of_isAdvertised hr hid he hoffered
    · rw [hany] at hallowed
      cases hallowed

end Invoker

/-- **Handlers run for permitted calls and for no others.**  In a batch of any calls, under any
    policy and configuration, and whatever validator checks arguments:

    1. the handlers entered for the call at a place are those it is permitted to enter, with its
       arguments as they were written;
    2. that is at most one handler, entered once, and it is that of a function of the registry;
    3. the call is answered with what this handler gives for these arguments when it is entered at
       the place of the call, cut to size;
    4. a call that is permitted to enter none is answered with the complaint it was refused with;
    5. no other handlers are run: put any others in their place, in the registry and in the
       configuration, and calls that are read alike are dealt with alike;
    6. nothing is noted by any handler that was not entered for some call;
    7. under a configuration that a behavior came to over the registry, permitted calls are not of
       the mode `none`, and unless any function may be called, the function is what the registry
       holds under the names of one of the functions of the configuration (callables of one
       identity being one callable). -/
theorem entered_iff_permitted (inv : Invoker) (c : Configuration) (now : Nat)
    (calls : List ToolCall) :
    (∀ i entry, entry ∈ (inv.invoke c now calls).entriesAt i ↔
      ∃ call, calls[i]? = some call ∧ inv.Permits c call entry.function ∧
        entry.arguments = call.function.arguments) ∧
    (∀ i, ((inv.invoke c now calls).entriesAt i).length ≤ 1 ∧
      ∀ entry ∈ (inv.invoke c now calls).entriesAt i,
        entry.function ∈ inv.registry.functions) ∧
    (∀ (i : Nat) (call : ToolCall) (e : Callable), calls[i]? = some call →
      inv.Permits c call e →
      ∃ run text, (inv.invoke c now calls).Answers i call run ∧
        now ≤ run.occasion.moment ∧ run.occasion.place = i ∧
        e.handler.Gives inv.limits.timeout call.function.name run.occasion
          call.function.arguments text ∧
        run.text = Text.truncate inv.limits.maxResultBytes text) ∧
    (∀ (i : Nat) (call : ToolCall), calls[i]? = some call → c.autoInvoke = true →
      (∀ e, ¬ inv.Permits c call e) →
      ∃ o complaint, inv.permit c (.ofToolCall inv.policy (some inv.registry) call) =
          .error complaint ∧
        (inv.invoke c now calls).Answers i call (.refused o complaint)) ∧
    (∀ h : Callable → Handler,
      (∀ call ∈ calls, inv.policy.parse call.function.name
          (some (inv.registry.withHandlers h)) =
        inv.policy.parse call.function.name (some inv.registry)) →
      (∀ call ∈ calls, ∀ e, inv.Permits c call e → h e = e.handler) →
      (inv.withHandlers h).invoke (c.withHandlers h) now calls = inv.invoke c now calls) ∧
    (∀ note ∈ (inv.invoke c now calls).notes,
      ∃ i, ∃ entry ∈ (inv.invoke c now calls).entriesAt i, entry.function = note.function) ∧
    (∀ (b : Behavior) (history : History), inv.registry.Built →
      Callable.ToldApart (inv.registry.functions ++ c.functions) →
      b.configuration (some inv.registry) history = .ok c →
      ∀ call e, inv.Permits c call e →
        c.mode ≠ .none ∧
          (c.allowAny = false → ∃ f ∈ c.functions, inv.registry.entry? f.metadata = some e)) := by
  refine ⟨?_, ?_, ?_, ?_, ?_, ?_, ?_⟩
  · intro i entry
    constructor
    · exact Invoker.exists_call_of_mem_entriesAt
    · rintro ⟨call, hcall, hpermits, harguments⟩
      rw [Invoker.entriesAt_of_permits now hcall hpermits, ← harguments]
      exact List.mem_singleton.2 rfl
  · intro i
    constructor
    · cases hentries : (inv.invoke c now calls).entriesAt i with
      | nil => exact Nat.zero_le 1
      | cons entry rest =>
        have hmem : entry ∈ (inv.invoke c now calls).entriesAt i :=
          hentries ▸ List.mem_cons_self
        obtain ⟨call, hcall, hpermits, -⟩ := Invoker.exists_call_of_mem_entriesAt hmem
        rw [← hentries, Invoker.entriesAt_of_permits now hcall hpermits]
        exact Nat.le_refl 1
    · intro entry hentry
      obtain ⟨call, -, hpermits, -⟩ := Invoker.exists_call_of_mem_entriesAt hentry
      exact (Registry.mem_and_sameName_of_get? hpermits.resolves).1
  · intro i call e hcall hpermits
    exact Invoker.exists_gives_of_permits now hcall hpermits
  · intro i call hcall hauto hnever
    exact Invoker.exists_refused_of_not_permits hauto now hcall hnever
  · intro h hread hkept
    exact Invoker.batch_withHandlers hread hkept now
  · intro note hnote
    exact Invoker.exists_entriesAt_of_mem_notes hnote
  · intro b history hr hid hc call e hpermits
    exact hpermits.offered_by_name hr hid hc

/-- A stray that has no plugin is offered: its names stand for `Math.Add`, and a call under another
    spelling of that name enters the handler of `Math.Add`, not that of the stray.  If no function
    but `Math.Add` could be run, nothing would change. -/
theorem entered_iff_permitted_stray :
    let stray : Callable := .ofDraft 7 (.echo "add")
    let entry : Entry := ⟨.ofMember 0 "Math" (.echo "Add"), "\x7b\x7d"⟩
    let settings : PolicySettings := ⟨"-", false, ["_"]⟩
    let inv : Invoker := ⟨.sample, settings.toPolicy, .default, .builtIn⟩
    let c : Configuration := ⟨.auto, [stray], true, false⟩
    let calls : List ToolCall := [.ofFunction "1" "MATH-add" "\x7b\x7d"]
    let others (f : Callable) : Handler := if f.id = 0 then f.handler else .declared f.name
    entry ∈ (inv.invoke c 0 calls).entriesAt 0 ∧
      (inv.withHandlers others).invoke (c.withHandlers others) 0 calls = inv.invoke c 0 calls ∧
      c.mode ≠ .none ∧ ∃ f ∈ c.functions, inv.registry.entry? f.metadata = some entry.function := by
  intro stray entry settings inv c calls others
  obtain ⟨hentered, -, -, -, hreplaced, -, hoffered⟩ := entered_iff_permitted inv c 0 calls
  have hparsed : settings.toPolicy.parse "MATH-add" (some .sample) = ⟨some "MATH", "add"⟩ := by
    decide +kernel
  have hresolves : settings.toPolicy.resolve "MATH-add" .sample = some entry.function := by
    rw [Naming.Policy.resolve, hparsed]
    rfl
  have hpermits : inv.Permits c (.ofFunction "1" "MATH-add" "\x7b\x7d") entry.function :=
    ⟨rfl, hresolves, Or.inl (by decide), fun _ => rfl⟩
  have hkept : ∀ call ∈ calls, ∀ e, inv.Permits c call e → others e = e.handler := by
    intro call hcall e he
    obtain rfl := List.mem_singleton.1 hcall
    obtain rfl := Option.some.inj (hresolves.symm.trans he.resolves)
    rfl
  have hread : ∀ call ∈ calls, inv.policy.parse call.function.name
      (some (inv.registry.withHandlers others)) =
        inv.policy.parse call.function.name (some inv.registry) :=
    fun call _ => settings.parse_withHandlers others call.function.name .sample
  have hid : Callable.ToldApart (inv.registry.functions ++ c.functions) :=
    Callable.toldApart_of_nodup (by decide)
  have hc : (Behavior.default.withFunctions [stray]).configuration (some inv.registry) [] =
      .ok c := by
    refine Behavior.configuration_eq_ok_iff.2 ⟨fun _ => ?_, rfl⟩
    exact Behavior.checkInvocable_eq_ok_iff.2 ⟨inv.registry, rfl, by decide⟩
  obtain ⟨hmode, hname⟩ := hoffered _ _ Registry.built_sample hid hc _ _ hpermits
  exact ⟨(hentered 0 entry).2 ⟨_, rfl, hpermits, rfl⟩, hreplaced others hread hkept, hmode,
    hname rfl⟩

end FunctionCalling
