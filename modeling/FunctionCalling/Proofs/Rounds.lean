/-
  Conversations that go on, round by round.

  In a round the host settles from the history what holds for the request, the model answers with
  calls, these are recorded and dealt with, and what comes of them is added to the history.  In
  between the host may add messages of its own, change how calls are run, and let time pass.  When
  nothing can be settled no calls are dealt with, and the conversation goes on.

  Whatever happens, the registry and the policy stay and the history grows at its end
  (`Conversation.Extends`).  So a function that has been called as often as a limit allows stays
  spent, and from then on its handler is not entered.  The crux is that all gates go by the same
  notion of "the same function" (`Round.ne_of_spent`).  Calls are counted, candidates dropped,
  offers checked and handlers chosen by what the registry holds under names, however these are
  written.
-/
import FunctionCalling.Conversation
import FunctionCalling.Proofs.CallLimits

namespace FunctionCalling

open FunctionCalling.Choice (Behavior CallLimit Configuration)

/-! ## Rounds -/

/-- The host changes how calls are run, and time passes. -/
def Conversation.adjust (c : Conversation) (limits : Limits) (clock : Nat) : Conversation :=
  { c with limits := limits, clock := clock }

/-- One round of a conversation under a behavior, with what became of the calls, if any were dealt
    with. -/
inductive Round (b : Behavior) : Conversation → Option Batch → Conversation → Prop where
  /-- The request is settled, and the calls of the answer are recorded and dealt with. -/
  | answered {c settled after : Conversation} {configuration : Configuration} {batch : Batch}
      (hconfigure : c.configure b = .ok (configuration, settled))
      (limits : Limits) (clock : Nat) (calls : List ToolCall) (before between later : List Message)
      (hinvoke : ((((settled.adjust limits clock).add before).record calls).add between).invoke
        calls true = some (batch, after)) :
      Round b c (some batch) (after.add later)
  /-- Nothing is settled. -/
  | unsettled {c : Conversation} {fault : Error} (hconfigure : c.configure b = .error fault)
      (messages : List Message) : Round b c none (c.add messages)

/-- Any number of rounds. -/
inductive Rounds (b : Behavior) : Conversation → Conversation → Prop where
  | none (c : Conversation) : Rounds b c c
  | more {c c' c'' : Conversation} {batch : Option Batch} (hrounds : Rounds b c c')
      (hround : Round b c' batch c'') : Rounds b c c''

/-- The calls of a round are run under what the history at its beginning comes to. -/
theorem Round.exists_invoke {b : Behavior} {c c' : Conversation} {batch : Batch}
    (h : Round b c (some batch) c') :
    ∃ configuration limits clock calls,
      b.configuration (some c.registry) c.history = .ok configuration ∧
      batch = Invoker.invoke ⟨c.registry, c.policy, limits, c.validator⟩ configuration clock
        calls := by
  cases h with
  | answered hconfigure limits clock calls before between later hinvoke =>
    obtain ⟨hconfiguration, rfl⟩ := Conversation.configure_eq_ok_iff.1 hconfigure
    refine ⟨_, limits, clock, calls, hconfiguration, ?_⟩
    obtain ⟨configuration, hcurrent, hpair⟩ := Option.map_eq_some_iff.1 hinvoke
    obtain rfl := Option.some.inj hcurrent
    exact (congrArg Prod.fst hpair).symm

/-- When the history comes to a configuration, any calls may be answered with. -/
theorem Round.exists_of_configuration {b : Behavior} {c : Conversation}
    {configuration : Configuration}
    (h : b.configuration (some c.registry) c.history = .ok configuration) (limits : Limits)
    (clock : Nat) (calls : List ToolCall) :
    let batch :=
      Invoker.invoke ⟨c.registry, c.policy, limits, c.validator⟩ configuration clock calls
    ∃ c', Round b c (some batch) c' ∧
      c'.history = c.history ++ [.ofToolCalls calls] ++ batch.outcome.messages := by
  intro batch
  have hconfigure := Conversation.configure_eq_ok_iff.2 ⟨h, rfl⟩
  refine ⟨_, Round.answered hconfigure limits clock calls [] [] [] rfl, ?_⟩
  simp only [Conversation.add, Conversation.record, Conversation.adjust, List.append_nil]
  rfl

/-! ## What no round changes -/

/-- One conversation continues another: same registry, same policy, more messages. -/
structure Conversation.Extends (c c' : Conversation) : Prop where
  registry : c'.registry = c.registry
  policy : c'.policy = c.policy
  history : ∃ more, c'.history = c.history ++ more

namespace Conversation

theorem Extends.refl (c : Conversation) : c.Extends c :=
  ⟨rfl, rfl, [], (List.append_nil _).symm⟩

theorem Extends.trans {c c' c'' : Conversation} (h : c.Extends c') (h' : c'.Extends c'') :
    c.Extends c'' := by
  obtain ⟨more, hmore⟩ := h.history
  obtain ⟨more', hmore'⟩ := h'.history
  refine ⟨h'.registry.trans h.registry, h'.policy.trans h.policy, more ++ more', ?_⟩
  rw [hmore', hmore, List.append_assoc]

theorem extends_adjust (c : Conversation) (limits : Limits) (clock : Nat) :
    c.Extends (c.adjust limits clock) :=
  ⟨rfl, rfl, [], (List.append_nil _).symm⟩

theorem extends_add (c : Conversation) (messages : List Message) : c.Extends (c.add messages) :=
  ⟨rfl, rfl, messages, rfl⟩

theorem extends_record (c : Conversation) (calls : List ToolCall) : c.Extends (c.record calls) :=
  ⟨rfl, rfl, [.ofToolCalls calls], rfl⟩

theorem extends_configure {c c' : Conversation} {b : Behavior} {configuration : Configuration}
    (h : c.configure b = .ok (configuration, c')) : c.Extends c' := by
  obtain ⟨-, rfl⟩ := configure_eq_ok_iff.1 h
  exact ⟨rfl, rfl, [], (List.append_nil _).symm⟩

theorem extends_invoke {c c' : Conversation} {calls : List ToolCall} {append : Bool}
    {batch : Batch} (h : c.invoke calls append = some (batch, c')) : c.Extends c' := by
  obtain ⟨configuration, -, hpair⟩ := Option.map_eq_some_iff.1 h
  obtain rfl := congrArg Prod.snd hpair
  exact ⟨rfl, rfl, _, rfl⟩

end Conversation

theorem Round.extends {b : Behavior} {c c' : Conversation} {batch : Option Batch}
    (h : Round b c batch c') : c.Extends c' := by
  cases h with
  | answered hconfigure limits clock calls before between later hinvoke =>
    -- along the operations of the round, one after the other
    have hsettled := Conversation.extends_configure hconfigure
    have hadjusted := hsettled.trans (Conversation.extends_adjust _ limits clock)
    have hbefore := hadjusted.trans (Conversation.extends_add _ before)
    have hrecorded := hbefore.trans (Conversation.extends_record _ calls)
    have hbetween := hrecorded.trans (Conversation.extends_add _ between)
    have hinvoked := hbetween.trans (Conversation.extends_invoke hinvoke)
    exact hinvoked.trans (Conversation.extends_add _ later)
  | unsettled hconfigure messages => exact Conversation.extends_add c messages

/-- By induction on the rounds: each continues the conversation as it left the one before. -/
theorem Rounds.extends {b : Behavior} {c c' : Conversation} (h : Rounds b c c') :
    c.Extends c' := by
  induction h with
  | none => exact Conversation.Extends.refl c
  | more hrounds hround ih => exact ih.trans hround.extends

/-! ## What a limit comes to -/

/-- In a round that begins when a function is spent, its handler is not entered. -/
theorem Round.ne_of_spent {b : Behavior} {limit : CallLimit} (hmax : 1 ≤ limit.maxCalls)
    (hselector : b.selector = some limit.selector) (hany : b.use.permission.allowAny = false)
    {c c' : Conversation} (hr : c.registry.Built)
    (hid : Callable.ToldApart (c.registry.functions ++ b.base (some c.registry))) {f : Callable}
    (hlimited : ∀ g ∈ b.base (some c.registry), c.registry.entry? g.metadata = some f →
      limit.policy.fqn g.metadata ∉ limit.alwaysInclude)
    (hspent : limit.Spent c.registry c.history f) {batch : Batch}
    (h : Round b c (some batch) c') :
    ∀ i, ∀ entry ∈ batch.entriesAt i, entry.function ≠ f := by
  intro i entry hentry hf
  -- the handler was entered, so some candidate that is left stands for the function
  obtain ⟨configuration, limits, clock, calls, hconfiguration, rfl⟩ := h.exists_invoke
  obtain ⟨call, -, hpermits, -⟩ := Invoker.exists_call_of_mem_entriesAt hentry
  obtain ⟨-, hsettled⟩ := Behavior.configuration_eq_ok_iff.1 hconfiguration
  have hcandidates : configuration.functions = b.candidates (some c.registry) c.history := by
    rw [hsettled]
  have hallowed : configuration.allowAny = false := by
    rw [hsettled]
    exact hany
  -- the candidates that are left are among those to start from, so they are told apart as well
  have hapart : Callable.ToldApart (c.registry.functions ++ configuration.functions) := by
    refine hid.mono ?_
    intro g hg
    rw [hcandidates] at hg
    rcases List.mem_append.1 hg with hg | hg
    · exact List.mem_append_left _ hg
    · exact List.mem_append_right _ (CallLimit.mem_base_of_mem_candidates hselector hg)
  obtain ⟨-, hoffered⟩ := hpermits.offered_by_name hr hapart hconfiguration
  obtain ⟨g, hg, hnames⟩ := hoffered hallowed
  rw [hcandidates] at hg
  rw [hf] at hnames
  exact CallLimit.entry?_ne_of_mem_candidates hmax hr hselector hlimited hspent hg hnames

/-- **A function that was called as often as it may be is never run again.**  Take a built registry
    and a behavior that runs only what it offers and whose selector is a limit of at least one
    call, by any policy.  Let callables of one identity be one callable, in the registry and among
    the candidates.  If after some rounds of a conversation, from whatever history, as many of the
    recorded calls as the limit allows resolve to a function, and no candidate that stands for the
    function is always included, then no call of the next round or of any later one enters the
    handler of the function. -/
theorem spent_never_runs {r : Registry} (hr : r.Built) {limit : CallLimit}
    (hmax : 1 ≤ limit.maxCalls) {b : Behavior} (hselector : b.selector = some limit.selector)
    (hany : b.use.permission.allowAny = false)
    (hid : Callable.ToldApart (r.functions ++ b.base (some r))) {f : Callable}
    (hlimited : ∀ g ∈ b.base (some r), r.entry? g.metadata = some f →
      limit.policy.fqn g.metadata ∉ limit.alwaysInclude)
    {start c c' c'' : Conversation} (hregistry : start.registry = r) (hrounds : Rounds b start c)
    (hspent : limit.Spent r c.history f) (hlater : Rounds b c c') {batch : Batch}
    (hround : Round b c' (some batch) c'') :
    ∀ i, ∀ entry ∈ batch.entriesAt i, entry.function ≠ f := by
  have hextends := hrounds.extends.trans hlater.extends
  have hregistry' : c'.registry = r := hextends.registry.trans hregistry
  -- what was spent stays spent, for the rounds since have only added to the history
  have hspent' : limit.Spent r c'.history f := by
    obtain ⟨more, hmore⟩ := hlater.extends.history
    rw [hmore]
    exact hspent.append more
  subst hregistry'
  exact hround.ne_of_spent hmax hselector hany hr hid hlimited hspent'

/-- A limit of one call, a call of `Math.Add` in the first round, and calls by other spellings of
    its name in the second. -/
theorem spent_never_runs_sample :
    let limit : CallLimit := ⟨1, .default, ["My_Tools-add"]⟩
    let b := Behavior.default.withSelector limit.selector
    let f : Callable := .ofMember 0 "Math" (.echo "Add")
    let start : Conversation := .start .sample .default .default
    ∃ first c second c', Round b start (some first) c ∧
      first.entriesAt 0 = [⟨f, "\x7b\x7d"⟩] ∧ Round b c (some second) c' ∧
      ∀ i, ∀ entry ∈ second.entriesAt i, entry.function ≠ f := by
  intro limit b f start
  have hbuilt := Registry.built_sample
  have hselector : b.selector = some limit.selector := rfl
  have hself : ∀ g ∈ Registry.sample.functions, Registry.sample.entry? g.metadata = some g :=
    fun g hg => Registry.get?_self hbuilt.wellFormed hg
  -- a behavior that starts from all registered functions can always be configured
  have hconfiguration : ∀ history, b.configuration (some .sample) history =
      .ok ⟨.auto, b.candidates (some .sample) history, true, false⟩ := by
    intro history
    refine Behavior.configuration_eq_ok_iff.2 ⟨fun _ => ?_, rfl⟩
    refine Behavior.checkInvocable_eq_ok_iff.2 ⟨.sample, rfl, ?_⟩
    intro g hg
    have hmem : g ∈ Registry.sample.functions :=
      CallLimit.mem_base_of_mem_candidates hselector hg
    exact Option.isSome_iff_exists.2 ⟨g, hself g hmem⟩
  obtain ⟨c, hfirst, hhistory⟩ := Round.exists_of_configuration (c := start)
    (hconfiguration []) .default 0 [.ofFunction "1" "math-ADD" "\x7b\x7d"]
  have hregistry : c.registry = .sample := hfirst.extends.registry
  obtain ⟨c', hsecond, -⟩ := Round.exists_of_configuration (c := c)
    (hregistry ▸ hconfiguration c.history) .default 0
    [.ofFunction "2" "Math-Add" "\x7b\x7d", .ofFunction "3" "MATH-add" "\x7b\x7d"]
  refine ⟨_, c, _, c', hfirst, ?_, hsecond, ?_⟩
  · have hresolves : Naming.Policy.default.resolve "math-ADD" .sample = some f := rfl
    have hoffered : (Configuration.mk .auto (b.candidates (some .sample) []) true
        false).isAdvertised .sample f = true := by decide
    have hchecked : Schema.Validator.builtIn.check f.metadata "\x7b\x7d" = none := rfl
    have hpermits : Invoker.Permits ⟨.sample, .default, .default, .builtIn⟩
        ⟨.auto, b.candidates (some .sample) [], true, false⟩
        (.ofFunction "1" "math-ADD" "\x7b\x7d") f :=
      ⟨rfl, hresolves, Or.inl hoffered, fun _ => hchecked⟩
    exact Invoker.entriesAt_of_permits 0 rfl hpermits
  · have hid : Callable.ToldApart (Registry.sample.functions ++ b.base (some .sample)) := by
      refine hbuilt.toldApart.mono ?_
      intro g hg
      exact (List.mem_append.1 hg).elim id id
    have hlimited : ∀ g ∈ b.base (some .sample), Registry.sample.entry? g.metadata = some f →
        limit.policy.fqn g.metadata ∉ limit.alwaysInclude := by
      intro g hg hentry
      obtain rfl : g = f := Option.some.inj ((hself g hg).symm.trans hentry)
      decide
    have hspent : limit.Spent .sample c.history f := by
      have hrecorded : limit.Spent .sample
          [.ofToolCalls [.ofFunction "1" "math-ADD" "\x7b\x7d"]] f := by decide
      rw [hhistory]
      exact hrecorded.append _
    have hrounds : Rounds b start c := (Rounds.none start).more hfirst
    exact spent_never_runs hbuilt (Nat.le_refl 1) hselector rfl hid hlimited rfl hrounds hspent
      (.none c) hsecond

end FunctionCalling
