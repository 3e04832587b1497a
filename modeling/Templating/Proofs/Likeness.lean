import Templating.Proofs.Fetching
import Templating.Proofs.Standalone

/-!
# Two ways to run the same code

The same code can be run with two fetchers, or under two policies on undefined
values.  In what these runs agree depends on what they are compared for; how the
agreement spreads from fetching and from the policy to all code does not.

Nearly all that code does is *indifferent* (`Indifferent`): it neither looks at
the cache and the log nor touches the cache, and all it adds to the log are
ordinary events, none of them about fetching or about a caught error.  A
`Likeness` relates actions; every indifferent action has to be like itself, and
the likeness has to go through the ways in which actions are put together.  Then
it holds of all code as soon as it holds of fetching and of the refusal of
undefined values (`Likeness.exec`, `Likeness.invoke`).
-/
namespace Templating

/-! ## Actions that leave fetching alone -/

namespace Event

/-- Whether this is about fetching a template. -/
def isFetching : Event → Bool
  | load _ => true
  | notice (.loadingTemplate _) => true
  | notice (.templateCacheHit _) => true
  | _ => false

/-- Whether template code caught an error. -/
def isCaught : Event → Bool
  | caught _ => true
  | _ => false

/-- Whether this is neither about fetching nor about a caught error. -/
def isOrdinary (e : Event) : Bool := !e.isFetching && !e.isCaught

end Event

/-- The events are all ordinary. -/
def Event.AllOrdinary (events : Array Event) : Prop :=
  ∀ e ∈ events, e.isOrdinary = true

theorem Event.allOrdinary_empty : AllOrdinary #[] :=
  fun _ he => absurd he (Array.not_mem_empty _)

theorem Event.allOrdinary_singleton {e : Event} (he : e.isOrdinary = true) : AllOrdinary #[e] :=
  fun _ h => Array.eq_of_mem_singleton h ▸ he

/-- An action that neither looks at cache and log nor touches the cache, and that
logs ordinary events. -/
structure Indifferent {α : Type} (m : Render α) : Prop where
  notes : ∀ s : State, ∃ events, Event.AllOrdinary events ∧ ∀ cache log,
    m (s.withFetched cache log) = ((m s).1, (m s).2.withFetched cache (log ++ events))
  writes : ∀ s : State, ∃ chunks, s.Wrote chunks (m s).2

/-- A change of the state that leaves cache, log and sink alone. -/
structure Passing (f : State → State) : Prop where
  fetched : ∀ (s : State) cache log, f (s.withFetched cache log) = (f s).withFetched cache log
  sink : ∀ s : State, (f s).sink = s.sink

/-- A situation in which cache, log and sink are those of the code inside. -/
structure Situation (enter : State → State) (leave : State → State → State) : Prop where
  entered : Passing enter
  left : ∀ (s t : State) cache log cache' log',
    leave (s.withFetched cache log) (t.withFetched cache' log') =
      (leave s t).withFetched cache' log'
  sink : ∀ s t : State, (leave s t).sink = t.sink

namespace Passing

variable {f : State → State}

theorem fetched_self (h : Passing f) (s : State) :
    f s = (f s).withFetched s.session.cache s.world.log :=
  h.fetched s s.session.cache s.world.log

theorem cache (h : Passing f) (s : State) : (f s).session.cache = s.session.cache := by
  rw [h.fetched_self]
  rfl

theorem log (h : Passing f) (s : State) : (f s).world.log = s.world.log := by
  rw [h.fetched_self]
  rfl

theorem wrote (h : Passing f) (s : State) : s.Wrote [] (f s) := by
  refine .nothing (h.sink s) ?_
  rw [World.chunks, h.log]
  rfl

end Passing

namespace Situation

variable {enter : State → State} {leave : State → State → State}

theorem cache_left (h : Situation enter leave) (s t : State) :
    (leave s t).session.cache = t.session.cache := by
  have hleft : leave s t = (leave s t).withFetched t.session.cache t.world.log :=
    h.left s t s.session.cache s.world.log t.session.cache t.world.log
  rw [hleft]
  rfl

theorem log_left (h : Situation enter leave) (s t : State) :
    (leave s t).world.log = t.world.log := by
  have hleft : leave s t = (leave s t).withFetched t.session.cache t.world.log :=
    h.left s t s.session.cache s.world.log t.session.cache t.world.log
  rw [hleft]
  rfl

/-- What was written inside is what was written between two states of which the
one is left as the other is. -/
theorem wrote_left (h : Situation enter leave) (s s' : State) {t t' : State}
    {chunks : List String} (hwrote : t.Wrote chunks t') :
    (leave s t).Wrote chunks (leave s' t') := by
  have hchunks (s t : State) : (leave s t).world.chunks = t.world.chunks := by
    rw [World.chunks, h.log_left]
    rfl
  refine ⟨?_, ?_⟩
  · rw [h.sink, h.sink]
    exact hwrote.sink
  · rw [hchunks, hchunks, h.sink]
    exact hwrote.log

/-- What the code inside writes is written outside. -/
theorem wrote (h : Situation enter leave) {s t : State} {chunks : List String}
    (hwrote : (enter s).Wrote chunks t) : s.Wrote chunks (leave s t) := by
  have hend := h.wrote_left s s (State.Wrote.refl t)
  have hchunks : (leave s t).world.chunks = t.world.chunks := by
    rw [World.chunks, h.log_left]
    rfl
  have hout : t.Wrote [] (leave s t) := .nothing (h.sink s t) hchunks
  have hall := (h.entered.wrote s).trans (hwrote.trans hout)
  rwa [List.nil_append, List.append_nil] at hall

theorem withFrame : Situation State.enterFrame State.leaveFrame :=
  ⟨⟨fun _ _ _ => rfl, fun _ => rfl⟩, fun _ _ _ _ _ _ => rfl, fun _ _ => rfl⟩

theorem withAutoescape (enabled : Bool) :
    Situation (fun s => s.setAutoescape enabled) State.leaveEscaping :=
  ⟨⟨fun _ _ _ => rfl, fun _ => rfl⟩, fun _ _ _ _ _ _ => rfl, fun _ _ => rfl⟩

theorem inBlock (block : ActiveBlock) : Situation (State.enterBlock block) State.leaveBlock :=
  ⟨⟨fun _ _ _ => rfl, fun _ => rfl⟩, fun _ _ _ _ _ _ => rfl, fun _ _ => rfl⟩

theorem inTemplate (config : Config) (name : String) (reach : Reach) :
    Situation (State.enterDerived config name reach) (State.leaveTemplate reach) :=
  ⟨⟨fun _ _ _ => rfl, fun _ => rfl⟩, fun _ _ _ _ _ _ => rfl, fun _ _ => rfl⟩

end Situation

namespace Indifferent

variable {α : Type}

/-- A run that notes one event, or none, notes ordinary events. -/
theorem notes_of_push {m : Render α} {s : State} {e : Event} (he : e.isOrdinary = true)
    (h : ∀ cache log,
      m (s.withFetched cache log) = ((m s).1, (m s).2.withFetched cache (log.push e))) :
    ∃ events, Event.AllOrdinary events ∧ ∀ cache log,
      m (s.withFetched cache log) = ((m s).1, (m s).2.withFetched cache (log ++ events)) := by
  refine ⟨#[e], Event.allOrdinary_singleton he, fun cache log => ?_⟩
  rw [← Array.push_eq_append]
  exact h cache log

theorem notes_of_same {m : Render α} {s : State}
    (h : ∀ cache log, m (s.withFetched cache log) = ((m s).1, (m s).2.withFetched cache log)) :
    ∃ events, Event.AllOrdinary events ∧ ∀ cache log,
      m (s.withFetched cache log) = ((m s).1, (m s).2.withFetched cache (log ++ events)) := by
  refine ⟨#[], Event.allOrdinary_empty, fun cache log => ?_⟩
  rw [Array.append_empty]
  exact h cache log

/-- An action that changes a state in passing, or not at all. -/
theorem of_passing {m : Render α} {f : State → State} (hf : Passing f)
    (h : ∀ s : State, (m s).2 = f s)
    (hvalue : ∀ (s : State) cache log, (m (s.withFetched cache log)).1 = (m s).1) :
    Indifferent m where
  notes s := by
    refine notes_of_same fun cache log => Prod.ext (hvalue s cache log) ?_
    rw [h, h, hf.fetched]
  writes s := by
    rw [h]
    exact ⟨[], hf.wrote s⟩

theorem passing_id : Passing id := ⟨fun _ _ _ => rfl, fun _ => rfl⟩

theorem pure (a : α) : Indifferent (pure a) :=
  of_passing passing_id (fun _ => rfl) fun _ _ _ => rfl

theorem fail (error : RenderError) : Indifferent (Action.fail error : Render α) :=
  of_passing passing_id (fun _ => rfl) fun _ _ _ => rfl

theorem unfinished : Indifferent (Action.unfinished : Render α) :=
  of_passing passing_id (fun _ => rfl) fun _ _ _ => rfl

theorem ofExcept (e : Except RenderError α) : Indifferent (Action.ofExcept e : Render α) := by
  cases e with
  | ok a => exact pure a
  | error error => exact fail error

/-- Reading what is neither in the cache nor in the log. -/
theorem read {f : State → α} (h : ∀ (s : State) cache log, f (s.withFetched cache log) = f s) :
    Indifferent (Action.read f) :=
  of_passing passing_id (fun _ => rfl) fun s cache log => congrArg Outcome.done (h s cache log)

theorem modify {f : State → State} (hf : Passing f) : Indifferent (Action.modify f) :=
  of_passing hf (fun _ => rfl) fun _ _ _ => rfl

theorem log {e : Event} (he : e.isOrdinary = true) (hchunk : e.chunk? = none) :
    Indifferent (Render.log e) where
  notes _ := notes_of_push he fun _ _ => rfl
  writes s := ⟨[], .logged s hchunk⟩

theorem write (text : String) : Indifferent (Render.write text) where
  notes s := by
    obtain ⟨session, scope, frames, block, sink, world⟩ := s
    rcases sink with (_ | _ | room) | captured
    · exact notes_of_push (e := .output text) rfl fun _ _ => rfl
    · exact notes_of_same fun _ _ => rfl
    · exact notes_of_push (e := .output text) rfl fun _ _ => rfl
    · exact notes_of_same fun _ _ => rfl
  writes s := by
    rcases write_cases text s with ⟨sink, log, hwrote, hrun⟩ | ⟨-, hrun⟩ <;> rw [hrun]
    · exact ⟨[text], hwrote⟩
    · exact ⟨[], .refl s⟩

theorem instantiate (v : Value) : Indifferent (Render.instantiate v) :=
  of_passing (f := fun s => s.withNextInstance (v.renew s.world.nextInstance).2)
    ⟨fun _ _ _ => rfl, fun _ => rfl⟩ (fun _ => rfl) fun _ _ _ => rfl

theorem newInstance : Indifferent Render.newInstance :=
  of_passing (f := fun s => s.withNextInstance (s.world.nextInstance + 1))
    ⟨fun _ _ _ => rfl, fun _ => rfl⟩ (fun _ => rfl) fun _ _ _ => rfl

theorem registerBlock (name : String) (body : Body) :
    Indifferent (Render.registerBlock name body) where
  notes s := notes_of_push
    (e := .notice (.registeredBlock name ((s.session.blocks.register name body).depth name))) rfl
    fun _ _ => rfl
  writes s := by
    have hregistered : s.Wrote [] (s.register name body) := .nothing rfl rfl
    exact ⟨[], hregistered.trans (.logged _ rfl)⟩

theorem assign (name : String) (v : Value) : Indifferent (Render.assign name v) := by
  refine modify ⟨fun s cache log => ?_, fun s => rfl⟩
  unfold State.assign
  have htop : (s.withFetched cache log).isTopLevel = s.isTopLevel := rfl
  rw [htop]
  cases s.isTopLevel <;> rfl

/-- Whether it is refused or not, an undefined value changes nothing. -/
theorem refuseUndefined (config : Config) (v : Value) :
    Indifferent (Render.refuseUndefined config v) := by
  unfold Render.refuseUndefined
  split
  · exact fail _
  · exact pure ()

/-- The note that a session is derived. -/
theorem derivation (name : String) (reach : Reach) : Indifferent (do
    let template ← Action.read fun s => s.session.template
    Render.notify (.derivingSession template name reach)) where
  notes s := notes_of_push (e := .notice (.derivingSession s.session.template name reach)) rfl
    fun _ _ => rfl
  writes s := ⟨[], .logged s rfl⟩

end Indifferent

/-- Whatever is reached begins in a session derived for it. -/
theorem asTemplate_eq {α : Type} (config : Config) (name : String) (reach : Reach)
    (m : Render α) : Render.asTemplate config name reach m =
      ((do
        let template ← Action.read fun s => s.session.template
        Render.notify (.derivingSession template name reach)) >>= fun _ =>
        Action.bracket (State.enterDerived config name reach) (State.leaveTemplate reach) m) :=
  rfl

/-! ## Trying what is tried already -/

section
variable {α β : Type}

theorem attempt_bind_attempt (m : Render α) (f : Except RenderError α → Render β) :
    Action.attempt (Action.attempt m >>= f) =
      (Action.attempt m >>= fun r => Action.attempt (f r)) := by
  funext s
  simp only [Action.attempt, Action.bind_apply]
  rcases m s with ⟨_ | _ | _, t⟩ <;> rfl

/-- An action is what trying it tells. -/
theorem attempt_bind_ofExcept (m : Render α) :
    (Action.attempt m >>= Action.ofExcept) = m := by
  funext s
  simp only [Action.attempt, Action.bind_apply]
  rcases h : m s with ⟨_ | _ | _, t⟩ <;> rfl

end

/-! ## Likeness -/

/-- A relation of actions that goes through the ways in which they are put
together. -/
structure Likeness where
  Like : ∀ {α : Type}, Render α → Render α → Prop
  indifferent : ∀ {α : Type} {m : Render α}, Indifferent m → Like m m
  bind : ∀ {α β : Type} {m n : Render α} {f g : α → Render β},
    Like m n → (∀ a, Like (f a) (g a)) → Like (m >>= f) (n >>= g)
  bracket : ∀ {α : Type} {enter : State → State} {leave : State → State → State}
    {m n : Render α}, Situation enter leave → Like m n →
    Like (Action.bracket enter leave m) (Action.bracket enter leave n)
  capture : ∀ {α : Type} {m n : Render α}, Like m n →
    Like (Action.bracket State.enterCapture State.leaveCapture m)
      (Action.bracket State.enterCapture State.leaveCapture n)
  catching : ∀ {m n : Render Flow}, Like m n → Like (Fetcher.catching m) (Fetcher.catching n)

/-- The configuration with another policy on undefined values. -/
def Config.under (config : Config) (policy : UndefinedPolicy) : Config :=
  { config with undefinedPolicy := policy }

namespace Likeness

variable (L : Likeness) {α : Type}

/-- Fetching is like fetching in another way, errors included. -/
def FetchesLike (fetch fetch' : Fetcher) : Prop :=
  ∀ name, L.Like (Action.attempt (fetch name)) (Action.attempt (fetch' name))

/-- Undefined values are refused alike under both policies. -/
def RefusesLike (config : Config) (policy policy' : UndefinedPolicy) : Prop :=
  ∀ v, L.Like (Render.refuseUndefined (config.under policy) v)
    (Render.refuseUndefined (config.under policy') v)

/-- Bodies run alike. -/
def RunsLike (run run' : Invoke) : Prop := ∀ body, L.Like (run body) (run' body)

theorem pure (a : α) : L.Like (pure a) (pure a) := L.indifferent (.pure a)

theorem fail (error : RenderError) : L.Like (Action.fail error : Render α) (Action.fail error) :=
  L.indifferent (.fail error)

theorem ofExcept (e : Except RenderError α) : L.Like (Action.ofExcept e) (Action.ofExcept e) :=
  L.indifferent (.ofExcept e)

theorem notify (n : Notice) (hn : (Event.notice n).isOrdinary = true) :
    L.Like (Render.notify n) (Render.notify n) :=
  L.indifferent (.log hn rfl)

theorem captured {m n : Render Unit} (h : L.Like m n) :
    L.Like (Render.capture m) (Render.capture n) :=
  L.capture (L.bind h fun _ => L.indifferent (.read fun _ _ _ => rfl))

theorem assignAll : ∀ bindings : List (String × Value),
    L.Like (Render.assignAll bindings) (Render.assignAll bindings)
  | [] => L.pure ()
  | (name, v) :: rest => L.bind (L.indifferent (.assign name v)) fun _ => assignAll rest

theorem registerBlocks (t : Template) :
    L.Like (Render.registerBlocks t) (Render.registerBlocks t) := by
  unfold Render.registerBlocks
  induction t.blocks.entries with
  | nil => exact L.pure ()
  | cons entry rest ih => exact L.bind (L.indifferent (.registerBlock entry.1 entry.2)) fun _ => ih

theorem simply {m n : Render Unit} (h : L.Like m n) :
    L.Like (Templating.simply m) (Templating.simply n) :=
  L.bind h fun _ => L.pure _

theorem asWhole {m n : Render Flow} (h : L.Like m n) :
    L.Like (Templating.asWhole m) (Templating.asWhole n) :=
  L.bind h fun _ => L.pure _

theorem asIteration {m n : Render Flow} (h : L.Like m n) :
    L.Like (Templating.asIteration m) (Templating.asIteration n) :=
  L.bind h fun _ => L.pure _

theorem withFrame {m n : Render α} (h : L.Like m n) :
    L.Like (Render.withFrame m) (Render.withFrame n) :=
  L.bracket .withFrame h

theorem copyEnclosing : L.Like Render.copyEnclosing Render.copyEnclosing := by
  refine L.bind (L.indifferent (.read fun _ _ _ => rfl)) fun v => ?_
  split
  · exact L.bind (L.indifferent .newInstance) fun _ => L.pure _
  · exact L.pure _

theorem beginIteration (scope : Scope) (binding : Binding) (context : LoopContext)
    (values : List Value) :
    L.Like (Render.beginIteration scope binding context values)
      (Render.beginIteration scope binding context values) :=
  L.bind (L.indifferent .newInstance) fun _ =>
    L.indifferent (.modify ⟨fun _ _ _ => rfl, fun _ => rfl⟩)

theorem visitFrom (it : Iteration) (binding : Binding)
    {f g : LoopContext → List Value → Render LoopStep}
    (h : ∀ context values, L.Like (f context values) (g context values)) :
    ∀ (items : List Value) (index0 : Nat),
      L.Like (it.visitFrom binding f index0 items) (it.visitFrom binding g index0 items)
  | [], _ => L.pure _
  | item :: rest, index0 => by
    unfold Iteration.visitFrom
    refine L.bind (L.ofExcept _) fun values => L.bind (h _ values) fun step => ?_
    cases step with
    | stop => exact L.pure _
    | goOn => exact visitFrom it binding h rest (index0 + 1)

section Fetching

variable {fetch fetch' : Fetcher} (hfetch : L.FetchesLike fetch fetch')
include hfetch

theorem fetched (name : String) : L.Like (fetch name) (fetch' name) := by
  rw [← attempt_bind_ofExcept (fetch name), ← attempt_bind_ofExcept (fetch' name)]
  exact L.bind (hfetch name) fun r => L.ofExcept r

theorem attempt_selectFrom (all : List String) : ∀ names : List String,
    L.Like (Action.attempt (fetch.selectFrom all names))
      (Action.attempt (fetch'.selectFrom all names))
  | [] => L.pure (Except.error _)
  | name :: rest => by
    unfold Fetcher.selectFrom
    rw [attempt_bind_attempt, attempt_bind_attempt]
    refine L.bind (hfetch name) fun r => ?_
    cases r with
    | ok t => exact L.pure (Except.ok (name, t))
    | error error =>
      dsimp only
      split
      · exact attempt_selectFrom all rest
      · exact L.pure (Except.error error)

theorem getOptional (name : String) (ignoreMissing : Bool) :
    L.Like (fetch.getOptional name ignoreMissing) (fetch'.getOptional name ignoreMissing) := by
  refine L.bind (hfetch name) fun r => ?_
  cases r with
  | ok t => exact L.pure _
  | error error =>
    dsimp only
    split
    · exact L.bind (L.notify _ rfl) fun _ => L.pure _
    · exact L.fail error

theorem selectOptional (names : List String) (ignoreMissing : Bool) :
    L.Like (fetch.selectOptional names ignoreMissing)
      (fetch'.selectOptional names ignoreMissing) := by
  refine L.bind (L.attempt_selectFrom hfetch names names) fun r => ?_
  cases r with
  | ok found => exact L.pure _
  | error error =>
    dsimp only
    split
    · exact L.bind (L.notify _ rfl) fun _ => L.pure _
    · exact L.fail _

end Fetching

section Code

variable {config : Config} {policy policy' : UndefinedPolicy}

section
variable (hrefuse : L.RefusesLike config policy policy')
include hrefuse

theorem emit (v : Value) :
    L.Like (Render.emit (config.under policy) v) (Render.emit (config.under policy') v) :=
  L.bind (hrefuse v) fun _ => L.bind (L.indifferent (.read fun _ _ _ => rfl)) fun _ =>
    L.indifferent (.write _)

theorem forLoop (iterable : Value) (binding : Binding)
    {body body' : LoopContext → Render LoopStep}
    (h : ∀ context, L.Like (body context) (body' context)) :
    L.Like (Render.forLoop (config.under policy) iterable binding body)
      (Render.forLoop (config.under policy') iterable binding body') := by
  refine L.bind (hrefuse iterable) fun _ => L.bind L.copyEnclosing fun parent => ?_
  refine L.bind (L.ofExcept _) fun items => ?_
  refine L.bind (L.indifferent (.read fun _ _ _ => rfl)) fun scope => ?_
  refine L.bind (L.withFrame ?_) fun _ => L.pure _
  exact L.visitFrom _ binding (fun context values =>
    L.bind (L.beginIteration scope binding context values) fun _ => h context) items 0

theorem forLoopElse (iterable : Value) (binding : Binding)
    {body body' : LoopContext → Render LoopStep} {otherwise otherwise' : Render Unit}
    (h : ∀ context, L.Like (body context) (body' context)) (ho : L.Like otherwise otherwise') :
    L.Like (Render.forLoopElse (config.under policy) iterable binding body otherwise)
      (Render.forLoopElse (config.under policy') iterable binding body' otherwise') := by
  refine L.bind (L.forLoop hrefuse iterable binding h) fun visited => ?_
  cases visited with
  | true => exact L.pure ()
  | false => exact L.withFrame ho

end

theorem filterBlock (filter : String) (arguments : List Value) {m n : Render Unit}
    (h : L.Like m n) :
    L.Like (Render.filterBlock (config.under policy) filter arguments m)
      (Render.filterBlock (config.under policy') filter arguments n) :=
  L.bind (L.withFrame (L.captured h)) fun _ => L.bind (L.ofExcept _) fun _ =>
    L.indifferent (.write _)

theorem assignBinding (binding : Binding) (v : Value) :
    L.Like (Render.assignBinding (config.under policy) binding v)
      (Render.assignBinding (config.under policy') binding v) :=
  L.bind (L.ofExcept _) fun _ => L.assignAll _

theorem resolveName (name : String) :
    L.Like (Render.resolveName (config.under policy) name)
      (Render.resolveName (config.under policy') name) :=
  L.indifferent (m := Render.resolveName (config.under policy) name) (.read fun _ _ _ => rfl)

theorem asTemplate (name : String) (reach : Reach) {m n : Render α} (h : L.Like m n) :
    L.Like (Render.asTemplate (config.under policy) name reach m)
      (Render.asTemplate (config.under policy') name reach n) := by
  rw [asTemplate_eq, asTemplate_eq]
  exact L.bind (L.indifferent (.derivation name reach)) fun _ =>
    L.bracket (.inTemplate (config.under policy) name reach) h

variable {fetch fetch' : Fetcher} {run run' : Invoke}

section
variable (hfetch : L.FetchesLike fetch fetch') (hrun : L.RunsLike run run')
include hrun

theorem evaluateBlock (name : String) (levelsUp : Nat) :
    L.Like (Render.evaluateBlock run name levelsUp) (Render.evaluateBlock run' name levelsUp) := by
  refine L.bind ?_ fun body => L.bracket (.inBlock _) (hrun body)
  refine L.bind (L.indifferent (.read fun _ _ _ => rfl)) fun blocks => ?_
  cases blocks.resolve name levelsUp with
  | error cause => exact L.fail _
  | ok body => exact L.bind (L.notify _ rfl) fun _ => L.pure _

theorem evaluateBlockLevel (name : String) (level : Int) :
    L.Like (Render.evaluateBlockLevel run name level)
      (Render.evaluateBlockLevel run' name level) := by
  unfold Render.evaluateBlockLevel
  split
  · exact L.evaluateBlock hrun name _
  · exact L.fail _

theorem superBlock : L.Like (Render.superBlock run) (Render.superBlock run') := by
  refine L.bind (L.indifferent (.read fun _ _ _ => rfl)) fun active => ?_
  cases active with
  | some active => exact L.evaluateBlock hrun active.name (active.levelsUp + 1)
  | none => exact L.fail _

theorem runTemplate (t : Template) :
    L.Like (Render.runTemplate run t) (Render.runTemplate run' t) := by
  refine L.bind ?_ fun _ => hrun t.root
  unfold Render.runSetup
  cases t.setup with
  | some setup => exact hrun setup
  | none => exact L.registerBlocks t

include hfetch

theorem extendTemplate (name : String) :
    L.Like (fetch.extendTemplate (config.under policy) run name)
      (fetch'.extendTemplate (config.under policy') run' name) :=
  L.bind (L.resolveName name) fun resolved => L.bind (L.fetched hfetch resolved) fun t =>
    L.asTemplate resolved .extending (L.runTemplate hrun t)

theorem includeTemplate (name : String) (ignoreMissing : Bool) :
    L.Like (fetch.includeTemplate (config.under policy) run name ignoreMissing)
      (fetch'.includeTemplate (config.under policy') run' name ignoreMissing) := by
  refine L.bind (L.resolveName name) fun resolved =>
    L.bind (L.getOptional hfetch resolved ignoreMissing) fun found => ?_
  cases found with
  | some t => exact L.asTemplate resolved .including (L.runTemplate hrun t)
  | none => exact L.pure ()

theorem includeFirstOf (names : List String) (ignoreMissing : Bool) :
    L.Like (fetch.includeFirstOf (config.under policy) run names ignoreMissing)
      (fetch'.includeFirstOf (config.under policy') run' names ignoreMissing) := by
  refine L.bind (L.indifferent (.read fun _ _ _ => rfl)) fun origin =>
    L.bind (L.selectOptional hfetch _ ignoreMissing) fun found => ?_
  match found with
  | some (resolved, t) => exact L.asTemplate resolved .including (L.runTemplate hrun t)
  | none => exact L.pure ()

theorem importTemplate (name : String) :
    L.Like (fetch.importTemplate (config.under policy) run name)
      (fetch'.importTemplate (config.under policy') run' name) := by
  refine L.bind (L.resolveName name) fun resolved => L.bind (L.fetched hfetch resolved) fun t => ?_
  refine L.asTemplate resolved .importing ?_
  exact L.bind (L.captured (L.runTemplate hrun t)) fun _ => L.indifferent (.read fun _ _ _ => rfl)

end

mutual

theorem eval (hfetch : L.FetchesLike fetch fetch') (hrun : L.RunsLike run run') :
    ∀ x : Expr, L.Like (fetch.eval (config.under policy) run x)
      (fetch'.eval (config.under policy') run' x)
  | .var _ => L.indifferent (.read fun _ _ _ => rfl)
  | .literal v => L.indifferent (.instantiate v)
  | .unary _ operand =>
    L.bind (eval hfetch hrun operand) fun _ =>
      L.bind (L.indifferent (.read fun _ _ _ => rfl)) fun _ => L.pure _
  | .binary _ first second =>
    L.bind (eval hfetch hrun first) fun _ => L.bind (eval hfetch hrun second) fun _ => L.pure _
  | .call receiver _ arguments =>
    L.bind (eval hfetch hrun receiver) fun _ =>
      L.bind (evalAll hfetch hrun arguments) fun _ => L.ofExcept _
  | .filter _ operand arguments =>
    L.bind (eval hfetch hrun operand) fun _ =>
      L.bind (evalAll hfetch hrun arguments) fun _ => L.ofExcept _
  | .test _ operand arguments =>
    L.bind (eval hfetch hrun operand) fun _ => L.bind (evalAll hfetch hrun arguments) fun _ =>
      L.bind (L.ofExcept _) fun _ => L.pure _
  | .list items => L.bind (evalAll hfetch hrun items) fun _ => L.pure _
  | .importTemplate name => L.importTemplate hfetch hrun name

theorem evalAll (hfetch : L.FetchesLike fetch fetch') (hrun : L.RunsLike run run') :
    ∀ xs : List Expr, L.Like (fetch.evalAll (config.under policy) run xs)
      (fetch'.evalAll (config.under policy') run' xs)
  | [] => L.pure _
  | x :: rest =>
    L.bind (eval hfetch hrun x) fun _ => L.bind (evalAll hfetch hrun rest) fun _ => L.pure _

end

mutual

/-- The induction on code. -/
theorem exec (hfetch : L.FetchesLike fetch fetch')
    (hrefuse : L.RefusesLike config policy policy') (hrun : L.RunsLike run run') :
    ∀ (c : Stmt) (loop : Option LoopContext),
      L.Like (fetch.exec (config.under policy) run loop c)
        (fetch'.exec (config.under policy') run' loop c)
  | .write text, _ => L.simply (L.indifferent (.write text))
  | .emit x, _ => L.simply (L.bind (L.eval hfetch hrun x) fun v => L.emit hrefuse v)
  | .assign name x, _ =>
    L.simply (L.bind (L.eval hfetch hrun x) fun v => L.indifferent (.assign name v))
  | .assignBinding binding x, _ =>
    L.simply (L.bind (L.eval hfetch hrun x) fun v => L.assignBinding binding v)
  | .exportVar name x, _ =>
    L.simply (L.bind (L.eval hfetch hrun x) fun v =>
      L.indifferent (.modify ⟨fun _ _ _ => rfl, fun _ => rfl⟩))
  | .frame body, loop => L.withFrame (execAll hfetch hrefuse hrun body loop)
  | .escaping enabled body, loop =>
    L.bracket (.withAutoescape enabled) (execAll hfetch hrefuse hrun body loop)
  | .setEscaping _, _ => L.simply (L.indifferent (.modify ⟨fun _ _ _ => rfl, fun _ => rfl⟩))
  | .choose condition yes no, loop => by
    refine L.bind (L.eval hfetch hrun condition) fun v => ?_
    cases v.isTruthy with
    | true => exact execAll hfetch hrefuse hrun yes loop
    | false => exact execAll hfetch hrefuse hrun no loop
  | .forEach iterable binding body visited, _ => by
    refine L.simply (L.bind (L.eval hfetch hrun iterable) fun v => ?_)
    refine L.bind (L.forLoop hrefuse v binding fun context =>
      L.asIteration (execAll hfetch hrefuse hrun body (some context))) fun any => ?_
    cases visited with
    | some name => exact L.indifferent (.assign name _)
    | none => exact L.pure ()
  | .forElse iterable binding body otherwise, _ =>
    L.simply (L.bind (L.eval hfetch hrun iterable) fun v =>
      L.forLoopElse hrefuse v binding
        (fun context => L.asIteration (execAll hfetch hrefuse hrun body (some context)))
        (L.asWhole (execAll hfetch hrefuse hrun otherwise none)))
  | .breakLoop, _ => L.pure _
  | .continueLoop, _ => L.pure _
  | .block name levelsUp, _ => L.simply (L.evaluateBlock hrun name levelsUp)
  | .blockLevel name level, _ => L.simply (L.evaluateBlockLevel hrun name level)
  | .superBlock, _ => L.simply (L.superBlock hrun)
  | .extendTemplate name, _ => L.simply (L.extendTemplate hfetch hrun name)
  | .includeTemplate name ignoreMissing, _ =>
    L.simply (L.includeTemplate hfetch hrun name ignoreMissing)
  | .includeFirstOf names ignoreMissing, _ =>
    L.simply (L.includeFirstOf hfetch hrun names ignoreMissing)
  | .importAs name target, _ =>
    L.simply (L.bind (L.importTemplate hfetch hrun name) fun v => L.indifferent (.assign target v))
  | .fromImport name items, _ =>
    L.simply (L.bind (L.importTemplate hfetch hrun name) fun v => L.assignAll _)
  | .filterBlock filter arguments body, _ =>
    L.simply (L.bind (L.evalAll hfetch hrun arguments) fun given =>
      L.filterBlock filter given (L.asWhole (execAll hfetch hrefuse hrun body none)))
  | .registerBlock name body, _ => L.simply (L.indifferent (.registerBlock name body))
  | .registerTemplate name, _ =>
    L.simply (L.bind (L.fetched hfetch name) fun t => L.registerBlocks t)
  | .log x, _ => L.simply (L.bind (L.eval hfetch hrun x) fun _ => L.indifferent (.log rfl rfl))
  | .context, _ => L.simply (L.indifferent (.log rfl rfl))
  | .probe, _ => L.simply (L.bind (L.indifferent (.read fun _ _ _ => rfl)) fun _ =>
      L.indifferent (.log rfl rfl))
  | .summarize, _ => L.simply (L.bind (L.indifferent (.read fun _ _ _ => rfl)) fun _ =>
      L.indifferent (.log rfl rfl))
  | .attempt body, loop => L.catching (execAll hfetch hrefuse hrun body loop)

theorem execAll (hfetch : L.FetchesLike fetch fetch')
    (hrefuse : L.RefusesLike config policy policy') (hrun : L.RunsLike run run') :
    ∀ (body : List Stmt) (loop : Option LoopContext),
      L.Like (fetch.execAll (config.under policy) run loop body)
        (fetch'.execAll (config.under policy') run' loop body)
  | [], _ => L.pure _
  | c :: rest, loop => by
    unfold Fetcher.execAll
    refine L.bind (exec hfetch hrefuse hrun c loop) fun flow => ?_
    cases flow with
    | next => exact execAll hfetch hrefuse hrun rest loop
    | breakLoop | continueLoop => exact L.pure _

end

/-- The induction on the depth to which bodies run others. -/
theorem invoke (hfetch : L.FetchesLike fetch fetch')
    (hrefuse : L.RefusesLike config policy policy') : ∀ (depth : Nat) (body : Body),
      L.Like (fetch.invoke (config.under policy) depth body)
        (fetch'.invoke (config.under policy') depth body)
  | 0, _ => L.indifferent .unfinished
  | depth + 1, body => L.asWhole (L.execAll hfetch hrefuse (invoke hfetch hrefuse depth) body none)

end Code

end Likeness
end Templating
