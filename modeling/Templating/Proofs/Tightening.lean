import Templating.Proofs.Isolation
import Templating.Proofs.Likeness

/-!
# The strict policy only adds failures

The policy on undefined values is asked in two places, where a value is written
out and where it is looped over, and all it decides there is whether the code goes
on.  A strict run and a lenient run of the same code from the same state are one
and the same run up to the first undefined value that the strict one refuses.
Either the error is caught then, which is in the log from then on, or the strict
run ends with it, and what the lenient run still does can only add to what was
written (`Parting`).

All the ways in which actions are put together keep it so (`likeTightened`).  It
is no likeness of states: after an error that was caught the two runs may differ
in anything.  So what is kept along with it is that both runs do nothing but
write, and that what was caught stays caught (`Tightens`).
-/
namespace Templating

/-! ## Refusals that were caught -/

/-- Whether template code caught the refusal of an undefined value. -/
def Event.isCaughtRefusal : Event → Bool
  | caught (.undefined _) => true
  | _ => false

/-- How often template code caught the refusal of an undefined value. -/
def World.caughtRefusals (w : World) : Nat := w.log.toList.countP Event.isCaughtRefusal

theorem World.caughtRefusals_push (w : World) (e : Event) (next : InstanceId) :
    World.caughtRefusals ⟨w.log.push e, next⟩ =
      w.caughtRefusals + if e.isCaughtRefusal then 1 else 0 := by
  rw [World.caughtRefusals, Array.toList_push, List.countP_append, List.countP_singleton]
  rfl

theorem State.caughtRefusals_logged (s : State) {e : Event} (he : e.isCaughtRefusal = false) :
    (s.logged e).world.caughtRefusals = s.world.caughtRefusals := by
  rw [State.logged, World.caughtRefusals_push, he]
  rfl

/-- Ordinary events are no refusals. -/
theorem Event.AllOrdinary.caughtRefusals {events : Array Event} (h : AllOrdinary events)
    (w : World) (next : InstanceId) :
    World.caughtRefusals ⟨w.log ++ events, next⟩ = w.caughtRefusals := by
  have hnone : events.toList.countP isCaughtRefusal = 0 := by
    refine List.countP_eq_zero.mpr fun e he hrefusal => ?_
    have hordinary := h e (Array.mem_toList_iff.mp he)
    cases e with
    | caught _ => cases hordinary
    | _ => cases hrefusal
  rw [World.caughtRefusals, Array.toList_append, List.countP_append, hnone]
  rfl

theorem caughtRefusals_getTemplate (config : Config) (name : String) (s : State) :
    (Render.getTemplate config name s).2.world.caughtRefusals = s.world.caughtRefusals := by
  have hloading : (s.loading name).world.caughtRefusals = s.world.caughtRefusals :=
    (State.caughtRefusals_logged _ rfl).trans (State.caughtRefusals_logged s rfl)
  cases hcache : s.session.cache.get? name with
  | some t =>
    rw [getTemplate_of_cached config hcache]
    exact State.caughtRefusals_logged s rfl
  | none =>
    cases hloader : config.loader name with
    | ok t =>
      rw [getTemplate_of_loaded hcache hloader]
      exact hloading
    | error error =>
      rw [getTemplate_of_failed hcache hloader]
      exact hloading

/-! ## Runs that part -/

/-- How a strict run and a lenient run from a state come to differ, if they do. -/
inductive Parting {α : Type} (s : State) (strict lenient : Outcome α × State) : Prop
  | never : strict = lenient → Parting s strict lenient
  /-- The strict run has gone on after a refusal. -/
  | caught : s.world.caughtRefusals < strict.2.world.caughtRefusals → Parting s strict lenient
  /-- The strict run ended with a refusal, and the lenient run wrote more. -/
  | refused {name : String} {more : List String} : strict.1 = .failed (.undefined name) →
      strict.2.Wrote more lenient.2 → Parting s strict lenient

/-- Between two states nothing but writing has happened to the output. -/
def State.Writes (s t : State) : Prop := ∃ chunks, s.Wrote chunks t

namespace State.Writes

variable {s t u : State}

theorem refl (s : State) : s.Writes s := ⟨[], .refl s⟩

theorem trans (h : s.Writes t) (h' : t.Writes u) : s.Writes u := by
  obtain ⟨first, h⟩ := h
  obtain ⟨second, h'⟩ := h'
  exact ⟨first ++ second, h.trans h'⟩

end State.Writes

/-- What a strict run and a lenient run from a state have to do with each other. -/
structure Tightens {α : Type} (s : State) (strict lenient : Outcome α × State) : Prop where
  strictWrites : s.Writes strict.2
  lenientWrites : s.Writes lenient.2
  caught : s.world.caughtRefusals ≤ strict.2.world.caughtRefusals
  parting : Parting s strict lenient

/-- What comes second takes the state on from where the first action left it. -/
theorem Action.bind_after {σ α β : Type} {R : σ → σ → Prop} (hrefl : ∀ s, R s s)
    (m : Action σ α) {f : α → Action σ β} (hf : ∀ a t, R t (f a t).2) (s : σ) :
    R (m s).2 ((m >>= f) s).2 := by
  rw [bind_apply]
  rcases m s with ⟨a | _ | _, t⟩
  · exact hf a t
  all_goals exact hrefl t

/-- What is written to a captured text is left behind with it. -/
theorem State.Wrote.leaveCaptures {s t u : State} {chunks more : List String}
    (h : s.enterCapture.Wrote chunks t) (h' : t.Wrote more u) :
    (State.leaveCapture s t).Wrote [] (State.leaveCapture s u) := by
  refine .nothing rfl ?_
  have hlog : u.world.chunks = t.world.chunks ++ [] := by
    rw [h'.log, h.sink.streamed]
    rfl
  exact hlog.trans (List.append_nil _)

/-- What was written between two states was written between them with one more
event at the end of each. -/
theorem State.Wrote.loggedAfter {s t : State} {chunks : List String} (h : s.Wrote chunks t)
    {e : Event} (he : e.chunk? = none) : (s.logged e).Wrote chunks (t.logged e) := by
  have hchunks (u : State) : (u.logged e).world.chunks = u.world.chunks := by
    rw [State.logged, World.chunks_push, he]
    exact List.append_nil _
  refine ⟨h.sink, ?_⟩
  rw [hchunks, hchunks]
  exact h.log

namespace Tightens

variable {α β : Type} {s : State}

/-- A run that does not depend on the policy. -/
theorem same {run : Outcome α × State} (hwrites : s.Writes run.2)
    (hcaught : run.2.world.caughtRefusals = s.world.caughtRefusals) : Tightens s run run :=
  ⟨hwrites, hwrites, Nat.le_of_eq hcaught.symm, .never rfl⟩

theorem bind {m n : Render α} {f g : α → Render β} (hm : Tightens s (m s) (n s))
    (hf : ∀ a t, Tightens t (f a t) (g a t)) : Tightens s ((m >>= f) s) ((n >>= g) s) := by
  have hstrict := Action.bind_after .refl m (fun a t => (hf a t).strictWrites) s
  have hlenient := Action.bind_after .refl n (fun a t => (hf a t).lenientWrites) s
  have hcaught : (m s).2.world.caughtRefusals ≤ ((m >>= f) s).2.world.caughtRefusals :=
    Action.bind_after (R := fun t u : State => t.world.caughtRefusals ≤ u.world.caughtRefusals)
      (fun _ => Nat.le_refl _) m (fun a t => (hf a t).caught) s
  refine ⟨hm.strictWrites.trans hstrict, hm.lenientWrites.trans hlenient,
    Nat.le_trans hm.caught hcaught, ?_⟩
  cases hm.parting with
  | never heq =>
    have hfirst := hm.caught
    rw [Action.bind_apply, Action.bind_apply, ← heq]
    rcases hrun : m s with ⟨a | error | _, t⟩ <;> rw [hrun] at hfirst
    · cases (hf a t).parting with
      | never heq' => exact .never heq'
      | caught hlt => exact .caught (Nat.lt_of_le_of_lt hfirst hlt)
      | refused hout hmore => exact .refused hout hmore
    all_goals exact .never rfl
  | caught hlt => exact .caught (Nat.lt_of_lt_of_le hlt hcaught)
  | refused hout hmore =>
    -- The strict run is over; the lenient run goes on, whatever it does.
    obtain ⟨rest, hrest⟩ := hlenient
    have hends : (m >>= f) s = (.failed (.undefined _), (m s).2) :=
      Action.bind_of_failed (Prod.ext hout rfl)
    rw [hends]
    exact .refused rfl (hmore.trans hrest)

theorem bracket {enter : State → State} {leave : State → State → State} {m n : Render α}
    (hsituation : Situation enter leave) (h : Tightens (enter s) (m (enter s)) (n (enter s))) :
    Tightens s (Action.bracket enter leave m s) (Action.bracket enter leave n s) := by
  obtain ⟨⟨chunks, hstrict⟩, ⟨chunks', hlenient⟩, hcaught, hparting⟩ := h
  have hentered : (enter s).world.caughtRefusals = s.world.caughtRefusals := by
    rw [World.caughtRefusals, hsituation.entered.log]
    rfl
  have hleft (t : State) : (leave s t).world.caughtRefusals = t.world.caughtRefusals := by
    rw [World.caughtRefusals, hsituation.log_left]
    rfl
  rw [Action.bracket_apply, Action.bracket_apply]
  refine ⟨⟨chunks, hsituation.wrote hstrict⟩, ⟨chunks', hsituation.wrote hlenient⟩, ?_, ?_⟩
  · rw [hleft, ← hentered]
    exact hcaught
  · cases hparting with
    | never heq => exact .never (by rw [heq])
    | caught hlt =>
      refine .caught ?_
      rw [hleft, ← hentered]
      exact hlt
    | refused hout hmore => exact .refused hout (hsituation.wrote_left s s hmore)

theorem capture {m n : Render α}
    (h : Tightens s.enterCapture (m s.enterCapture) (n s.enterCapture)) :
    Tightens s (Action.bracket State.enterCapture State.leaveCapture m s)
      (Action.bracket State.enterCapture State.leaveCapture n s) := by
  obtain ⟨⟨chunks, hstrict⟩, ⟨chunks', hlenient⟩, hcaught, hparting⟩ := h
  rw [Action.bracket_apply, Action.bracket_apply]
  refine ⟨⟨[], hstrict.leaveCapture⟩, ⟨[], hlenient.leaveCapture⟩, hcaught, ?_⟩
  cases hparting with
  | never heq => exact .never (by rw [heq])
  | caught hlt => exact .caught hlt
  | refused hout hmore => exact .refused hout (hstrict.leaveCaptures hmore)

/-- At the end of both runs the same is logged. -/
theorem logged {strict lenient : Outcome α × State} (h : Tightens s strict lenient) {e : Event}
    (hchunk : e.chunk? = none) (he : e.isCaughtRefusal = false) :
    Tightens s (strict.1, strict.2.logged e) (lenient.1, lenient.2.logged e) := by
  have hafter (t : State) : t.Writes (t.logged e) := ⟨[], .logged t hchunk⟩
  have hcaught := State.caughtRefusals_logged strict.2 he
  refine ⟨h.strictWrites.trans (hafter _), h.lenientWrites.trans (hafter _),
    hcaught ▸ h.caught, ?_⟩
  cases h.parting with
  | never heq => exact .never (by rw [heq])
  | caught hlt => exact .caught (hcaught ▸ hlt)
  | refused hout hmore => exact .refused hout (hmore.loggedAfter hchunk)

/-- Once a refusal is caught the two runs may part for good. -/
theorem catching {m n : Render Flow} (h : Tightens s (m s) (n s)) :
    Tightens s (Fetcher.catching m s) (Fetcher.catching n s) := by
  have hwrites {k : Render Flow} (hk : s.Writes (k s).2) : s.Writes (Fetcher.catching k s).2 := by
    simp only [Fetcher.catching, Action.bind_apply, Action.attempt]
    rcases hrun : k s with ⟨_ | error | _, t⟩ <;> rw [hrun] at hk
    · exact hk
    · exact hk.trans ⟨[], .logged t rfl⟩
    · exact hk
  have hnever (heq : m s = n s) : Fetcher.catching m s = Fetcher.catching n s := by
    simp only [Fetcher.catching, Action.bind_apply, Action.attempt, heq]
  obtain ⟨hstrict, hlenient, hcaught, hparting⟩ := h
  have hmore : (m s).2.world.caughtRefusals ≤ (Fetcher.catching m s).2.world.caughtRefusals ∧
      ∀ name, (m s).1 = .failed (.undefined name) →
        (m s).2.world.caughtRefusals < (Fetcher.catching m s).2.world.caughtRefusals := by
    simp only [Fetcher.catching, Action.bind_apply, Action.attempt]
    rcases m s with ⟨_ | error | _, t⟩
    · exact ⟨Nat.le_refl _, fun name herror => by cases herror⟩
    · have hpush := World.caughtRefusals_push t.world (.caught error) t.world.nextInstance
      refine ⟨hpush ▸ Nat.le_add_right _ _, fun name herror => ?_⟩
      cases herror
      exact hpush ▸ Nat.lt_succ_self _
    · exact ⟨Nat.le_refl _, fun name herror => by cases herror⟩
  refine ⟨hwrites hstrict, hwrites hlenient, Nat.le_trans hcaught hmore.1, ?_⟩
  cases hparting with
  | never heq => exact .never (hnever heq)
  | caught hlt => exact .caught (Nat.lt_of_lt_of_le hlt hmore.1)
  | refused hout _ => exact .caught (Nat.lt_of_le_of_lt hcaught (hmore.2 _ hout))

end Tightens

/-- Run under the strict policy and under the lenient one. -/
def likeTightened : Likeness where
  Like m n := ∀ s : State, Tightens s (m s) (n s)
  indifferent {_ m} hm s := by
    obtain ⟨events, hevents, hrun⟩ := hm.notes s
    have hself : m s = _ := hrun s.session.cache s.world.log
    refine .same (hm.writes s) ?_
    rw [hself]
    exact hevents.caughtRefusals s.world _
  bind hm hf s := (hm s).bind hf
  bracket {_ enter _ _ _} hsituation hm s := (hm (enter s)).bracket hsituation
  capture hm s := (hm s.enterCapture).capture
  catching hm s := (hm s).catching

section
variable (config : Config)

/-- Fetching does not ask for the policy. -/
theorem likeTightened_fetch (name : String) :
    likeTightened.Like (Action.attempt (Fetcher.cached (config.under .strict) name))
      (Action.attempt (Fetcher.cached (config.under .lenient) name)) := by
  intro s
  refine .same ?_ ?_
  · rw [Action.attempt_state]
    exact ⟨[], wrote_getTemplate (config.under .strict) name s⟩
  · rw [Action.attempt_state]
    exact caughtRefusals_getTemplate (config.under .strict) name s

/-- The one action that does. -/
theorem likeTightened_refuse (v : Value) :
    likeTightened.Like (Render.refuseUndefined (config.under .strict) v)
      (Render.refuseUndefined (config.under .lenient) v) := by
  intro s
  cases v with
  | undefined name => exact ⟨.refl s, .refl s, Nat.le_refl _, .refused rfl (.refl s)⟩
  | _ => exact .same (.refl s) rfl

theorem likeTightened_invoke (depth : Nat) (body : Body) :
    likeTightened.Like (invoke (config.under .strict) depth body)
      (invoke (config.under .lenient) depth body) := by
  have hinvoke := likeTightened.invoke (likeTightened_fetch config) (likeTightened_refuse config)
    depth body
  rw [Fetcher.invoke_cached, Fetcher.invoke_cached] at hinvoke
  exact hinvoke

theorem likeTightened_execAll (depth : Nat) (loop : Option LoopContext) (body : Body) :
    likeTightened.Like
      (Stmt.execAll (config.under .strict) (invoke (config.under .strict) depth) loop body)
      (Stmt.execAll (config.under .lenient) (invoke (config.under .lenient) depth) loop body) := by
  have hexecAll := likeTightened.execAll (likeTightened_fetch config) (likeTightened_refuse config)
    (likeTightened_invoke config depth) body loop
  rw [Fetcher.execAll_cached, Fetcher.execAll_cached] at hexecAll
  exact hexecAll

/-- So it is with a whole render. -/
theorem tightens_evaluateTemplate (depth : Nat) (t : Template) (context : Context) (sink : Sink)
    (session : Option Session) (world : World) :
    Tightens (.begin config t context sink session world)
      ((config.under .strict).evaluateTemplate depth t context sink session world)
      ((config.under .lenient).evaluateTemplate depth t context sink session world) := by
  have hrun := likeTightened.runTemplate (likeTightened_invoke config depth) t
    (.begin config t context sink session world)
  exact hrun.logged rfl rfl

end
end Templating
