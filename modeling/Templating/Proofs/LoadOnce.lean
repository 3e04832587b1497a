import Templating.Proofs.Likeness
import Templating.Proofs.Overrides

/-!
# Templates are loaded once

A loader need not answer the same each time: a template may turn up later, or
change.  Here a loader may look at all that has happened so far (`Source`), so
what it answers to one request says nothing about the next.

A top-level session and the sessions derived from it, whatever is done in them,
share one cache (`Pool.Tree`).  What is in it can be told from what happened:
under a name is the answer to the first request for the name that succeeded
(`Source.loaded?`), and the loader was never asked for a name after that
(`Source.AsksOnce`).  Both are kept by all code, because fetching is the only
thing that asks and the only thing that caches (`likeRecalling`).

So nothing tells the cache from a record of the loads: code that fetches through
the cache runs as it would if it looked the name up in the record
(`Fetcher.recalling`).
-/
namespace Templating

/-- What has happened, the latest first. -/
def World.history (w : World) : List Event := w.log.toList.reverse

theorem World.history_push (w : World) (e : Event) (next : InstanceId) :
    World.history ⟨w.log.push e, next⟩ = e :: w.history := by
  rw [World.history, Array.toList_push, List.reverse_append]
  rfl

/-- A loader whose answers may depend on all that has happened. -/
abbrev Source := List Event → Loader

/-! ## The record of loads -/

namespace Source

variable (source : Source)

/-- The template that was loaded under a name: the answer to the first request
that succeeded. -/
def loaded? (name : String) : List Event → Option Template
  | [] => none
  | e :: past =>
    (loaded? name past).or
      (if e.loaded? = some name then (source past name).toOption else none)

/-- The loader was asked only for names under which nothing had been loaded. -/
def AsksOnce : List Event → Prop
  | [] => True
  | e :: past => (∀ name, e.loaded? = some name → source.loaded? name past = none) ∧ AsksOnce past

variable {source} {name : String} {history more past later : List Event} {t : Template}

theorem loaded?_cons_of_ne {e : Event} (he : e.loaded? ≠ some name) :
    source.loaded? name (e :: past) = source.loaded? name past := by
  rw [loaded?, if_neg he, Option.or_none]

theorem loaded?_load (name other : String) : source.loaded? other (.load name :: past) =
    (source.loaded? other past).or
      (if name = other then (source past name).toOption else none) := by
  by_cases h : name = other
  · subst h
    simp [loaded?, Event.loaded?]
  · simp [loaded?, Event.loaded?, h]

theorem loaded?_append (h : source.loaded? name past = some t) :
    source.loaded? name (more ++ past) = some t := by
  induction more with
  | nil => exact h
  | cons e more ih =>
    rw [List.cons_append, loaded?, ih]
    rfl

/-- What is not about loading changes neither the record nor what it means. -/
theorem loaded?_append_of_none (hmore : ∀ e ∈ more, e.loaded? = none) :
    source.loaded? name (more ++ past) = source.loaded? name past := by
  induction more with
  | nil => rfl
  | cons e more ih =>
    have he : e.loaded? ≠ some name := by
      rw [hmore e (List.mem_cons_self ..)]
      exact Option.some_ne_none name ∘ Eq.symm
    rw [List.cons_append, loaded?_cons_of_ne he,
      ih fun e he => hmore e (List.mem_cons_of_mem _ he)]

theorem asksOnce_append_of_none (hmore : ∀ e ∈ more, e.loaded? = none)
    (h : source.AsksOnce past) : source.AsksOnce (more ++ past) := by
  induction more with
  | nil => exact h
  | cons e more ih =>
    refine ⟨fun name he => ?_, ih fun e he => hmore e (List.mem_cons_of_mem _ he)⟩
    rw [hmore e (List.mem_cons_self ..)] at he
    cases he

theorem loaded?_of_loaded (hsplit : history = later ++ .load name :: past)
    (hasks : source.AsksOnce history) (ht : source past name = .ok t) :
    source.loaded? name history = some t := by
  subst hsplit
  refine loaded?_append ?_
  have hpast : source.loaded? name past = none := by
    induction later with
    | nil => exact hasks.1 name rfl
    | cons e later ih => exact ih hasks.2
  rw [loaded?, hpast, ht]
  exact if_pos rfl

/-- What the record has was loaded at some time. -/
theorem exists_of_loaded? (h : source.loaded? name history = some t) :
    ∃ later past, history = later ++ .load name :: past ∧ source past name = .ok t := by
  induction history with
  | nil => cases h
  | cons e rest ih =>
    cases hrest : source.loaded? name rest with
    | some u =>
      rw [loaded?, hrest, Option.some_or] at h
      cases h
      obtain ⟨later, past, rfl, ht⟩ := ih hrest
      exact ⟨e :: later, past, rfl, ht⟩
    | none =>
      rw [loaded?, hrest, Option.none_or] at h
      split at h
      · next he =>
        obtain rfl : e = .load name := by
          cases e <;> cases he
          rfl
        cases hanswer : source rest name with
        | ok u =>
          rw [hanswer] at h
          cases h
          exact ⟨[], rest, rfl, hanswer⟩
        | error error =>
          rw [hanswer] at h
          cases h
      · cases h

/-- After a load that succeeded the loader is not asked for the name again. -/
theorem AsksOnce.not_mem (hasks : source.AsksOnce (later ++ .load name :: past))
    (ht : source past name = .ok t) : .load name ∉ later := by
  induction later with
  | nil => exact List.not_mem_nil
  | cons e later ih =>
    intro hmem
    rcases List.mem_cons.mp hmem with rfl | hmem
    · have hnone := hasks.1 name rfl
      have hsome : source.loaded? name (later ++ .load name :: past) = some t :=
        loaded?_of_loaded rfl hasks.2 ht
      exact absurd (hsome.symm.trans hnone) (Option.some_ne_none t)
    · exact ih hasks.2 hmem

end Source

/-! ## Fetching from a source -/

namespace Fetcher

variable (source : Source)

/-- Ask a source for a template. -/
def asking : Fetcher := fun name => do
  Render.notify (.loadingTemplate name)
  let past ← Action.read fun s => s.world.history
  Render.log (.load name)
  Action.ofExcept (source past name)

/-- Templates come from the cache if they are there, and from a source if not. -/
def caching : Fetcher := fun name => do
  match ← Action.read fun s => s.session.cache.get? name with
  | some t =>
    Render.notify (.templateCacheHit name)
    return t
  | none =>
    let t ← asking source name
    Render.remember name t
    return t

/-- Templates that were loaded before are told from what has happened, whatever
the cache says. -/
def recalling : Fetcher := fun name => do
  match ← Action.read fun s => source.loaded? name s.world.history with
  | some t =>
    Render.notify (.templateCacheHit name)
    return t
  | none =>
    let t ← asking source name
    Render.remember name t
    return t

/-- A loader that answers the same each time is a source. -/
theorem caching_loader (config : Config) : caching (fun _ => config.loader) = cached config := rfl

variable {source} {name : String} {s : State}

theorem caching_of_cached {t : Template} (h : s.session.cache.get? name = some t) :
    caching source name s = (.done t, s.logged (.notice (.templateCacheHit name))) := by
  simp only [caching, Action.bind_apply, Action.read, h]
  rfl

/-- What is not in the cache is asked for; only what is found is cached. -/
theorem caching_of_uncached (h : s.session.cache.get? name = none) :
    caching source name s =
      match source (.notice (.loadingTemplate name) :: s.world.history) name with
      | .ok t => (.done t, (s.loading name).remember name t)
      | .error error => (.failed error, s.loading name) := by
  have hpast : (s.logged (.notice (.loadingTemplate name))).world.history =
      .notice (.loadingTemplate name) :: s.world.history := World.history_push ..
  rw [← hpast]
  simp only [caching, asking, Action.bind_apply, Action.read, h, Render.notify, Render.log,
    Action.modify]
  cases source _ name <;> rfl

end Fetcher

/-- The cache is what the record of loads says, and nothing was loaded twice. -/
structure State.Tidy (source : Source) (s : State) : Prop where
  cache : ∀ name, s.session.cache.get? name = source.loaded? name s.world.history
  asks : source.AsksOnce s.world.history

namespace State.Tidy

variable {source : Source} {s t : State}

theorem of_eq (h : s.Tidy source) (hcache : t.session.cache = s.session.cache)
    (hlog : t.world.log = s.world.log) : t.Tidy source := by
  have hhistory : t.world.history = s.world.history := by rw [World.history, hlog]; rfl
  refine ⟨fun name => ?_, ?_⟩
  · rw [hcache, hhistory, h.cache]
  · rw [hhistory]
    exact h.asks

/-- Events that are not about loading leave everything tidy. -/
theorem noted (h : s.Tidy source) {events : Array Event}
    (hevents : ∀ e ∈ events, e.loaded? = none) (hcache : t.session.cache = s.session.cache)
    (hlog : t.world.log = s.world.log ++ events) : t.Tidy source := by
  have hhistory : t.world.history = events.toList.reverse ++ s.world.history := by
    rw [World.history, hlog, Array.toList_append, List.reverse_append]
    rfl
  have hmore : ∀ e ∈ events.toList.reverse, e.loaded? = none := fun e he =>
    hevents e (Array.mem_toList_iff.mp (List.mem_reverse.mp he))
  refine ⟨fun name => ?_, ?_⟩
  · rw [hcache, hhistory, Source.loaded?_append_of_none hmore, h.cache]
  · rw [hhistory]
    exact Source.asksOnce_append_of_none hmore h.asks

theorem logged (h : s.Tidy source) {e : Event} (he : e.loaded? = none) :
    (s.logged e).Tidy source := by
  have honly : ∀ e' ∈ #[e], e'.loaded? = none := fun e' he' => by
    rw [Array.eq_of_mem_singleton he', he]
  exact h.noted honly rfl Array.push_eq_append

theorem loading (h : s.Tidy source) {name : String} (hname : s.session.cache.get? name = none) :
    source.AsksOnce (s.loading name).world.history := by
  have hnoted := h.logged (e := .notice (.loadingTemplate name)) rfl
  rw [State.loading, State.logged, World.history_push]
  refine ⟨fun other hother => ?_, hnoted.asks⟩
  cases hother
  rw [← hnoted.cache]
  exact hname

/-- Fetching leaves everything tidy, whatever the source answers. -/
theorem caching (h : s.Tidy source) (name : String) :
    (Fetcher.caching source name s).2.Tidy source := by
  cases hcache : s.session.cache.get? name with
  | some t =>
    rw [Fetcher.caching_of_cached hcache]
    exact h.logged rfl
  | none =>
    rw [Fetcher.caching_of_uncached hcache]
    have hnoted := h.logged (e := .notice (.loadingTemplate name)) rfl
    have hhistory : (s.logged (.notice (.loadingTemplate name))).world.history =
        .notice (.loadingTemplate name) :: s.world.history := World.history_push ..
    have hloaded (other : String) : source.loaded? other (s.loading name).world.history =
        (s.session.cache.get? other).or (if name = other then
          (source (.notice (.loadingTemplate name) :: s.world.history) name).toOption
          else none) := by
      rw [State.loading, State.logged, World.history_push, Source.loaded?_load, ← hnoted.cache,
        hhistory]
      rfl
    cases hanswer : source (.notice (.loadingTemplate name) :: s.world.history) name with
    | ok t =>
      refine ⟨fun other => ?_, h.loading hcache⟩
      refine (Table.get?_insert s.session.cache name other t).trans ?_
      refine Eq.trans ?_ (hloaded other).symm
      rw [hanswer]
      by_cases heq : name = other
      · subst heq
        rw [if_pos rfl, if_pos rfl, hcache]
        rfl
      · rw [if_neg heq, if_neg fun hother => heq hother.symm, Option.or_none]
    | error error =>
      refine ⟨fun other => ?_, h.loading hcache⟩
      refine Eq.trans ?_ (hloaded other).symm
      rw [hanswer]
      show s.session.cache.get? other = _
      split <;> exact (Option.or_none).symm

/-- The cache tells what the record tells. -/
theorem recalling (h : s.Tidy source) (name : String) :
    Fetcher.caching source name s = Fetcher.recalling source name s := by
  have hcache := h.cache name
  simp only [Fetcher.caching, Fetcher.recalling, Action.bind_apply, Action.read, hcache]

end State.Tidy

/-- In a tidy state two actions do the same, and leave a tidy state. -/
def likeRecalling (source : Source) : Likeness where
  Like m n := ∀ s : State, s.Tidy source → m s = n s ∧ (m s).2.Tidy source
  indifferent {_ m} hm s hs := by
    obtain ⟨events, hevents, hrun⟩ := hm.notes s
    have hself : m s = _ := hrun s.session.cache s.world.log
    have hunloaded : ∀ e ∈ events, e.loaded? = none := fun e he => by
      have hordinary := hevents e he
      cases e <;> first | rfl | cases hordinary
    refine ⟨rfl, hs.noted hunloaded ?_ ?_⟩
    · rw [hself]
      rfl
    · rw [hself]
      rfl
  bind {_ _ m n f g} hm hf s hs := by
    obtain ⟨heq, htidy⟩ := hm s hs
    rw [Action.bind_apply, Action.bind_apply, ← heq]
    rcases hrun : m s with ⟨a | _ | _, t⟩ <;> rw [hrun] at htidy
    · exact hf a t htidy
    · exact ⟨rfl, htidy⟩
    · exact ⟨rfl, htidy⟩
  bracket {_ enter leave m n} hsituation hm s hs := by
    obtain ⟨heq, htidy⟩ := hm (enter s)
      (hs.of_eq (hsituation.entered.cache s) (hsituation.entered.log s))
    rw [Action.bracket_apply, Action.bracket_apply, ← heq]
    exact ⟨rfl, htidy.of_eq (hsituation.cache_left s _) (hsituation.log_left s _)⟩
  capture {_ m n} hm s hs := by
    obtain ⟨heq, htidy⟩ := hm s.enterCapture (hs.of_eq rfl rfl)
    rw [Action.bracket_apply, Action.bracket_apply, ← heq]
    exact ⟨rfl, htidy.of_eq rfl rfl⟩
  catching {m n} hm s hs := by
    obtain ⟨heq, htidy⟩ := hm s hs
    have hcatching : Fetcher.catching m s = Fetcher.catching n s := by
      simp only [Fetcher.catching, Action.bind_apply, Action.attempt, heq]
    refine ⟨hcatching, ?_⟩
    simp only [Fetcher.catching, Action.bind_apply, Action.attempt]
    rcases hrun : m s with ⟨flow | error | _, t⟩ <;> rw [hrun] at htidy
    · exact htidy
    · exact htidy.logged rfl
    · exact htidy

theorem likeRecalling_fetch (source : Source) (name : String) :
    (likeRecalling source).Like (Action.attempt (Fetcher.caching source name))
      (Action.attempt (Fetcher.recalling source name)) := by
  intro s hs
  have heq := hs.recalling name
  refine ⟨?_, ?_⟩
  · simp only [Action.attempt, heq]
  · rw [Action.attempt_state]
    exact hs.caching name

end Templating
