import Templating.Proofs.Reachable
import Templating.Proofs.SharedCache

/-!
# The cache cannot be told

If the loader answers the same each time, then nothing but the log tells whether
a template came from the cache or was loaded again.  A run that fetches through
the cache is compared with one that asks the loader each time
(`Fetcher.uncached`), from states that agree in all but the cache and what was
logged about fetching (`State.Uncaches`).  They end in the same way and in states
that agree again (`likeUncached`), so they write the same chunks and leave the
same session but for its cache.

A render by name is the render of the template that the loader has under that
name, begun with that template in the cache; the cache makes no difference.

With what holds of the loads themselves (`Pool.LoadsOnce`) this is the whole law
of the template cache (`cacheLaw`).
-/
namespace Templating

namespace Fetcher

/-- Ask the loader each time. -/
def uncached (config : Config) : Fetcher := Render.load config

end Fetcher

/-- What happened beside the fetching of templates. -/
def World.deeds (w : World) : List Event :=
  w.log.toList.filter fun e => !e.isFetching

theorem World.deeds_push (w : World) (e : Event) (next : InstanceId) :
    World.deeds ⟨w.log.push e, next⟩ = w.deeds ++ [e].filter fun e => !e.isFetching := by
  rw [World.deeds, Array.toList_push, List.filter_append]
  rfl

theorem World.deeds_push_of_fetching (w : World) {e : Event} (he : e.isFetching = true)
    (next : InstanceId) : World.deeds ⟨w.log.push e, next⟩ = w.deeds := by
  rw [World.deeds_push, List.filter_cons_of_neg (by simp [he])]
  exact List.append_nil _

/-- Chunks are not about fetching. -/
theorem World.chunks_of_deeds {w w' : World} (h : w'.deeds = w.deeds) : w'.chunks = w.chunks := by
  have hchunks (w : World) : w.chunks = w.deeds.filterMap Event.chunk? := by
    rw [World.chunks, World.deeds, List.filterMap_filter]
    congr 1
    funext e
    rcases e with _ | _ | n | _ | _ | _ | _ | _ | _ | _
    case notice => cases n <;> rfl
    all_goals rfl
  rw [hchunks, hchunks, h]

/-- Two states agree but for the cache and what was logged about fetching; the
cache of the first has what the loader has. -/
structure State.Uncaches (config : Config) (a b : State) : Prop where
  rest : ∃ cache log, b = a.withFetched cache log
  faithful : a.session.Faithful config
  deeds : b.world.deeds = a.world.deeds

namespace State.Uncaches

variable {config : Config} {a b : State}

theorem refl {s : State} (h : s.session.Faithful config) : s.Uncaches config s :=
  ⟨⟨s.session.cache, s.world.log, rfl⟩, h, rfl⟩

theorem captured (h : a.Uncaches config b) : b.captured = a.captured := by
  obtain ⟨cache, log, rfl⟩ := h.rest
  rfl

/-- The same happens on both sides. -/
theorem logged (h : a.Uncaches config b) (e : Event) :
    (a.logged e).Uncaches config (b.logged e) := by
  obtain ⟨⟨cache, log, rfl⟩, hfaithful, hdeeds⟩ := h
  refine ⟨⟨cache, log.push e, rfl⟩, hfaithful, ?_⟩
  rw [State.logged, State.logged, World.deeds_push, World.deeds_push, hdeeds]

/-- Something about fetching happens on one side. -/
theorem loggedLeft (h : a.Uncaches config b) {e : Event} (he : e.isFetching = true) :
    (a.logged e).Uncaches config b := by
  obtain ⟨⟨cache, log, rfl⟩, hfaithful, hdeeds⟩ := h
  exact ⟨⟨cache, log, rfl⟩, hfaithful, hdeeds.trans (World.deeds_push_of_fetching _ he _).symm⟩

theorem loggedRight (h : a.Uncaches config b) {e : Event} (he : e.isFetching = true) :
    a.Uncaches config (b.logged e) := by
  obtain ⟨⟨cache, log, rfl⟩, hfaithful, hdeeds⟩ := h
  exact ⟨⟨cache, log.push e, rfl⟩, hfaithful, (World.deeds_push_of_fetching _ he _).trans hdeeds⟩

theorem remembered (h : a.Uncaches config b) {name : String} {t : Template}
    (ht : config.loader name = .ok t) : (a.remember name t).Uncaches config b := by
  obtain ⟨⟨cache, log, rfl⟩, hfaithful, hdeeds⟩ := h
  exact ⟨⟨cache, log, rfl⟩, hfaithful.remember ht, hdeeds⟩

end State.Uncaches

/-- From states that agree but for the cache two actions end in the same way, and
in such states. -/
def likeUncached (config : Config) : Likeness where
  Like m n := ∀ a b : State, a.Uncaches config b →
    (m a).1 = (n b).1 ∧ (m a).2.Uncaches config (n b).2
  indifferent {_ m} hm a b hab := by
    obtain ⟨⟨cache, log, rfl⟩, hfaithful, hdeeds⟩ := hab
    obtain ⟨events, -, hrun⟩ := hm.notes a
    have hself : m a = _ := hrun a.session.cache a.world.log
    have hcache : (m a).2.session.cache = a.session.cache := by rw [hself]; rfl
    have hlog : (m a).2.world.log = a.world.log ++ events := by rw [hself]; rfl
    rw [hrun cache log]
    refine ⟨rfl, ⟨cache, log ++ events, rfl⟩, fun name t ht => ?_, ?_⟩
    · rw [hcache] at ht
      exact hfaithful name t ht
    · show List.filter _ (log ++ events).toList = List.filter _ (m a).2.world.log.toList
      rw [hlog, Array.toList_append, Array.toList_append, List.filter_append, List.filter_append]
      exact congrArg (· ++ _) hdeeds
  bind {_ _ m n f g} hm hf a b hab := by
    obtain ⟨hout, hleft⟩ := hm a b hab
    rw [Action.bind_apply, Action.bind_apply]
    rcases hma : m a with ⟨outcome, a'⟩
    rcases hnb : n b with ⟨outcome', b'⟩
    rw [hma, hnb] at hout hleft
    cases hout
    cases outcome with
    | done x => exact hf x a' b' hleft
    | failed error => exact ⟨rfl, hleft⟩
    | unfinished => exact ⟨rfl, hleft⟩
  bracket {_ enter leave m n} hsituation hm a b hab := by
    obtain ⟨⟨cache, log, rfl⟩, hfaithful, hdeeds⟩ := hab
    have hbegun := hsituation.entered.fetched a cache log
    have hdeeds' : (enter (a.withFetched cache log)).world.deeds = (enter a).world.deeds := by
      rw [World.deeds, World.deeds, hsituation.entered.log, hsituation.entered.log]
      exact hdeeds
    obtain ⟨hout, hrest, hfaithful', hleft⟩ := hm (enter a) (enter (a.withFetched cache log))
      ⟨⟨cache, log, hbegun⟩, fun name t ht => hfaithful name t
        (hsituation.entered.cache a ▸ ht), hdeeds'⟩
    rw [Action.bracket_apply, Action.bracket_apply]
    refine ⟨hout, ?_, fun name t ht => hfaithful' name t (hsituation.cache_left a _ ▸ ht), ?_⟩
    · obtain ⟨cache', log', hended⟩ := hrest
      rw [hended]
      exact ⟨cache', log', hsituation.left a _ cache log cache' log'⟩
    · rw [World.deeds, World.deeds, hsituation.log_left, hsituation.log_left]
      exact hleft
  capture {_ m n} hm a b hab := by
    obtain ⟨⟨cache, log, rfl⟩, hfaithful, hdeeds⟩ := hab
    obtain ⟨hout, ⟨cache', log', hended⟩, hfaithful', hleft⟩ :=
      hm a.enterCapture (a.withFetched cache log).enterCapture
        ⟨⟨cache, log, rfl⟩, hfaithful, hdeeds⟩
    rw [Action.bracket_apply, Action.bracket_apply]
    refine ⟨hout, ⟨cache', log', ?_⟩, hfaithful', hleft⟩
    rw [hended]
    rfl
  catching {m n} hm a b hab := by
    obtain ⟨hout, hleft⟩ := hm a b hab
    simp only [Fetcher.catching, Action.bind_apply, Action.attempt]
    rcases hma : m a with ⟨outcome, a'⟩
    rcases hnb : n b with ⟨outcome', b'⟩
    rw [hma, hnb] at hout hleft
    cases hout
    cases outcome with
    | done flow => exact ⟨rfl, hleft⟩
    | failed error => exact ⟨rfl, hleft.logged (.caught error)⟩
    | unfinished => exact ⟨rfl, hleft⟩

/-- Fetching comes to what the loader has, with the cache and without. -/
theorem likeUncached_fetch (config : Config) (name : String) :
    (likeUncached config).Like (Action.attempt (Fetcher.cached config name))
      (Action.attempt (Fetcher.uncached config name)) := by
  intro a b hab
  have hload : Fetcher.uncached config name b =
      (Outcome.ofExcept (config.loader name), b.loading name) := by
    simp only [Fetcher.uncached, Render.load, Action.bind_apply, Render.notify, Render.log,
      Action.modify]
    cases config.loader name <;> rfl
  have hright : a.Uncaches config (b.loading name) := (hab.loggedRight rfl).loggedRight rfl
  have hboth : (a.loading name).Uncaches config (b.loading name) :=
    (hright.loggedLeft rfl).loggedLeft rfl
  simp only [Action.attempt, hload]
  cases hcache : a.session.cache.get? name with
  | some t =>
    rw [Fetcher.cached, getTemplate_of_cached config hcache, hab.faithful name t hcache]
    exact ⟨rfl, hright.loggedLeft rfl⟩
  | none =>
    cases hloader : config.loader name with
    | ok t =>
      rw [Fetcher.cached, getTemplate_of_loaded hcache hloader]
      exact ⟨rfl, hboth.remembered hloader⟩
    | error error =>
      rw [Fetcher.cached, getTemplate_of_failed hcache hloader]
      exact ⟨rfl, hboth⟩

/-! ## Runs -/

section
variable (config : Config)

theorem likeUncached_refuse (v : Value) :
    (likeUncached config).Like (Render.refuseUndefined (config.under config.undefinedPolicy) v)
      (Render.refuseUndefined (config.under config.undefinedPolicy) v) :=
  (likeUncached config).indifferent (.refuseUndefined _ v)

theorem likeUncached_invoke (depth : Nat) (body : Body) :
    (likeUncached config).Like (invoke config depth body)
      ((Fetcher.uncached config).invoke config depth body) := by
  have hinvoke := (likeUncached config).invoke (likeUncached_fetch config)
    (likeUncached_refuse config) depth body
  rw [← Fetcher.invoke_cached]
  exact hinvoke

theorem likeUncached_execAll (depth : Nat) (loop : Option LoopContext) (body : Body) :
    (likeUncached config).Like (Stmt.execAll config (invoke config depth) loop body)
      ((Fetcher.uncached config).execAll config ((Fetcher.uncached config).invoke config depth)
        loop body) := by
  have hexecAll := (likeUncached config).execAll (likeUncached_fetch config)
    (likeUncached_refuse config) (likeUncached_invoke config depth) body loop
  rw [← Fetcher.execAll_cached]
  exact hexecAll

theorem uncaches_runTemplate {a b : State} (h : a.Uncaches config b) (depth : Nat)
    (t : Template) :
    (Render.runTemplate (invoke config depth) t a).1 =
        (Render.runTemplate ((Fetcher.uncached config).invoke config depth) t b).1 ∧
      (Render.runTemplate (invoke config depth) t a).2.Uncaches config
        (Render.runTemplate ((Fetcher.uncached config).invoke config depth) t b).2 :=
  (likeUncached config).runTemplate (likeUncached_invoke config depth) t a b h

end

/-- A run that fetches through the cache, and one that does not, come to the same:
they end in the same way and write the same chunks, and their states differ in
the cache and in what was logged about fetching. -/
structure Unaffected {α : Type} (cached uncached : Outcome α × State) : Prop where
  outcome : uncached.1 = cached.1
  state : ∃ cache log, uncached.2 = cached.2.withFetched cache log
  chunks : uncached.2.world.chunks = cached.2.world.chunks
  deeds : uncached.2.world.deeds = cached.2.world.deeds

theorem unaffected_of_uncaches {α : Type} {config : Config} {cached uncached : Outcome α × State}
    (h : cached.1 = uncached.1 ∧ cached.2.Uncaches config uncached.2) :
    Unaffected cached uncached :=
  ⟨h.1.symm, h.2.rest, World.chunks_of_deeds h.2.deeds, h.2.deeds⟩

/-- Rendering by name yields what rendering the template of that name yields. -/
theorem renderNamed_of_loaded (config : Config) (depth : Nat) {name : String} {t : Template}
    (ht : config.loader name = .ok t) (hname : t.name = name) (context : Context)
    (world : World) :
    (config.renderNamed depth name context world).1 = (config.render depth t context world).1 := by
  subst hname
  let begun := State.start (Session.start config (some t.name)) (.root context) (.buffer "") world
  have hfaithful : begun.session.Faithful config := fun _ _ hu => by cases hu
  -- The two renders begin in states that differ in the cache and the log only.
  have hfetched : ((begun.loading t.name).remember t.name t).Uncaches config begun :=
    (((State.Uncaches.refl hfaithful).loggedLeft rfl).loggedLeft rfl).remembered ht
  have hbegin {s : State} (hs : s.Uncaches config begun) :=
    uncaches_runTemplate config ((hs.logged (.began t.name)).logged
      (.notice (.renderingTemplate begun.session.autoescape))) depth t
  obtain ⟨hplain, hplainEnd⟩ := hbegin (.refl hfaithful)
  obtain ⟨hnamed, hnamedEnd⟩ := hbegin hfetched
  have hget : Render.getTemplate config t.name (.start (Session.start config (some t.name))
      (.root Table.empty) (.buffer "") world) = _ := getTemplate_of_loaded rfl ht
  simp only [Config.renderNamed, hget]
  let yields (run : Outcome Unit × State) : Outcome String := run.1.map fun _ => run.2.captured
  have hyields {run run' : Outcome Unit × State} (hout : run.1 = run'.1)
      (hend : run.2.captured = run'.2.captured) : yields run = yields run' := by
    show run.1.map _ = run'.1.map _
    rw [hout, hend]
  exact hyields (hnamed.trans hplain.symm) (hnamedEnd.captured.symm.trans hplainEnd.captured)

/-- Rendering by name fails as the loader does. -/
theorem renderNamed_of_failed (config : Config) (depth : Nat) {name : String}
    {error : RenderError} (h : config.loader name = .error error) (context : Context)
    (world : World) : (config.renderNamed depth name context world).1 = .failed error := by
  have hget : Render.getTemplate config name (.start (Session.start config (some name))
      (.root Table.empty) (.buffer "") world) = _ := getTemplate_of_failed rfl h
  simp only [Config.renderNamed, hget]

/-! ## The law -/

/-- What holds of the template cache. -/
structure CacheLaw (config : Config) : Prop where
  /-- A template is loaded once, however often it is asked for by the sessions that
  share a cache, and even if the loader would answer differently the next time. -/
  loadsOnce : ∀ {source : Source} {p : Pool}, p.Tree config source → p.LoadsOnce config source
  /-- A loader that answers the same each time is the case of the render itself. -/
  renderLoads : ∀ depth t context sink s world,
    (HostAction.render depth t context sink).result config (.caching fun _ => config.loader) s
      world = config.evaluateTemplate depth t context sink (some s) world
  runLoads : ∀ depth body scope sink s world,
    (HostAction.run depth body scope sink).result config (.caching fun _ => config.loader) s
      world = asWhole (Stmt.execAll config (invoke config depth) none body)
        (.start s scope sink world)
  /-- Then renders come to the same without the cache … -/
  renders : ∀ {s : Session}, s.Used config → ∀ depth t context sink world,
    Unaffected (config.evaluateTemplate depth t context sink (some s) world)
      ((Fetcher.uncached config).evaluateTemplate config depth t context sink s world)
  /-- … and so does code that a host runs. -/
  runs : ∀ {s : Session}, s.Used config → ∀ depth loop body scope sink world,
    Unaffected
      (Stmt.execAll config (invoke config depth) loop body (.start s scope sink world))
      ((Fetcher.uncached config).execAll config ((Fetcher.uncached config).invoke config depth)
        loop body (.start s scope sink world))
  /-- Rendering by name is rendering what the loader has under that name. -/
  named : ∀ {name t}, config.loader name = .ok t → t.name = name → ∀ depth context world,
    (config.renderNamed depth name context world).1 = (config.render depth t context world).1
  namedFailed : ∀ {name error}, config.loader name = .error error → ∀ depth context world,
    (config.renderNamed depth name context world).1 = .failed error

/-- Templates are loaded once, and nothing else tells that there is a cache. -/
theorem cacheLaw (config : Config) : CacheLaw config where
  loadsOnce h := h.loadsOnce
  renderLoads depth t context sink s world := by
    rw [HostAction.result, Fetcher.caching_loader, Fetcher.evaluateTemplate_cached]
  runLoads depth body scope sink s world := by
    rw [HostAction.result, Fetcher.caching_loader, Fetcher.invoke_cached, Fetcher.execAll_cached]
  renders {s} hs depth t context sink world := by
    let begun := State.begin config t context sink (some s) world
    have hbegun : begun.Uncaches config begun := .refl hs.faithful
    obtain ⟨hout, hleft⟩ := uncaches_runTemplate config hbegun depth t
    exact unaffected_of_uncaches ⟨hout, hleft.logged .ended⟩
  runs {s} hs depth loop body scope sink world :=
    unaffected_of_uncaches (likeUncached_execAll config depth loop body _ _ (.refl hs.faithful))
  named ht hname depth context world := renderNamed_of_loaded config depth ht hname context world
  namedFailed h depth context world := renderNamed_of_failed config depth h context world

end Templating
