import Templating.Proofs.LoadOnce

/-!
# Sessions that share a cache

A host opens a session, derives others from it and from those, and uses all of
them in any order: it fetches templates, renders them, or runs code of its own
(`HostAction`).  The pools this leads to are those of `Pool.Tree`.  Their members
work with one cache, so a template that was loaded for one of them is there for
all of them.

The source may answer a name differently each time it is asked.  It is asked
until it answers with a template, and that template is what everybody gets from
then on (`Pool.Tree.loadsOnce`).
-/
namespace Templating

/-- What a host does in a session. -/
inductive HostAction where
  | fetch (name : String)
  | select (names : List String)
  /-- Register the blocks of a template without running it. -/
  | register (t : Template)
  | run (depth : Nat) (body : Body) (scope : Scope) (sink : Sink)
  | render (depth : Nat) (t : Template) (context : Context) (sink : Sink)

/-- How it ends, and in which state. -/
def HostAction.result (config : Config) (fetch : Fetcher) (s : Session) (w : World) :
    HostAction → Outcome Unit × State
  | .fetch name => (do let _ ← fetch name) (.start s (.root Table.empty) (.buffer "") w)
  | .select names =>
    (do let _ ← fetch.selectTemplate names) (.start s (.root Table.empty) (.buffer "") w)
  | .register t => Render.registerBlocks t (.start s (.root Table.empty) (.buffer "") w)
  | .run depth body scope sink =>
    asWhole (fetch.execAll config (fetch.invoke config depth) none body) (.start s scope sink w)
  | .render depth t context sink => fetch.evaluateTemplate config depth t context sink s w

/-- A session that begins tidily can be used without anybody being able to tell
the cache from the record of loads, and is left tidy. -/
theorem HostAction.recalls (config : Config) {source : Source} {s : Session} {w : World}
    (hs : ∀ scope sink, (State.start s scope sink w).Tidy source) (a : HostAction) :
    a.result config (.caching source) s w = a.result config (.recalling source) s w ∧
      (a.result config (.caching source) s w).2.Tidy source := by
  have hfetch := likeRecalling_fetch source
  -- The policy is the same on both sides.
  have hrefuse (v : Value) := (likeRecalling source).indifferent
    (.refuseUndefined (config.under config.undefinedPolicy) v)
  have hinvoke := (likeRecalling source).invoke hfetch hrefuse
  cases a with
  | fetch name =>
    have hlike := (likeRecalling source).bind ((likeRecalling source).fetched hfetch name)
      fun _ => (likeRecalling source).pure ()
    exact hlike _ (hs _ _)
  | select names =>
    have hselect := (likeRecalling source).attempt_selectFrom hfetch names names
    have hlike := (likeRecalling source).bind ((likeRecalling source).bind hselect fun r =>
      (likeRecalling source).ofExcept r) fun _ => (likeRecalling source).pure ()
    rw [attempt_bind_ofExcept, attempt_bind_ofExcept] at hlike
    exact hlike _ (hs _ _)
  | register t => exact (likeRecalling source).registerBlocks t _ (hs _ _)
  | run depth body scope sink =>
    exact (likeRecalling source).asWhole
      ((likeRecalling source).execAll hfetch hrefuse (hinvoke depth) body none) _ (hs scope sink)
  | render depth t context sink =>
    have hbegun := ((hs (.root context) sink).logged (e := .began t.name) rfl).logged
      (e := .notice (.renderingTemplate s.autoescape)) rfl
    obtain ⟨heq, htidy⟩ := (likeRecalling source).runTemplate (hinvoke depth) t _ hbegun
    refine ⟨?_, htidy.logged rfl⟩
    exact congrArg (fun run => (run.1, run.2.logged .ended)) heq

/-! ## Pools that grow from one session -/

namespace Pool

/-- The pools that a host comes to with one top-level session. -/
inductive Tree (config : Config) (source : Source) : Pool → Prop
  | opened (template : Option String) (next : InstanceId) :
      Tree config source ((Pool.empty (World.begin next)).add (Session.start config template))
  | derived {p : Pool} (i : Nat) (name : String) (reach : Reach) :
      Tree config source p → Tree config source (p.derive config i name reach)
  | used {p : Pool} {i : Nat} {s : Session} (a : HostAction) :
      Tree config source p → p.session? i = some s →
      Tree config source (p.after i (a.result config (.caching source) s p.world).2)

/-- All members work with one cache, which is what the record of loads says. -/
structure Tidy (source : Source) (p : Pool) : Prop where
  members : ∀ (i : Nat) m, p.members[i]? = some m → m.cache = 0
  cache : ∃ cache, p.caches = #[cache] ∧
    ∀ name, cache.get? name = source.loaded? name p.world.history
  asks : source.AsksOnce p.world.history

namespace Tidy

variable {source : Source} {p : Pool} {i : Nat} {s : Session}

theorem start (h : p.Tidy source) (hs : p.session? i = some s) (scope : Scope) (sink : Sink) :
    (State.start s scope sink p.world).Tidy source := by
  obtain ⟨cache, hcaches, hcache⟩ := h.cache
  simp only [session?, Option.bind_eq_bind, Option.bind_eq_some_iff] at hs
  obtain ⟨m, hm, blocks, -, found, hfound, hsession⟩ := hs
  cases hsession
  rw [h.members i m hm, hcaches] at hfound
  cases hfound
  exact ⟨hcache, h.asks⟩

theorem after (h : p.Tidy source) (hs : p.session? i = some s) {ended : State}
    (hended : ended.Tidy source) : (p.after i ended).Tidy source := by
  obtain ⟨cache, hcaches, -⟩ := h.cache
  obtain ⟨m, hm, -⟩ := exists_of_session hs
  have hzero := h.members i m hm
  unfold Pool.after commit
  rw [hm]
  refine ⟨fun j other hother => ?_, ⟨ended.session.cache, ?_, hended.cache⟩, hended.asks⟩
  · dsimp only at hother
    rw [Array.getElem?_setIfInBounds] at hother
    split at hother
    · split at hother
      · cases hother
        exact hzero
      · cases hother
    · exact h.members j other hother
  · show p.caches.setIfInBounds m.cache ended.session.cache = #[ended.session.cache]
    rw [hzero, hcaches]
    rfl

/-- A member that is added works with the cache of another one. -/
theorem push (h : p.Tidy source) {origin : Member} (horigin : origin.cache = 0) {q : Pool}
    {added : Member} (hmembers : q.members = p.members.push added)
    (hadded : added.cache = origin.cache) (hcaches : q.caches = p.caches)
    (hworld : q.world = p.world) : q.Tidy source := by
  refine ⟨fun j m hm => ?_, ?_, ?_⟩
  · rw [hmembers, Array.getElem?_push] at hm
    split at hm
    · cases hm
      exact hadded.trans horigin
    · exact h.members j m hm
  · rw [hcaches, hworld]
    exact h.cache
  · rw [hworld]
    exact h.asks

theorem addDerived (h : p.Tidy source) {origin : Member} (horigin : origin.cache = 0)
    (derived : Session) (reach : Reach) : (p.addDerived origin derived reach).Tidy source := by
  unfold Pool.addDerived
  split <;> exact h.push horigin rfl rfl rfl rfl

theorem derive (h : p.Tidy source) (config : Config) (i : Nat) (name : String) (reach : Reach) :
    (p.derive config i name reach).Tidy source := by
  cases hs : p.session? i with
  | none =>
    have hsame : p.derive config i name reach = p := by
      unfold Pool.derive within
      rw [hs]
      cases p.members[i]? <;> rfl
    rw [hsame]
    exact h
  | some s =>
    obtain ⟨m, hm, -⟩ := exists_of_session hs
    let begun := State.start s (.root Table.empty) (.buffer "") p.world
    let ended := begun.logged (.notice (.derivingSession s.template name reach))
    have hsplit : p.derive config i name reach =
        (p.after i ended).addDerived m (s.derive config name reach) reach := by
      unfold Pool.derive within
      rw [hs, hm]
      rfl
    rw [hsplit]
    exact (h.after hs ((h.start hs _ _).logged rfl)).addDerived (h.members i m hm) _ reach

end Tidy

variable {config : Config} {source : Source} {p : Pool}

/-- The step lemma and the induction: whatever a host does, its pool is tidy. -/
theorem Tree.tidy (h : p.Tree config source) : p.Tidy source := by
  induction h with
  | opened template next =>
    refine ⟨fun i m hm => ?_, ⟨Table.empty, rfl, fun name => rfl⟩, trivial⟩
    have hmembers : ((Pool.empty (World.begin next)).add
        (Session.start config template)).members = #[⟨template,
          config.autoescape.initial template, Table.empty, 0, 0⟩] := rfl
    rw [hmembers, Array.getElem?_singleton] at hm
    split at hm
    · cases hm
      rfl
    · cases hm
  | derived i name reach _ ih => exact ih.derive config i name reach
  | used a _ hs ih =>
    exact ih.after hs (a.recalls config fun scope sink => ih.start hs scope sink).2

/-- What holds of the loads of a pool at any time. -/
structure LoadsOnce (config : Config) (source : Source) (p : Pool) : Prop where
  /-- After a request that succeeded the loader is not asked for the name again. -/
  once : ∀ {later name past t}, p.world.history = later ++ .load name :: past →
    source past name = .ok t → .load name ∉ later
  /-- From then on every member gets the template that was loaded. -/
  returns : ∀ {later name past t}, p.world.history = later ++ .load name :: past →
    source past name = .ok t → ∀ {i s}, p.session? i = some s → ∀ scope sink,
      Fetcher.caching source name (.start s scope sink p.world) =
        (.done t, (State.start s scope sink p.world).logged (.notice (.templateCacheHit name)))
  /-- Until then each request asks the loader, and if that fails, the session is
  left as it was. -/
  asks : ∀ {name}, (∀ later past t, p.world.history = later ++ .load name :: past →
      source past name ≠ .ok t) → ∀ {i s}, p.session? i = some s → ∀ scope sink,
    let begun := State.start s scope sink p.world
    Fetcher.caching source name begun =
      match source (.notice (.loadingTemplate name) :: p.world.history) name with
      | .ok t => (.done t, (begun.loading name).remember name t)
      | .error error => (.failed error, begun.loading name)
  /-- So it is for the requests of running code: they get what was loaded. -/
  recalls : ∀ {i s}, p.session? i = some s → ∀ a : HostAction,
    a.result config (.caching source) s p.world = a.result config (.recalling source) s p.world

/-- Whatever a host does with a session and those derived from it, each template is
loaded once. -/
theorem Tree.loadsOnce (h : p.Tree config source) : p.LoadsOnce config source where
  once hsplit ht := (hsplit ▸ h.tidy.asks).not_mem ht
  returns hsplit ht i s hs scope sink := by
    refine Fetcher.caching_of_cached ?_
    rw [(h.tidy.start hs scope sink).cache]
    exact Source.loaded?_of_loaded hsplit h.tidy.asks ht
  asks {name} hnone i s hs scope sink := by
    refine Fetcher.caching_of_uncached ?_
    rw [(h.tidy.start hs scope sink).cache]
    cases hloaded : source.loaded? name p.world.history with
    | none => exact hloaded
    | some t =>
      obtain ⟨later, past, hsplit, ht⟩ := Source.exists_of_loaded? hloaded
      exact absurd ht (hnone later past t hsplit)
  recalls hs a := (a.recalls config fun scope sink => h.tidy.start hs scope sink).1

end Pool
end Templating
