import Templating.Proofs.Isolation
import Templating.Proofs.Propagation
import Templating.Proofs.Renumbering

/-!
# Lookups that fail change nothing

Template code asks the runtime for things by their names: definitions of blocks,
other templates, filters and tests (`Request`).  Such a request can fail in two ways.

* What it names cannot be resolved, or the loader fails on it
  (`Request.Unresolved`).  This is a matter of the registry, the block that is being
  run, the cache, the loader and the names of filters and tests; no code has a part in
  it.
* It was resolved, and the code it started fails (`Request.CodeFails`).

There is no third way, and never both (`LookupLaw`).  In the first case the state is
the one before the request but for the log, which shows what the loader was asked for
(`State.OnlyAsked`).  That no code has run cannot be read off a state, so it is stated
as what follows from it: the outcome is the same whatever bodies, filters and tests
do.
-/
namespace Templating

/-- What template code asks the runtime for by name, and what it is given. -/
inductive Request : Type → Type where
  | block (name : String) (levelsUp : Nat) : Request Unit
  | blockLevel (name : String) (level : Int) : Request Unit
  | superBlock : Request Unit
  | extendTemplate (name : String) : Request Unit
  | includeTemplate (name : String) (ignoreMissing : Bool) : Request Unit
  | includeFirstOf (names : List String) (ignoreMissing : Bool) : Request Unit
  | importTemplate (name : String) : Request Value
  | fromImport (name : String) (items : List (String × String)) : Request Unit
  | callFilter (name : String) (v : Value) (arguments : List Value) : Request Value
  | callTest (name : String) (v : Value) (arguments : List Value) : Request Bool

namespace Request

/-- The operation that answers a request. -/
def perform {α : Type} (config : Config) (run : Invoke) : Request α → Render α
  | block name levelsUp => Render.evaluateBlock run name levelsUp
  | blockLevel name level => Render.evaluateBlockLevel run name level
  | superBlock => Render.superBlock run
  | extendTemplate name => Render.extendTemplate config run name
  | includeTemplate name ignoreMissing => Render.includeTemplate config run name ignoreMissing
  | includeFirstOf names ignoreMissing => Render.includeFirstOf config run names ignoreMissing
  | importTemplate name => Render.importTemplate config run name
  | fromImport name items => Render.fromImport config run name items
  | callFilter name v arguments => Action.ofExcept (config.callFilter name v arguments)
  | callTest name v arguments => Action.ofExcept (config.callTest name v arguments)

/-- The definition of a block that is asked for. -/
def asksFor {α : Type} (s : State) : Request α → Option ActiveBlock
  | block name levelsUp => some ⟨name, levelsUp⟩
  | blockLevel name level => (levelsUpOfLevel level).map fun levelsUp => ⟨name, levelsUp⟩
  | superBlock => s.block.map fun active => ⟨active.name, active.levelsUp + 1⟩
  | _ => none

/-- The one template that is asked for, how it is reached, and whether a missing one
is passed over. -/
def fetches? {α : Type} (config : Config) (s : State) :
    Request α → Option (String × Reach × Bool)
  | extendTemplate name => some (config.joinPath name s.session.template, .extending, false)
  | includeTemplate name ignoreMissing =>
    some (config.joinPath name s.session.template, .including, ignoreMissing)
  | importTemplate name => some (config.joinPath name s.session.template, .importing, false)
  | fromImport name _ => some (config.joinPath name s.session.template, .importing, false)
  | _ => none

end Request

/-- A template is not in the cache, and the loader answers with an error. -/
def Config.Unloadable (config : Config) (s : State) (name : String) (error : RenderError) : Prop :=
  s.session.cache.get? name = none ∧ config.loader name = .error error

/-- There is no such template, in the cache or elsewhere. -/
def Config.Missing (config : Config) (s : State) (name : String) : Prop :=
  ∃ missing, config.Unloadable s name (.lookup (.templateNotFound missing))

namespace Request

variable {α : Type}

/-- What a request names cannot be resolved: the error, and the names that the loader
was asked for in order. -/
inductive Unresolved (config : Config) (s : State) :
    {α : Type} → Request α → RenderError → List String → Prop
  /-- There is no such block, or it has not as many definitions. -/
  | definition {α active cause} {request : Request α} :
      request.asksFor s = some active →
      s.session.blocks.resolve active.name active.levelsUp = .error cause →
      Unresolved config s request (.lookup cause) []
  | level {name level} :
      0 ≤ level → Unresolved config s (.blockLevel name level)
        (.lookup (.invalidBlockLevel name level)) []
  | outside :
      s.block = none → Unresolved config s .superBlock (.lookup .notInBlock) []
  /-- The template cannot be loaded, and it is not one that may be missing and is. -/
  | template {α name reach ignoreMissing error} {request : Request α} :
      request.fetches? config s = some (name, reach, ignoreMissing) →
      config.Unloadable s name error →
      (ignoreMissing && error.isTemplateNotFound) = false →
      Unresolved config s request error [name]
  /-- All candidates are missing, and they may not be. -/
  | candidates {references candidates} :
      (references.map fun reference => config.joinPath reference s.session.template) =
        candidates →
      (∀ candidate ∈ candidates, config.Missing s candidate) →
      Unresolved config s (.includeFirstOf references false)
        (.lookup (.noTemplateSelected candidates)) candidates
  /-- The first candidate that is not missing cannot be loaded. -/
  | candidate {references ignoreMissing before name after error} :
      (references.map fun reference => config.joinPath reference s.session.template) =
        before ++ name :: after →
      (∀ other ∈ before, config.Missing s other) →
      config.Unloadable s name error → error.isTemplateNotFound = false →
      (ignoreMissing = true → ∀ names, error ≠ .lookup (.noTemplateSelected names)) →
      Unresolved config s (.includeFirstOf references ignoreMissing) error (before ++ [name])
  | filter {name v arguments} :
      name ∉ config.filters.keys →
      Unresolved config s (.callFilter name v arguments)
        (.lookup (.unknownFilter name config.filters.names)) []
  | test {name v arguments} :
      name ∉ config.tests.keys →
      Unresolved config s (.callTest name v arguments)
        (.lookup (.unknownTest name config.tests.names)) []

/-- What a request names was resolved, and the code that was started fails. -/
inductive CodeFails (config : Config) (run : Invoke) (s : State) :
    {α : Type} → Request α → RenderError → Prop
  | definition {α active body error} {request : Request α} :
      request.asksFor s = some active →
      s.session.blocks.resolve active.name active.levelsUp = .ok body →
      (run body).Fails error (State.enterBlock active (s.logged (.notice
        (.resolvedBlock active.name active.levelsUp (s.session.blocks.depth active.name))))) →
      CodeFails config run s request error
  | template {α name reach ignoreMissing t u error} {request : Request α} :
      request.fetches? config s = some (name, reach, ignoreMissing) →
      Render.getTemplate config name s = (.done t, u) →
      (Render.runTemplate run t).Fails error (u.beginFetched config name reach) →
      CodeFails config run s request error
  | candidate {references ignoreMissing before name after t u v error} :
      (references.map fun reference => config.joinPath reference s.session.template) =
        before ++ name :: after →
      Render.PassesOver config before s u →
      Render.getTemplate config name u = (.done t, v) →
      (Render.runTemplate run t).Fails error (v.beginFetched config name .including) →
      CodeFails config run s (.includeFirstOf references ignoreMissing) error
  | filter {name filter v arguments error} :
      config.filters.get? name = some filter → filter v arguments = .error error →
      CodeFails config run s (.callFilter name v arguments) error
  | test {name test v arguments error} :
      config.tests.get? name = some test → test v arguments = .error error →
      CodeFails config run s (.callTest name v arguments) error

end Request

/-- Nothing has happened but that the loader was asked for these names. -/
structure State.OnlyAsked (names : List String) (s t : State) : Prop where
  /-- The registry, the exports, the escaping and the cache among it. -/
  session : t.session = s.session
  scope : t.scope = s.scope
  frames : t.frames = s.frames
  block : t.block = s.block
  sink : t.sink = s.sink
  nextInstance : t.world.nextInstance = s.world.nextInstance
  log : t.world.log.toList = s.world.log.toList ++
    names.flatMap fun name => [.notice (.loadingTemplate name), .load name]

/-- Both configurations have the same loader and the same rule for references, and
filters and tests under the same names, whatever these do. -/
structure Config.FindsLike (config other : Config) : Prop where
  loader : other.loader = config.loader
  joiner : other.joiner = config.joiner
  filters : other.filters.keys = config.filters.keys
  tests : other.tests.keys = config.tests.keys

/-- How requests fail, in any state. -/
structure LookupLaw (config : Config) : Prop where
  /-- What cannot be resolved fails, leaves everything as it was, and does so whatever
  the code, the filters and the tests are that might have been run. -/
  unresolved : ∀ {α} {request : Request α} {s error names},
    request.Unresolved config s error names → ∃ t, s.OnlyAsked names t ∧
      ∀ other run, config.FindsLike other → request.perform other run s = (.failed error, t)
  /-- No chunk is written meanwhile. -/
  silent : ∀ {names} {s t : State}, s.OnlyAsked names t → s.Wrote [] t
  /-- Otherwise a request fails with the error of the code it has started. -/
  fails_iff : ∀ {α} {request : Request α} {run s error},
    (request.perform config run).Fails error s ↔
      (∃ names, request.Unresolved config s error names) ∨ request.CodeFails config run s error
  /-- It is one or the other. -/
  apart : ∀ {α} {request : Request α} {run s error other names},
    request.Unresolved config s error names → ¬ request.CodeFails config run s other
  /-- So the requests that cannot be resolved are those that fail whatever code does. -/
  unresolved_iff : ∀ {α} {request : Request α} {s error},
    (∃ names, request.Unresolved config s error names) ↔
      ∀ other run, config.FindsLike other → (request.perform other run).Fails error s

theorem Outcome.map_eq_failed_iff {α β : Type} {f : α → β} {outcome : Outcome α}
    {error : RenderError} : outcome.map f = .failed error ↔ outcome = .failed error := by
  cases outcome <;> simp [Outcome.map]

theorem fails_ofExcept_iff {α : Type} {e : Except RenderError α} {error : RenderError} {s : State} :
    (Action.ofExcept e : Render α).Fails error s ↔ e = .error error := by
  cases e <;> simp [Action.Fails, Action.ofExcept, Action.pure, Action.fail]

/-- Registering definitions does not fail. -/
theorem not_fails_registerAll {error : RenderError} : ∀ (blocks : List (String × Body)) (s : State),
    ¬ (Render.registerAll blocks).Fails error s
  | [], _ => nofun
  | (name, body) :: rest, s => not_fails_registerAll rest (Render.registerBlock name body s).2

/-- Filters and tests that always succeed, under the names that there are. -/
def Config.idle (config : Config) : Config :=
  { config with
    filters := config.filters.map fun _ v _ => .ok v
    tests := config.tests.map fun _ _ _ => .ok true }

theorem Config.findsLike_idle (config : Config) : config.FindsLike config.idle :=
  ⟨rfl, rfl, Table.keys_map .., Table.keys_map ..⟩

/-- A template whose code does nothing does not fail. -/
theorem not_fails_runTemplate_idle {t : Template} {error : RenderError} {s : State} :
    ¬ (Render.runTemplate (fun _ => pure ()) t).Fails error s := by
  intro h
  rcases h.of_bind with hsetup | ⟨_, _, -, hroot⟩
  · rw [Render.runSetup] at hsetup
    cases hown : t.setup with
    | some setup =>
      rw [hown] at hsetup
      cases hsetup
    | none =>
      rw [hown] at hsetup
      exact not_fails_registerAll _ s hsetup
  · cases hroot

/-! ## The loader is asked -/

theorem onlyAsked_loading : ∀ (names : List String) (s : State),
    s.OnlyAsked names (names.foldl State.loading s)
  | [], s => ⟨rfl, rfl, rfl, rfl, rfl, rfl, (List.append_nil _).symm⟩
  | name :: rest, s => by
    have hrest := onlyAsked_loading rest (s.loading name)
    refine ⟨hrest.session, hrest.scope, hrest.frames, hrest.block, hrest.sink,
      hrest.nextInstance, hrest.log.trans ?_⟩
    have hfirst : (s.loading name).world.log.toList =
        s.world.log.toList ++ [.notice (.loadingTemplate name), .load name] := by
      simp only [State.loading, State.logged, Array.toList_push, List.append_assoc,
        List.singleton_append]
    rw [hfirst, List.flatMap_cons, List.append_assoc]

theorem State.OnlyAsked.wrote {names : List String} {s t : State} (h : s.OnlyAsked names t) :
    s.Wrote [] t := by
  refine .nothing h.sink ?_
  have hnames : (names.flatMap fun name =>
      [Event.notice (.loadingTemplate name), .load name]).filterMap Event.chunk? = [] := by
    clear h
    induction names with
    | nil => rfl
    | cons name rest ih => exact ih
  rw [World.chunks, h.log, List.filterMap_append, hnames, List.append_nil]
  rfl

section
variable {config : Config} {s t u : State} {name : String} {error : RenderError}

/-- A fetch fails exactly if the template cannot be loaded. -/
theorem Config.unloadable_iff :
    config.Unloadable s name error ↔
      Render.getTemplate config name s = (.failed error, s.loading name) := by
  constructor
  · rintro ⟨hcache, hloader⟩
    exact getTemplate_of_failed hcache hloader
  · intro h
    refine ⟨?_, (loader_of_failed h).1⟩
    cases hcache : s.session.cache.get? name with
    | none => rfl
    | some t =>
      rw [getTemplate_of_cached config hcache] at h
      cases h

theorem Config.unloadable_of_failed (h : Render.getTemplate config name s = (.failed error, t)) :
    config.Unloadable s name error := by
  obtain ⟨-, rfl⟩ := loader_of_failed h
  exact Config.unloadable_iff.mpr h

/-- Candidates that are missing are passed over. -/
theorem passesOver_of_missing : ∀ {names : List String} {s : State},
    (∀ name ∈ names, config.Missing s name) →
      Render.PassesOver config names s (names.foldl State.loading s)
  | [], _, _ => .nil
  | name :: rest, s, h => by
    obtain ⟨missing, hunloadable⟩ := h name (List.mem_cons_self ..)
    refine .cons ⟨missing, Config.unloadable_iff.mp hunloadable⟩ (passesOver_of_missing ?_)
    -- Asking the loader in vain leaves the cache as it was.
    exact fun other hother => h other (List.mem_cons_of_mem _ hother)

theorem Render.PassesOver.missing {names : List String} (h : Render.PassesOver config names s t) :
    ∀ name ∈ names, config.Missing s name := by
  induction h with
  | nil => exact fun _ hname => absurd hname List.not_mem_nil
  | @cons name rest s t u hmisses _ ih =>
    obtain ⟨missing, hfailed⟩ := hmisses
    have hfirst : config.Missing s name := ⟨missing, Config.unloadable_of_failed hfailed⟩
    obtain ⟨-, rfl⟩ := loader_of_failed hfailed
    intro other hother
    rcases List.mem_cons.mp hother with rfl | hrest
    · exact hfirst
    · exact ih other hrest

end

/-! ## Requests -/

namespace Request

section
variable {α : Type} {config : Config} {run : Invoke} {s : State} {request : Request α}
variable {error : RenderError}

/-- Asking for a definition is asking for it under its name and level. -/
theorem evaluateBlock_of_asksFor {active : ActiveBlock} (h : request.asksFor s = some active) :
    (∀ error, (request.perform config run).Fails error s ↔
      (Render.evaluateBlock run active.name active.levelsUp).Fails error s) ∧
    (request.perform config run s).2 =
      (Render.evaluateBlock run active.name active.levelsUp s).2 := by
  cases request with
  | block name levelsUp =>
    cases h
    exact ⟨fun _ => Iff.rfl, rfl⟩
  | blockLevel name level =>
    obtain ⟨levelsUp, hlevel, rfl⟩ := Option.map_eq_some_iff.mp h
    rw [perform, Render.evaluateBlockLevel, hlevel]
    exact ⟨fun _ => Iff.rfl, rfl⟩
  | superBlock =>
    obtain ⟨running, hrunning, rfl⟩ := Option.map_eq_some_iff.mp h
    have hsuper := superBlock_of_block hrunning run
    refine ⟨fun error => ?_, congrArg Prod.snd hsuper⟩
    rw [perform, Action.Fails, hsuper]
    rfl
  | _ => cases h

theorem perform_of_unresolved {active : ActiveBlock} {cause : LookupError}
    (h : request.asksFor s = some active)
    (hcause : s.session.blocks.resolve active.name active.levelsUp = .error cause) :
    request.perform config run s = (.failed (.lookup cause), s) := by
  have herror := evaluateBlock_of_error hcause run
  obtain ⟨hfails, hstate⟩ := evaluateBlock_of_asksFor h
  exact Prod.ext ((hfails _).mpr (.of_run herror)) (hstate.trans (congrArg Prod.snd herror))

/-- A definition that was found is run. -/
theorem fails_iff_of_resolved {active : ActiveBlock} {body : Body}
    (h : request.asksFor s = some active)
    (hbody : s.session.blocks.resolve active.name active.levelsUp = .ok body) :
    (request.perform config run).Fails error s ↔
      (run body).Fails error (State.enterBlock active (s.logged (.notice
        (.resolvedBlock active.name active.levelsUp (s.session.blocks.depth active.name))))) := by
  rw [(evaluateBlock_of_asksFor h).1, Action.Fails, evaluateBlock_of_ok hbody]
  rfl

variable {name : String} {reach : Reach} {ignoreMissing : Bool}

/-- A template that cannot be loaded fails the request, unless it is passed over. -/
theorem perform_of_unloadable (h : request.fetches? config s = some (name, reach, ignoreMissing))
    (hload : config.Unloadable s name error)
    (hkept : (ignoreMissing && error.isTemplateNotFound) = false) :
    request.perform config run s = (.failed error, s.loading name) := by
  have hget := Config.unloadable_iff.mp hload
  have himport {reference : String}
      (hname : config.joinPath reference s.session.template = name) :
      Render.importTemplate config run reference s = (.failed error, s.loading name) := by
    rw [Render.importTemplate, Action.bind_of_done (Render.resolveName_of_joinPath hname),
      Action.bind_of_failed hget]
  cases request with
  | extendTemplate reference =>
    cases h
    rw [perform, Render.extendTemplate, Action.bind_of_done (Render.resolveName_of_joinPath rfl),
      Action.bind_of_failed hget]
  | includeTemplate reference ignoreMissing =>
    cases h
    rw [perform, includeTemplate_of_failed run ignoreMissing rfl hget, hkept]
    rfl
  | importTemplate reference =>
    cases h
    exact himport rfl
  | fromImport reference items =>
    cases h
    rw [perform, Render.fromImport, Action.bind_of_failed (himport rfl)]
  | _ => cases h

/-- A template that may be missing, and is, fails no request. -/
theorem not_fails_of_skipped (h : request.fetches? config s = some (name, reach, ignoreMissing))
    {missing other : RenderError} (hload : config.Unloadable s name missing)
    (hskipped : (ignoreMissing && missing.isTemplateNotFound) = true) :
    ¬ (request.perform config run).Fails other s := by
  have hget := Config.unloadable_iff.mp hload
  cases request with
  | includeTemplate reference ignoreMissing =>
    cases h
    rw [perform, Action.Fails, includeTemplate_of_failed run ignoreMissing rfl hget, hskipped]
    intro hfails
    cases hfails
  | extendTemplate _ | importTemplate _ | fromImport _ _ =>
    cases h
    cases hskipped
  | _ => cases h

/-- A template that was fetched is run. -/
theorem fails_iff_of_fetched {t : Template} {u : State}
    (h : request.fetches? config s = some (name, reach, ignoreMissing))
    (hget : Render.getTemplate config name s = (.done t, u)) :
    (request.perform config run).Fails error s ↔
      (Render.runTemplate run t).Fails error (u.beginFetched config name reach) := by
  have himport {reference : String}
      (hname : config.joinPath reference s.session.template = name) :
      (Render.importTemplate config run reference).Fails error s ↔
        (Render.runTemplate run t).Fails error (u.beginFetched config name .importing) := by
    rw [Action.Fails, Action.Fails, importTemplate_of_done hname hget]
    exact Outcome.map_eq_failed_iff
  cases request with
  | extendTemplate reference =>
    cases h
    rw [perform, Action.Fails, extendTemplate_of_done rfl hget]
    rfl
  | includeTemplate reference ignoreMissing =>
    cases h
    rw [perform, Action.Fails, includeTemplate_of_done rfl hget]
    rfl
  | importTemplate reference =>
    cases h
    exact himport rfl
  | fromImport reference items =>
    cases h
    rw [← himport rfl]
    constructor
    · intro hfails
      rcases hfails.of_bind with himported | ⟨v, w, -, hassign⟩
      · exact himported
      · -- Binding names does not fail.
        rw [Action.Fails, (assignAll_session _ w).1] at hassign
        cases hassign
    · exact Action.Fails.bind
  | _ => cases h

end

section
variable {config : Config} {run : Invoke} {s t u : State} {error : RenderError}
variable {references before after : List String} {name : String} {ignoreMissing : Bool}
variable (hsplit : (references.map fun reference =>
  config.joinPath reference s.session.template) = before ++ name :: after)
variable (hbefore : ∀ other ∈ before, config.Missing s other)
include hsplit hbefore

/-- A candidate that is not missing and cannot be loaded fails the search. -/
theorem includeFirstOf_of_unloadable (hload : config.Unloadable s name error)
    (herror : error.isTemplateNotFound = false)
    (hother : ignoreMissing = true → ∀ names, error ≠ .lookup (.noTemplateSelected names)) :
    Render.includeFirstOf config run references ignoreMissing s =
      (.failed error, (before ++ [name]).foldl State.loading s) := by
  have hpasses := passesOver_of_missing hbefore
  have hget : Render.getTemplate config name (before.foldl State.loading s) =
      (.failed error, (before ++ [name]).foldl State.loading s) := by
    rw [List.foldl_append]
    have hsession := (onlyAsked_loading before s).session
    refine Config.unloadable_iff.mp ⟨?_, hload.2⟩
    rw [hsession]
    exact hload.1
  exact includeFirstOf_of_stopped hsplit.symm run ignoreMissing rfl hpasses hget herror hother

end

section
variable {α : Type} {config other : Config} {run : Invoke} {s : State} {request : Request α}
variable {error : RenderError} {names : List String}

/-- What cannot be resolved fails, and nothing has happened but that the loader was
asked. -/
theorem Unresolved.perform (h : request.Unresolved config s error names) :
    request.perform config run s = (.failed error, names.foldl State.loading s) := by
  cases h with
  | definition hask hcause => exact perform_of_unresolved hask hcause
  | level hlevel =>
    have hnone : levelsUpOfLevel _ = none := if_neg (Int.not_lt.mpr hlevel)
    rw [Request.perform, Render.evaluateBlockLevel, hnone]
    rfl
  | outside hblock => exact superBlock_of_none hblock run
  | template hfetch hload hkept => exact perform_of_unloadable hfetch hload hkept
  | candidates hcandidates hmissing =>
    exact includeFirstOf_of_missing hcandidates.symm run false (passesOver_of_missing hmissing)
  | candidate hsplit hbefore hload herror hother =>
    exact includeFirstOf_of_unloadable hsplit hbefore hload herror hother
  | filter hname =>
    rw [Request.perform, Config.callFilter, Table.get?_eq_none_iff.mpr hname]
    rfl
  | test hname =>
    rw [Request.perform, Config.callTest, Table.get?_eq_none_iff.mpr hname]
    rfl

/-- What filters and tests do has no part in it. -/
theorem Unresolved.congr (h : request.Unresolved config s error names)
    (hlike : config.FindsLike other) : request.Unresolved other s error names := by
  have hjoin : other.joinPath = config.joinPath := by
    funext name origin
    rw [Config.joinPath, Config.joinPath, hlike.joiner]
  have hnames {β : Type} {a b : Table β} (hkeys : b.keys = a.keys) : b.names = a.names := by
    rw [Table.names, Table.names, hkeys]
  have hunloadable {name : String} {error : RenderError} (hload : config.Unloadable s name error) :
      other.Unloadable s name error := ⟨hload.1, hlike.loader ▸ hload.2⟩
  have hmissing {candidates : List String}
      (hmissing : ∀ candidate ∈ candidates, config.Missing s candidate) :
      ∀ candidate ∈ candidates, other.Missing s candidate := by
    intro candidate hcandidate
    obtain ⟨missing, hload⟩ := hmissing candidate hcandidate
    exact ⟨missing, hunloadable hload⟩
  cases h with
  | definition hask hcause => exact .definition hask hcause
  | level hlevel => exact .level hlevel
  | outside hblock => exact .outside hblock
  | template hfetch hload hkept =>
    have hfetch' : request.fetches? other s = request.fetches? config s := by
      cases request <;> simp only [fetches?, hjoin]
    exact .template (hfetch'.trans hfetch) (hunloadable hload) hkept
  | candidates hcandidates hmissed =>
    exact .candidates (hjoin ▸ hcandidates) (hmissing hmissed)
  | candidate hsplit hbefore hload herror hother =>
    exact .candidate (hjoin ▸ hsplit) (hmissing hbefore) (hunloadable hload) herror hother
  | filter hname =>
    rw [← hnames hlike.filters]
    exact .filter (hlike.filters ▸ hname)
  | test hname =>
    rw [← hnames hlike.tests]
    exact .test (hlike.tests ▸ hname)

/-- Code that was started and fails, fails the request. -/
theorem CodeFails.fails (h : request.CodeFails config run s error) :
    (request.perform config run).Fails error s := by
  cases h with
  | definition hask hbody hrun => exact (fails_iff_of_resolved hask hbody).mpr hrun
  | template hfetch hget hrun => exact (fails_iff_of_fetched hfetch hget).mpr hrun
  | @candidate _ ignoreMissing _ _ _ _ _ _ _ hsplit hbefore hget hrun =>
    rw [perform, Action.Fails, includeFirstOf_of_fetched hsplit.symm run ignoreMissing rfl hbefore
      hget]
    exact fails_asTemplate hrun
  | filter hfilter herror =>
    refine fails_ofExcept_iff.mpr ?_
    simp only [Config.callFilter, hfilter, herror]
  | test htest herror =>
    refine fails_ofExcept_iff.mpr ?_
    simp only [Config.callTest, htest, herror]

/-- A request for a definition finds none or runs the one it finds. -/
theorem cases_of_asksFor {active : ActiveBlock} (hask : request.asksFor s = some active)
    (h : (request.perform config run).Fails error s) :
    (∃ names, request.Unresolved config s error names) ∨ request.CodeFails config run s error := by
  cases hbody : s.session.blocks.resolve active.name active.levelsUp with
  | ok body => exact .inr (.definition hask hbody ((fails_iff_of_resolved hask hbody).mp h))
  | error cause =>
    rw [Action.Fails, perform_of_unresolved hask hbody] at h
    cases h
    exact .inl ⟨[], .definition hask hbody⟩

/-- A request for a template cannot load it or runs it. -/
theorem cases_of_fetches {name : String} {reach : Reach} {ignoreMissing : Bool}
    (hfetch : request.fetches? config s = some (name, reach, ignoreMissing))
    (h : (request.perform config run).Fails error s) :
    (∃ names, request.Unresolved config s error names) ∨ request.CodeFails config run s error := by
  rcases getTemplate_cases config name s with ⟨t, u, hget⟩ | ⟨cause, hget, -⟩
  · exact .inr (.template hfetch hget ((fails_iff_of_fetched hfetch hget).mp h))
  · have hload := Config.unloadable_of_failed hget
    cases hkept : ignoreMissing && cause.isTemplateNotFound with
    | true => exact absurd h (not_fails_of_skipped hfetch hload hkept)
    | false =>
      rw [Action.Fails, perform_of_unloadable hfetch hload hkept] at h
      cases h
      exact .inl ⟨[name], .template hfetch hload hkept⟩

theorem cases_of_filter {name : String} {v : Value} {arguments : List Value}
    (h : (perform config run (callFilter name v arguments)).Fails error s) :
    (∃ names, (callFilter name v arguments).Unresolved config s error names) ∨
      (callFilter name v arguments).CodeFails config run s error := by
  have herror := fails_ofExcept_iff.mp h
  rw [Config.callFilter] at herror
  cases hfilter : config.filters.get? name with
  | some filter =>
    rw [hfilter] at herror
    exact .inr (.filter hfilter herror)
  | none =>
    rw [hfilter] at herror
    cases herror
    exact .inl ⟨[], .filter (Table.get?_eq_none_iff.mp hfilter)⟩

theorem cases_of_test {name : String} {v : Value} {arguments : List Value}
    (h : (perform config run (callTest name v arguments)).Fails error s) :
    (∃ names, (callTest name v arguments).Unresolved config s error names) ∨
      (callTest name v arguments).CodeFails config run s error := by
  have herror := fails_ofExcept_iff.mp h
  rw [Config.callTest] at herror
  cases htest : config.tests.get? name with
  | some test =>
    rw [htest] at herror
    exact .inr (.test htest herror)
  | none =>
    rw [htest] at herror
    cases herror
    exact .inl ⟨[], .test (Table.get?_eq_none_iff.mp htest)⟩

/-- A search ends at the first candidate that is not missing, or finds none. -/
theorem cases_of_candidates {references : List String} {ignoreMissing : Bool}
    (h : (perform config run (includeFirstOf references ignoreMissing)).Fails error s) :
    (∃ names, (includeFirstOf references ignoreMissing).Unresolved config s error names) ∨
      (includeFirstOf references ignoreMissing).CodeFails config run s error := by
  rcases passesOver_or_settled config
    (references.map fun reference => config.joinPath reference s.session.template) s with
    ⟨t, hpasses⟩ | ⟨before, name, after, t, hsplit, hbefore, hsettled⟩
  · -- All candidates are missing.
    have hrun := includeFirstOf_of_missing rfl run ignoreMissing hpasses
    rw [perform, Action.Fails, hrun] at h
    cases ignoreMissing with
    | true => cases h
    | false =>
      cases h
      exact .inl ⟨_, .candidates rfl hpasses.missing⟩
  · rcases getTemplate_cases config name t with ⟨found, u, hget⟩ | ⟨cause, hget, hloader⟩
    · rw [perform, Action.Fails, includeFirstOf_of_fetched hsplit.symm run ignoreMissing rfl
        hbefore hget] at h
      exact .inr (.candidate hsplit hbefore hget h)
    · have hcause : cause.isTemplateNotFound = false := by
        cases hcause : cause.isTemplateNotFound with
        | true => exact absurd (misses_of_failed hget hcause) (hsettled _)
        | false => rfl
      have hload : config.Unloadable s name cause := by
        have hcache := (Config.unloadable_of_failed hget).1
        rw [hbefore.state, (onlyAsked_loading before s).session] at hcache
        exact ⟨hcache, hloader⟩
      by_cases hmisreported : ignoreMissing = true ∧
          ∃ names, cause = .lookup (.noTemplateSelected names)
      · -- Such an error is taken for a search that found none, and passed over.
        obtain ⟨rfl, names, rfl⟩ := hmisreported
        rw [perform, Action.Fails, includeFirstOf_of_misreported hsplit.symm run rfl hbefore
          hget] at h
        cases h
      · have hother (hflag : ignoreMissing = true) (names : List String) :
            cause ≠ .lookup (.noTemplateSelected names) :=
          fun heq => hmisreported ⟨hflag, names, heq⟩
        rw [perform, Action.Fails, includeFirstOf_of_unloadable hsplit hbefore.missing hload hcause
          hother] at h
        cases h
        exact .inl ⟨_, .candidate hsplit hbefore.missing hload hcause hother⟩

/-- The two ways in which a request fails. -/
theorem fails_cases : ∀ {α : Type} {request : Request α},
    (request.perform config run).Fails error s →
      (∃ names, request.Unresolved config s error names) ∨ request.CodeFails config run s error
  | _, .block _ _, h => cases_of_asksFor rfl h
  | _, .blockLevel name level, h => by
    cases hlevel : levelsUpOfLevel level with
    | some levelsUp =>
      have hask : (blockLevel name level).asksFor s = some ⟨name, levelsUp⟩ := by
        rw [asksFor, hlevel]
        rfl
      exact cases_of_asksFor hask h
    | none =>
      rw [perform, Action.Fails, Render.evaluateBlockLevel, hlevel] at h
      cases h
      refine .inl ⟨[], .level (Int.not_lt.mp fun hneg => ?_)⟩
      rw [levelsUpOfLevel, if_pos hneg] at hlevel
      cases hlevel
  | _, .superBlock, h => by
    cases hblock : s.block with
    | some active =>
      have hask : superBlock.asksFor s = some ⟨active.name, active.levelsUp + 1⟩ := by
        rw [asksFor, hblock]
        rfl
      exact cases_of_asksFor hask h
    | none =>
      rw [perform, Action.Fails, superBlock_of_none hblock] at h
      cases h
      exact .inl ⟨[], .outside hblock⟩
  | _, .extendTemplate _, h | _, .includeTemplate _ _, h | _, .importTemplate _, h
  | _, .fromImport _ _, h => cases_of_fetches rfl h
  | _, .includeFirstOf _ _, h => cases_of_candidates h
  | _, .callFilter _ _ _, h => cases_of_filter h
  | _, .callTest _ _ _, h => cases_of_test h

/-- If the code that a request has started can fail, then the request does not fail
where code does nothing. -/
theorem CodeFails.not_fails_idle {other : RenderError} (h : request.CodeFails config run s other) :
    ¬ (request.perform config.idle fun _ => pure ()).Fails error s := by
  cases h with
  | definition hask hbody _ =>
    rw [fails_iff_of_resolved hask hbody]
    intro hfails
    cases hfails
  | @template _ name _ _ _ _ _ _ hfetch hget _ =>
    have hfetch' : request.fetches? config.idle s = request.fetches? config s := by
      cases request <;> rfl
    have hget' : Render.getTemplate config.idle name s = _ := hget
    rw [fails_iff_of_fetched (hfetch'.trans hfetch) hget']
    exact not_fails_runTemplate_idle
  | @candidate _ ignoreMissing before name _ _ _ _ _ hsplit hbefore hget _ =>
    have hmissing : ∀ candidate ∈ before, config.idle.Missing s candidate := hbefore.missing
    have hpasses := passesOver_of_missing hmissing
    rw [← hbefore.state] at hpasses
    have hget' : Render.getTemplate config.idle name _ = _ := hget
    have hcandidates : _ = List.map (fun reference =>
        config.idle.joinPath reference s.session.template) _ := hsplit.symm
    rw [perform, Action.Fails, includeFirstOf_of_fetched hcandidates _ ignoreMissing rfl hpasses
      hget']
    exact not_fails_runTemplate_idle
  | filter hfilter _ =>
    rw [perform, fails_ofExcept_iff, Config.callFilter]
    simp only [Config.idle, Table.get?_map, hfilter, Option.map_some]
    intro hfails
    cases hfails
  | test htest _ =>
    rw [perform, fails_ofExcept_iff, Config.callTest]
    simp only [Config.idle, Table.get?_map, htest, Option.map_some]
    intro hfails
    cases hfails

end

end Request

/-- Requests that fail for what they name leave everything as it was, and all others
fail with the code they have started. -/
theorem lookupLaw (config : Config) : LookupLaw config where
  unresolved {_ _ s _ names} h :=
    ⟨_, onlyAsked_loading names s, fun _ _ hlike => (h.congr hlike).perform⟩
  silent := State.OnlyAsked.wrote
  fails_iff {_ _ _ _ _} := by
    constructor
    · exact Request.fails_cases
    · rintro (⟨names, h⟩ | h)
      · exact .of_run h.perform
      · exact h.fails
  apart h hcode := hcode.not_fails_idle (.of_run (h.congr config.findsLike_idle).perform)
  unresolved_iff {_ _ _ _} := by
    constructor
    · rintro ⟨names, h⟩ other run hlike
      exact .of_run (h.congr hlike).perform
    · intro h
      rcases Request.fails_cases (h config (fun _ => pure ()) ⟨rfl, rfl, rfl, rfl⟩) with
        hunresolved | hcode
      · exact hunresolved
      · exact absurd (h config.idle (fun _ => pure ()) config.findsLike_idle) hcode.not_fails_idle

end Templating
