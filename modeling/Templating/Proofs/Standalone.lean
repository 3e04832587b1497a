import Templating.Proofs.Reachable
import Templating.Proofs.Written

/-!
# A template rendered from another one, and by itself

Whether a template is included, imported or rendered by itself, it does the same,
as long as the same variables are visible.  Everything else the reference brings
with it is left behind when the session is derived, or cannot be told: the
registry, the exports, the escaping and the active block belong to the session
and the frame of the reference, and where in its scope a name is bound, what is
in its cache and what was logged cannot be seen by code.

Two runs are followed side by side (`Pairing.standalone`).  Their states show the
same variables and agree in all else that code can tell; whatever they write goes
to a stream in the one and perhaps into a captured text in the other, and it is
the same chunks (`State.Wrote`).  The sinks take every chunk: a stream without a
limit, or a captured text.
-/
namespace Templating

/-! ## Two runs that show the same -/

/-- Code cannot tell the states apart, and can write and load the same in both. -/
structure State.ShowsSame (config : Config) (a b : State) : Prop where
  scope : ∀ name, a.scope.get? name = b.scope.get? name
  frames : a.frames = b.frames
  block : a.block = b.block
  template : a.session.template = b.session.template
  autoescape : a.session.autoescape = b.session.autoescape
  exports : a.session.exports = b.session.exports
  blocks : a.session.blocks = b.session.blocks
  nextInstance : a.world.nextInstance = b.world.nextInstance
  faithful : a.session.Faithful config
  faithful' : b.session.Faithful config
  takesAll : a.sink.TakesAll
  takesAll' : b.sink.TakesAll

theorem State.ShowsSame.looksLike {config : Config} {a b : State} (h : a.ShowsSame config b) :
    a.LooksLike b where
  lookup name := by rw [Scope.lookup, Scope.lookup, h.scope]
  frames := h.frames
  block := h.block
  template := h.template
  autoescape := h.autoescape
  exports := h.exports
  blocks := h.blocks
  nextInstance := h.nextInstance

/-- Two runs of the same code that write the same chunks. -/
def Pairing.standalone (config : Config) : Pairing where
  Rel a b := a.ShowsSame config b
  To a b a' b' :=
    a'.ShowsSame config b' ∧ ∃ chunks, a.Wrote chunks a' ∧ b.Wrote chunks b'
  refl {a b} hab := ⟨hab, [], .refl a, .refl b⟩
  trans h h' := by
    obtain ⟨-, first, ha, hb⟩ := h
    obtain ⟨hab, second, ha', hb'⟩ := h'
    exact ⟨hab, first ++ second, ha.trans ha', hb.trans hb'⟩
  rel _ h := h.1

namespace State.ShowsSame

variable {config : Config} {a b a' b' : State}

/-- A step that writes nothing on either side. -/
theorem step (h : a'.ShowsSame config b') (ha : a.Wrote [] a') (hb : b.Wrote [] b') :
    (Pairing.standalone config).To a b a' b' :=
  ⟨h, [], ha, hb⟩

theorem logged (h : a.ShowsSame config b) (e e' : Event) :
    (a.logged e).ShowsSame config (b.logged e') :=
  { h with }

theorem noted (h : a.ShowsSame config b) {e e' : Event} (he : e.chunk? = none)
    (he' : e'.chunk? = none) : (Pairing.standalone config).To a b (a.logged e) (b.logged e') :=
  (h.logged e e').step (.logged a he) (.logged b he')

theorem bound (h : a.ShowsSame config b) (bindings : List (String × Value)) (name : String) :
    (a.scope.bind bindings).get? name = (b.scope.bind bindings).get? name := by
  rw [Scope.get?_bind, Scope.get?_bind, h.scope]

theorem assigned (h : a.ShowsSame config b) (name : String) (v : Value) :
    (Pairing.standalone config).To a b (a.assign name v) (b.assign name v) := by
  have htop : a.isTopLevel = b.isTopLevel := by rw [State.isTopLevel, State.isTopLevel, h.frames]
  have hbound := h.bound [(name, v)]
  unfold State.assign
  rw [htop]
  by_cases hb : b.isTopLevel = true
  · rw [if_pos hb, if_pos hb]
    have hexports := congrArg (·.insert name v) h.exports
    exact step { h with scope := hbound, exports := hexports } (.nothing rfl rfl) (.nothing rfl rfl)
  · rw [if_neg hb, if_neg hb]
    exact step { h with scope := hbound } (.nothing rfl rfl) (.nothing rfl rfl)

end State.ShowsSame

/-! ## Fetching -/

/-- The state with another cache and another log. -/
def State.withFetched (s : State) (cache : Table Template) (log : Array Event) : State :=
  { s with session := { s.session with cache := cache }, world := { s.world with log := log } }

/-- How an action ends that yields what is there already. -/
def Outcome.ofExcept {α : Type} : Except RenderError α → Outcome α
  | .ok a => .done a
  | .error error => .failed error

/-- Fetching comes to what the loader has, from wherever it comes, and changes
nothing but the cache and the log. -/
theorem getTemplate_of_faithful {config : Config} {s : State} (h : s.session.Faithful config)
    (name : String) : ∃ cache log, (s.withFetched cache log).session.Faithful config ∧
      s.Wrote [] (s.withFetched cache log) ∧
      Render.getTemplate config name s =
        (Outcome.ofExcept (config.loader name), s.withFetched cache log) := by
  have hloading : s.Wrote [] (s.loading name) := (State.Wrote.logged s rfl).trans (.logged _ rfl)
  cases hcache : s.session.cache.get? name with
  | some t =>
    refine ⟨s.session.cache, (s.logged (.notice (.templateCacheHit name))).world.log, h,
      .logged s rfl, ?_⟩
    rw [getTemplate_of_cached config hcache, h name t hcache]
    rfl
  | none =>
    cases hloader : config.loader name with
    | ok t =>
      refine ⟨s.session.cache.insert name t, (s.loading name).world.log, h.remember hloader,
        hloading, ?_⟩
      rw [getTemplate_of_loaded hcache hloader]
      rfl
    | error error =>
      refine ⟨s.session.cache, (s.loading name).world.log, h, hloading, ?_⟩
      rw [getTemplate_of_failed hcache hloader]
      rfl

theorem standalone_fetch (config : Config) (name : String) :
    (Pairing.standalone config).Alike (Render.getTemplate config name)
      (Render.getTemplate config name) Vocabulary.full.Template := by
  intro a b hab
  obtain ⟨cache, log, hfaithful, hwrote, hrun⟩ := getTemplate_of_faithful hab.faithful name
  obtain ⟨cache', log', hfaithful', hwrote', hrun'⟩ := getTemplate_of_faithful hab.faithful' name
  rw [hrun, hrun']
  have hsame : (a.withFetched cache log).ShowsSame config (b.withFetched cache' log') :=
    { hab with faithful := hfaithful, faithful' := hfaithful' }
  exact ⟨rfl, hsame.step hwrote hwrote', fun t _ => Vocabulary.template_full t⟩

/-! ## The step lemma -/

/-- Every elementary change is the same on both sides, and writes the same. -/
theorem sound_standalone (config : Config) :
    (Pairing.standalone config).Sound Vocabulary.full config where
  looks hab := hab.looksLike
  looked _ _ := trivial
  exported _ _ _ := trivial
  defined _ _ _ _ _ := Vocabulary.code_full _
  fetch := standalone_fetch config
  note hab _ he := hab.noted (he _) (he _)
  write {text} _ a b hab := by
    obtain ⟨sink, log, hwrote, hrun⟩ := write_of_takesAll hab.takesAll text
    obtain ⟨sink', log', hwrote', hrun'⟩ := write_of_takesAll hab.takesAll' text
    rw [hrun, hrun']
    have hsame : (a.withOutput sink log).ShowsSame config (b.withOutput sink' log') :=
      { hab with
        takesAll := hwrote.sink.takesAll hab.takesAll
        takesAll' := hwrote'.sink.takesAll hab.takesAll' }
    exact ⟨rfl, ⟨hsame, [text], hwrote, hwrote'⟩, fun _ _ => trivial⟩
  emitted _ _ _ := trivial
  count {a b} hab next :=
    State.ShowsSame.step { hab with nextInstance := rfl } (.nothing rfl rfl) (.nothing rfl rfl)
  assign hab v _ name := hab.assigned name v
  exportVar {a b} hab v _ name :=
    State.ShowsSame.step { hab with exports := congrArg (·.insert name v) hab.exports }
      (.nothing rfl rfl) (.nothing rfl rfl)
  setEscaping {a b} hab enabled _ :=
    State.ShowsSame.step { hab with autoescape := rfl } (.nothing rfl rfl) (.nothing rfl rfl)
  register {a b} hab body _ name :=
    State.ShowsSame.step { hab with blocks := congrArg (·.register name body) hab.blocks }
      (.nothing rfl rfl) (.nothing rfl rfl)
  rebind {a₀ b₀ a b} hab₀ hab bindings _ :=
    State.ShowsSame.step { hab with scope := State.ShowsSame.bound hab₀ bindings }
      (.nothing rfl rfl) (.nothing rfl rfl)
  frame a b hab := by
    refine ⟨{ hab with frames := congrArg (· + 1) hab.frames }, ?_⟩
    rintro a' b' ⟨hab', chunks, ha, hb⟩
    have hsame : (State.leaveFrame a a').ShowsSame config (State.leaveFrame b b') :=
      { hab' with scope := hab.scope, frames := congrArg (· - 1) hab'.frames }
    exact ⟨hsame, chunks, ha, hb⟩
  escaping _ a b hab := by
    refine ⟨{ hab with autoescape := rfl }, ?_⟩
    rintro a' b' ⟨hab', chunks, ha, hb⟩
    have hsame : (State.leaveEscaping a a').ShowsSame config (State.leaveEscaping b b') :=
      { hab' with autoescape := hab.autoescape }
    exact ⟨hsame, chunks, ha, hb⟩
  block block a b hab := by
    refine ⟨{ hab with frames := rfl, block := rfl }, ?_⟩
    rintro a' b' ⟨hab', chunks, ha, hb⟩
    have hsame : (State.leaveBlock a a').ShowsSame config (State.leaveBlock b b') :=
      { hab' with scope := hab.scope, frames := hab.frames, block := hab.block }
    exact ⟨hsame, chunks, ha, hb⟩
  template name reach a b hab := by
    -- Of the sessions these are derived from they get the registry at most.
    have hderived : (a.session.derive config name reach).blocks =
        (b.session.derive config name reach).blocks := by
      cases reach with
      | extending => exact hab.blocks
      | including | importing => rfl
    have hbegun : (a.enterDerived config name reach).ShowsSame config
        (b.enterDerived config name reach) :=
      { hab with
        frames := rfl
        block := rfl
        template := rfl
        autoescape := rfl
        exports := rfl
        blocks := hderived }
    refine ⟨hbegun, ?_⟩
    rintro a' b' ⟨hab', chunks, ha, hb⟩
    have hblocks : (a.session.rejoin reach a'.session).blocks =
        (b.session.rejoin reach b'.session).blocks := by
      cases reach with
      | extending => exact hab'.blocks
      | including | importing => exact hab.blocks
    have hsame : (State.leaveTemplate reach a a').ShowsSame config
        (State.leaveTemplate reach b b') :=
      { hab with
        blocks := hblocks
        nextInstance := hab'.nextInstance
        faithful := hab'.faithful
        faithful' := hab'.faithful'
        takesAll := hab'.takesAll
        takesAll' := hab'.takesAll' }
    exact ⟨hsame, chunks, ha, hb⟩
  capture a b hab := by
    refine ⟨{ hab with takesAll := trivial, takesAll' := trivial }, ?_⟩
    rintro a' b' ⟨hab', chunks, ha, hb⟩
    have hsame : (State.leaveCapture a a').ShowsSame config (State.leaveCapture b b') :=
      { hab' with takesAll := hab.takesAll, takesAll' := hab.takesAll' }
    -- The chunks were captured on both sides, so they are written on neither.
    exact hsame.step ha.leaveCapture hb.leaveCapture
  captured _ _ _ h := by
    obtain ⟨-, chunks, ha, hb⟩ := h
    exact ⟨ha.captured.trans hb.captured.symm, trivial⟩

/-! ## By itself -/

section
variable {config : Config} {invoke : Invoke} {s u : State} {name r : String} {t : Template}

theorem getOptional_of_done (h : Render.getTemplate config r s = (.done t, u))
    (ignoreMissing : Bool) :
    Render.getOptional config r ignoreMissing s = (.done (some t), u) := by
  rw [Render.getOptional, Action.bind_of_done (Action.attempt_of_done h)]
  rfl

/-- The state with which a fetched template has been left. -/
def State.endFetched (name : String) (reach : Reach) (s t : State) : State :=
  State.leaveTemplate reach (s.logged (.notice (.derivingSession s.session.template name reach))) t

/-- Including a template that was fetched is running it in a session derived for
it. -/
theorem includeTemplate_of_done (hr : config.joinPath name s.session.template = r)
    (h : Render.getTemplate config r s = (.done t, u)) (ignoreMissing : Bool) :
    Render.includeTemplate config invoke name ignoreMissing s =
      ((Render.runTemplate invoke t (u.beginFetched config r .including)).1,
        u.endFetched r .including
          (Render.runTemplate invoke t (u.beginFetched config r .including)).2) := by
  rw [Render.includeTemplate, Action.bind_of_done (Render.resolveName_of_joinPath hr),
    Action.bind_of_done (getOptional_of_done h ignoreMissing)]
  rfl

/-- Importing a template that was fetched is running it in a session derived for
it and making a module of its exports and of what it has written. -/
theorem importTemplate_of_done (hr : config.joinPath name s.session.template = r)
    (h : Render.getTemplate config r s = (.done t, u)) :
    Render.importTemplate config invoke name s =
      let run := Render.runTemplate invoke t (u.beginFetched config r .importing)
      (run.1.map fun _ => .module r run.2.session.exports run.2.captured,
        u.endFetched r .importing (State.leaveCapture u run.2)) := by
  have hmodule (begun : State) :
      (Render.capture (Render.runTemplate invoke t) >>= fun body =>
        Action.read fun s => s.session.toModule r body) begun =
      ((Render.runTemplate invoke t begun.enterCapture).1.map fun _ =>
          .module r (Render.runTemplate invoke t begun.enterCapture).2.session.exports
            (Render.runTemplate invoke t begun.enterCapture).2.captured,
        State.leaveCapture begun (Render.runTemplate invoke t begun.enterCapture).2) := by
    rw [Action.bind_apply, Pairing.Sound.capture_apply]
    cases (Render.runTemplate invoke t begun.enterCapture).1 <;> rfl
  have hbracket : Render.importTemplate config invoke name s =
      Action.bracket (State.enterDerived config r .importing) (State.leaveTemplate .importing)
        (Render.capture (Render.runTemplate invoke t) >>= fun body =>
          Action.read fun s => s.session.toModule r body)
        (u.logged (.notice (.derivingSession u.session.template r .importing))) := by
    rw [Render.importTemplate, Action.bind_of_done (Render.resolveName_of_joinPath hr),
      Action.bind_of_done h]
    rfl
  rw [hbracket, Action.bracket_apply, hmodule]
  rfl

end

/-- Rendering a template by itself: with these variables, in a session of its own,
into a stream that takes every chunk. -/
def Config.alone (config : Config) (depth : Nat) (name : String) (t : Template)
    (context : Context) (next : InstanceId) : Outcome Unit × State :=
  config.evaluateTemplate depth t context (.stream none) (some (Session.start config (some name)))
    (World.begin next)

/-- A fetched template and the same template by itself begin in states that show
the same. -/
theorem showsSame_begin {config : Config} {u : State} (hu : u.session.Faithful config)
    (htakes : u.sink.TakesAll) {context : Context}
    (hcontext : ∀ x, context.get? x = u.scope.get? x) (r : String) (t : Template)
    {reach : Reach} (hreach : reach ≠ .extending) :
    (u.beginFetched config r reach).ShowsSame config
      (.begin config t context (.stream none) (some (Session.start config (some r)))
        (World.begin u.world.nextInstance)) := by
  have hempty : (Session.start config (some r)).Faithful config := fun _ _ hcached => by
    cases hcached
  have hsink : (u.beginFetched config r reach).sink.TakesAll := by
    cases reach with
    | extending | including => exact htakes
    | importing => trivial
  cases reach with
  | extending => exact absurd rfl hreach
  | including | importing =>
    exact {
      scope := fun x => (hcontext x).symm
      frames := rfl
      block := rfl
      template := rfl
      autoescape := rfl
      exports := rfl
      blocks := rfl
      nextInstance := rfl
      faithful := hu
      faithful' := hempty
      takesAll := hsink
      takesAll' := trivial }

/-- By itself, a template has written the chunks in the log. -/
theorem chunks_of_wrote {config : Config} {context : Context} {session : Session}
    {t : Template} {next : InstanceId} {chunks : List String} {ended : State}
    (h : (State.begin config t context (.stream none) (some session) (World.begin next)).Wrote
      chunks ended) : (ended.logged .ended).world.chunks = chunks := by
  obtain ⟨-, hlog⟩ := h
  have hbegun : (State.begin config t context (.stream none) (some session)
      (World.begin next)).world.chunks = [] := rfl
  rw [State.logged, World.chunks_push, hlog, hbegun, List.nil_append]
  exact List.append_nil _

/-- The run of a fetched template ends as the template does by itself, writes what
that writes and exports what that exports. -/
theorem runTemplate_alone {config : Config} {u : State} (hu : u.session.Faithful config)
    (htakes : u.sink.TakesAll) {context : Context}
    (hcontext : ∀ x, context.get? x = u.scope.get? x) (depth : Nat) (r : String) (t : Template)
    {reach : Reach} (hreach : reach ≠ .extending) :
    let run := Render.runTemplate (invoke config depth) t (u.beginFetched config r reach)
    let alone := config.alone depth r t context u.world.nextInstance
    run.1 = alone.1 ∧ (u.beginFetched config r reach).Wrote alone.2.world.chunks run.2 ∧
      run.2.session.exports = alone.2.session.exports := by
  intro run alone
  have hC := sound_standalone config
  have hruns := hC.runs (Vocabulary.closed_full config) depth
  have halike := hC.runTemplate hruns (Vocabulary.template_full t)
  obtain ⟨hout, ⟨hsame, chunks, hwrote, hwrote'⟩, -⟩ :=
    halike _ _ (showsSame_begin hu htakes hcontext r t hreach)
  have hchunks : alone.2.world.chunks = chunks := chunks_of_wrote hwrote'
  rw [hchunks]
  exact ⟨hout, hwrote, hsame.exports⟩

/-- Included or imported, a template does what it does by itself: it writes the
same chunks and ends in the same way, and as a module it has the same exports. -/
theorem agrees_alone {config : Config} {s : State} (hs : s.Reachable config)
    (htakes : s.sink.TakesAll) {name r : String} {t : Template}
    (hr : config.joinPath name s.session.template = r) (ht : config.loader r = .ok t)
    {context : Context} (hcontext : ∀ x, context.get? x = s.scope.get? x) (depth : Nat) :
    let alone := config.alone depth r t context s.world.nextInstance
    (∀ ignoreMissing,
      let included := Render.includeTemplate config (invoke config depth) name ignoreMissing s
      included.1 = alone.1 ∧ s.Wrote alone.2.world.chunks included.2) ∧
    let imported := Render.importTemplate config (invoke config depth) name s
    (imported.1 = alone.1.map fun _ =>
      .module r alone.2.session.exports (String.join alone.2.world.chunks)) ∧
      s.Wrote [] imported.2 := by
  intro alone
  obtain ⟨cache, log, hfaithful, hfetched, hrun⟩ := getTemplate_of_faithful hs.faithful r
  rw [ht] at hrun
  let u := s.withFetched cache log
  have hnoticed (reach : Reach) : s.Wrote [] (u.logged (.notice
      (.derivingSession u.session.template r reach))) := hfetched.trans (.logged u rfl)
  have hruns (reach : Reach) (hreach : reach ≠ .extending) :=
    runTemplate_alone (u := u) hfaithful htakes hcontext depth r t hreach
  constructor
  · intro ignoreMissing included
    obtain ⟨hout, hwrote, -⟩ := hruns .including (by decide)
    have hincluded : included = _ := includeTemplate_of_done hr hrun ignoreMissing
    rw [hincluded]
    exact ⟨hout, (hnoticed .including).trans hwrote⟩
  · intro imported
    obtain ⟨hout, hwrote, hexports⟩ := hruns .importing (by decide)
    have himported : imported = _ := importTemplate_of_done hr hrun
    have houtcome : alone.1 = _ := hout.symm
    have hexported : alone.2.session.exports = _ := hexports.symm
    have hbody : String.join alone.2.world.chunks = _ := hwrote.captured.symm
    rw [himported, houtcome, hexported, hbody]
    exact ⟨rfl, (hnoticed .importing).trans hwrote.leaveCapture⟩

namespace Greeting

def greeting : Template :=
  Template.build "greeting" (some [.write "Hello, ", .emit (.var "name")]) none []

def config : Config := { Config.basic with loader := fun _ => .ok greeting }

/-- A caller that is itself captured, in a frame. -/
def caller : State :=
  .start (Session.start config (some "page"))
    ((Scope.ofList [("name", .text "you")]).bind [("name", .text "world")]) (.buffer "> ")
    (World.begin 0)

theorem reachable_caller : caller.Reachable config :=
  ⟨⟨1, .code none [], caller⟩, .code (.started _), rfl⟩

/-- The caller's greeting is the greeting with the caller's variables. -/
theorem agrees_greeting :
    (Render.includeTemplate config (invoke config 1) "greeting" false caller).1 = .done () ∧
      caller.Wrote ["Hello, ", "world"]
        (Render.includeTemplate config (invoke config 1) "greeting" false caller).2 := by
  obtain ⟨hincluded, -⟩ := agrees_alone reachable_caller trivial rfl rfl
    (Scope.get?_flatten caller.scope) 1
  exact hincluded false

end Greeting

end Templating
