import Templating.Proofs.Standalone
import Templating.Proofs.Truncation

/-!
# A failing sink truncates the render

A stream that refuses every chunk after the first so many ends a render there and
does nothing else to it, if no code catches errors.  If the render writes no more
chunks than that, it cannot tell.  Otherwise it ends with the error of the sink; the
chunks taken are the first ones of the render without limit, and so are the
requests to the loader (`TruncationLaw`).

Chunks are what is written to the stream, empty ones included.  What is captured
for a module or a filter is written elsewhere and is no part of them.

The induction is on the code at hand, and outside of that on the depth to which
bodies may run others, as for all facts about runs.
-/
namespace Templating

/-- The names the loader was asked for. -/
def World.loads (w : World) : List String := w.log.toList.filterMap Event.loaded?

namespace Truncates

theorem simply {m : Render Unit} (hm : Truncates m fun _ => True) :
    Truncates (Templating.simply m) fun _ => True :=
  hm.bind fun _ _ => pure trivial

theorem asWhole {m : Render Flow} (hm : Truncates m fun _ => True) :
    Truncates (Templating.asWhole m) fun _ => True :=
  hm.bind fun _ _ => pure trivial

theorem asIteration {m : Render Flow} (hm : Truncates m fun _ => True) :
    Truncates (Templating.asIteration m) fun _ => True :=
  hm.bind fun _ _ => pure trivial

/-- The facts about code that catches no errors, for its expressions. -/
theorem closed (config : Config) : Vocabulary.uncaught.Closed config :=
  Vocabulary.closed_ofStatements Stmt.LetsThrough config

theorem silent_simply {m : Render Unit} (h : Silent m) : Silent (Templating.simply m) :=
  h.seq fun _ => Silent.pure _

section
variable {config : Config} {depth : Nat}
variable (hloader : ∀ name t, config.loader name = .ok t → Vocabulary.uncaught.Template t)
include hloader

theorem eval (x : Expr) :
    Truncates (x.eval config (Templating.invoke config depth)) fun _ => True :=
  of_silent (Silent.eval config depth x) ((sound_holdingCode hloader).eval (closed config)
    (x.every_of_forall fun _ => trivial) depth).any

theorem evalAll (xs : List Expr) :
    Truncates (Expr.evalAll config (Templating.invoke config depth) xs) fun _ => True :=
  of_silent (Silent.evalAll config depth xs) ((sound_holdingCode hloader).evalAll (closed config)
    (Expr.everyOf_of_forall (fun _ => trivial) xs) depth).any

/-- A statement that writes nothing is not cut short. -/
theorem silently {c : Stmt} (hc : c.Every Vocabulary.uncaught.stmt Vocabulary.uncaught.expr)
    {loop : Option LoopContext}
    (h : Silent (c.exec config (Templating.invoke config depth) loop)) :
    Truncates (c.exec config (Templating.invoke config depth) loop) fun _ => True :=
  of_silent h ((sound_holdingCode hloader).exec (closed config) hc depth loop)

/-- What goes through a filter is captured first, so only the result is written. -/
theorem filterBlock (filter : String) (arguments : List Value) {body : Body}
    (hbody : Vocabulary.uncaught.Code body) :
    Truncates (Render.filterBlock config filter arguments (Templating.asWhole
      (Stmt.execAll config (Templating.invoke config depth) none body))) fun _ => True := by
  have hC := sound_holdingCode hloader
  have hcaptured : Truncates (Render.capture (Templating.asWhole
      (Stmt.execAll config (Templating.invoke config depth) none body))) fun _ => True :=
    of_silent (Silent.captureBody config depth none body)
      (hC.pairing.captureText (Pairing.Sound.asWhole (hC.execAll (closed config) hbody depth
        none))).any
  refine (withFrame hloader hcaptured).bind fun text _ => ?_
  exact bind (Q := fun _ => True) (ofExcept fun _ _ => trivial) fun v _ => write v.toText

end

variable {config : Config} {depth : Nat}

mutual

/-- The induction on code: a statement that does not catch errors is cut short at
the first chunk without room. -/
theorem exec (hloader : ∀ name t, config.loader name = .ok t → Vocabulary.uncaught.Template t)
    (hinvoke : Runs (Templating.invoke config depth)) :
    ∀ {c : Stmt}, c.Every Vocabulary.uncaught.stmt Vocabulary.uncaught.expr → ∀ loop,
      Truncates (c.exec config (Templating.invoke config depth) loop) fun _ => True
  | .write text, _, _ => simply (write text)
  | .emit x, _, _ => simply ((eval hloader x).bind fun v _ => emit config v)
  | .assign name x, hc, _ => silently hloader hc <| silent_simply <|
      (Silent.eval config depth x).seq fun v => Silent.assign name v
  | .assignBinding binding x, hc, _ => silently hloader hc <| silent_simply <|
      (Silent.eval config depth x).seq fun v => Silent.assignBinding binding v
  | .exportVar name x, hc, _ => silently hloader hc <| silent_simply <|
      (Silent.eval config depth x).seq fun v => Silent.exportVar name v
  | .frame _, hc, loop => withFrame hloader (execAll hloader hinvoke hc.2 loop)
  | .escaping enabled _, hc, loop =>
    withAutoescape hloader enabled (execAll hloader hinvoke hc.2 loop)
  | .setEscaping enabled, hc, _ => silently hloader hc (silent_simply (.setAutoescape enabled))
  | .choose condition _ _, hc, loop => (eval hloader condition).bind fun v _ => by
      cases v.isTruthy with
      | true => exact execAll hloader hinvoke hc.2.2.1 loop
      | false => exact execAll hloader hinvoke hc.2.2.2 loop
  | .forEach iterable binding _ visited, hc, _ =>
    simply <| (eval hloader iterable).bind fun v _ =>
      (forLoop hloader v binding fun context =>
        asIteration (execAll hloader hinvoke hc.2.2 (some context))).bind fun _ _ => by
          cases visited with
          | none => exact pure trivial
          | some name =>
            exact of_silent (Silent.assign name _) ((held hloader).assignValue trivial name)
  | .forElse iterable binding _ _, hc, _ =>
    simply <| (eval hloader iterable).bind fun v _ => forLoopElse hloader v binding
      (fun context => asIteration (execAll hloader hinvoke hc.2.2.1 (some context)))
      (asWhole (execAll hloader hinvoke hc.2.2.2 none))
  | .breakLoop, _, _ => pure trivial
  | .continueLoop, _, _ => pure trivial
  | .block name levelsUp, _, _ => simply (evaluateBlock hloader hinvoke name levelsUp)
  | .blockLevel name level, _, _ => simply (evaluateBlockLevel hloader hinvoke name level)
  | .superBlock, _, _ => simply (superBlock hloader hinvoke)
  | .extendTemplate name, _, _ => simply (extendTemplate hloader hinvoke name)
  | .includeTemplate name ignoreMissing, _, _ =>
    simply (includeTemplate hloader hinvoke name ignoreMissing)
  | .includeFirstOf names ignoreMissing, _, _ =>
    simply (includeFirstOf hloader hinvoke names ignoreMissing)
  | .importAs name target, hc, _ => silently hloader hc <| silent_simply <|
      (Silent.importTemplate (Silent.runs_capturing config depth) name).seq fun v =>
        Silent.assign target v
  | .fromImport name _, hc, _ => silently hloader hc <| silent_simply <|
      (Silent.importTemplate (Silent.runs_capturing config depth) name).seq fun _ =>
        Silent.assignAll _
  | .filterBlock filter arguments _, hc, _ =>
    simply <| (evalAll hloader arguments).bind fun given _ =>
      filterBlock hloader filter given hc.2.2
  | .registerBlock name body, hc, _ =>
    silently hloader hc (silent_simply (Silent.registerBlock name body))
  | .registerTemplate name, hc, _ => silently hloader hc <| silent_simply <|
      (Silent.getTemplate name).seq fun t => Silent.registerBlocks t
  | .log x, hc, _ => silently hloader hc <| silent_simply <|
      (Silent.eval config depth x).seq fun _ => Silent.log rfl
  | .context, hc, _ => silently hloader hc (silent_simply (Silent.log rfl))
  | .probe, hc, _ => silently hloader hc <| silent_simply <|
      (Silent.read fun _ _ => rfl).seq fun _ => Silent.log rfl
  | .summarize, hc, _ => silently hloader hc <| silent_simply <|
      (Silent.read fun _ _ => rfl).seq fun _ => Silent.log rfl
  | .attempt _, hc, _ => hc.1.elim

theorem execAll (hloader : ∀ name t, config.loader name = .ok t → Vocabulary.uncaught.Template t)
    (hinvoke : Runs (Templating.invoke config depth)) :
    ∀ {body : List Stmt}, Vocabulary.uncaught.Code body → ∀ loop,
      Truncates (Stmt.execAll config (Templating.invoke config depth) loop body) fun _ => True
  | [], _, _ => pure trivial
  | _ :: _, hbody, loop => (exec hloader hinvoke hbody.1 loop).bind fun flow _ => by
      cases flow with
      | next => exact execAll hloader hinvoke hbody.2 loop
      | breakLoop | continueLoop => exact pure trivial

end

/-- Code that catches no errors is cut short, to whatever depth. -/
theorem runs (hloader : ∀ name t, config.loader name = .ok t → Vocabulary.uncaught.Template t) :
    ∀ depth, Runs (Templating.invoke config depth)
  | 0, _, _ => of_silent Pairing.alike_unfinished Pairing.alike_unfinished
  | depth + 1, _, hbody => asWhole (execAll hloader (runs hloader depth) hbody none)

end Truncates

/-! ## The law -/

/-- What a render comes to whose stream has room for so many chunks, next to the one
without limit that wrote these chunks and asked the loader for these names. -/
structure CutShort (world : World) (chunks loads : List String) (room : Nat)
    (unlimited limited : Outcome Unit × State) : Prop where
  /-- With room for all chunks nothing is different but the room that is left. -/
  fits : chunks.length ≤ room →
    limited = (unlimited.1, unlimited.2.withRoom (room - chunks.length))
  /-- Otherwise the render ends at the first chunk without room. -/
  failed : room < chunks.length → limited.1 = .failed .output
  taken : room < chunks.length → limited.2.world.chunks = world.chunks ++ chunks.take room
  asked : room < chunks.length → ∃ asked, limited.2.world.loads = world.loads ++ asked ∧
    asked <+: loads

/-- A render into a stream with limited room, for all variables, sessions and worlds
to begin with. -/
structure TruncationLaw (config : Config) (depth : Nat) (t : Template) : Prop where
  limited : ∀ (context : Context) (session : Option Session) (world : World),
    (∀ own, session = some own → own.HoldsCode .uncaught) →
    let into (sink : Sink) := config.evaluateTemplate depth t context sink session world
    ∃ chunks loads,
      (into (.stream none)).2.world.chunks = world.chunks ++ chunks ∧
      (into (.stream none)).2.world.loads = world.loads ++ loads ∧
      ∀ room, CutShort world chunks loads room (into (.stream none)) (into (.stream (some room)))
  /-- A text is the chunks of the render without limit put together. -/
  text : ∀ (context : Context) (world : World),
    let unlimited := config.evaluateTemplate depth t context (.stream none) none world
    ∃ chunks, unlimited.2.world.chunks = world.chunks ++ chunks ∧
      (config.render depth t context world).1 = unlimited.1.map fun _ => String.join chunks

section
variable {s t : State} {events before after : List Event}

theorem State.Logs.chunks (h : s.Logs events t) :
    t.world.chunks = s.world.chunks ++ chunksOf events := by
  have hlog : t.world.log.toList = s.world.log.toList ++ events := h
  rw [World.chunks, hlog, List.filterMap_append]
  rfl

theorem State.Logs.loads (h : s.Logs events t) :
    t.world.loads = s.world.loads ++ events.filterMap Event.loaded? := by
  have hlog : t.world.log.toList = s.world.log.toList ++ events := h
  rw [World.loads, hlog, List.filterMap_append]
  rfl

theorem logs_begin (config : Config) (t : Template) (context : Context) (sink : Sink)
    (own : Session) (world : World) :
    (State.start own (.root context) sink world).Logs
      [.began t.name, .notice (.renderingTemplate own.autoescape)]
      (.begin config t context sink (some own) world) :=
  (State.Logs.logged (.start own (.root context) sink world) _).trans (.logged _ _)

/-- The events of a template that is rendered, and the notices around them. -/
theorem State.Logs.around {config : Config} {template : Template} {context : Context} {sink : Sink}
    {own : Session} {world : World}
    (h : (State.begin config template context sink (some own) world).Logs events t) :
    (t.logged .ended).world.chunks = world.chunks ++ chunksOf events ∧
      (t.logged .ended).world.loads = world.loads ++ events.filterMap Event.loaded? := by
  have hbegun := logs_begin config template context sink own world
  have hall := (hbegun.trans h).trans (.logged t .ended)
  have hchunks := hall.chunks
  have hloads := hall.loads
  rw [List.filterMap_append, List.filterMap_append] at hloads
  rw [chunksOf_append, chunksOf_append] at hchunks
  constructor
  · rw [hchunks]
    show world.chunks ++ ([] ++ chunksOf events ++ []) = _
    rw [List.nil_append, List.append_nil]
  · rw [hloads]
    show world.loads ++ ([] ++ events.filterMap Event.loaded? ++ []) = _
    rw [List.nil_append, List.append_nil]

/-- A chunk that was refused is one of the chunks without limit, the first one that was
not taken. -/
theorem chunksOf_cut {chunk : String} (h : events = before ++ .output chunk :: after) :
    chunksOf events = chunksOf before ++ chunk :: chunksOf after := by
  rw [h, chunksOf_append]
  rfl

end

section
variable {config : Config} {t : Template} {context : Context} {world : World}

/-- A render whose code is cut short is. -/
theorem cutShort_of_truncatesAt {depth : Nat} {own : Session} {events : List Event}
    (h : TruncatesAt (Render.runTemplate (invoke config depth) t)
      (.begin config t context (.stream none) (some own) world) events) (room : Nat) :
    CutShort world (chunksOf events) (events.filterMap Event.loaded?) room
      (config.evaluateTemplate depth t context (.stream none) (some own) world)
      (config.evaluateTemplate depth t context (.stream (some room)) (some own) world) := by
  have hlimited := h.limited room
  rw [evaluateTemplate_eq, evaluateTemplate_eq]
  have hbegin : State.begin config t context (.stream (some room)) (some own) world =
      (State.begin config t context (.stream none) (some own) world).withRoom room := rfl
  rw [hbegin]
  rcases hrun : Render.runTemplate (invoke config depth) t
    ((State.begin config t context (.stream none) (some own) world).withRoom room) with ⟨outcome, u⟩
  rw [hrun] at hlimited
  cases hlimited with
  | fits hle =>
    exact ⟨fun _ => rfl, fun hlt => absurd hle (by omega), fun hlt => absurd hle (by omega),
      fun hlt => absurd hle (by omega)⟩
  | @cut before chunk after _ hevents hcount hlogs =>
    have hchunks := chunksOf_cut hevents
    have hlong : room < (chunksOf events).length := by
      rw [hchunks, List.length_append, List.length_cons]
      omega
    obtain ⟨htaken, hasked⟩ := hlogs.around
    refine ⟨fun hle => absurd hle (by omega), fun _ => rfl, fun _ => ?_, fun _ => ?_⟩
    · rw [htaken, hchunks, ← hcount, List.take_left]
    · refine ⟨_, hasked, ?_⟩
      rw [hevents, List.filterMap_append]
      exact List.prefix_append _ _

/-- A text is captured as it would be streamed. -/
theorem render_eq_join (config : Config) (depth : Nat) (t : Template) (context : Context)
    (world : World) :
    let unlimited := config.evaluateTemplate depth t context (.stream none) none world
    ∃ chunks, unlimited.2.world.chunks = world.chunks ++ chunks ∧
      (config.render depth t context world).1 = unlimited.1.map fun _ => String.join chunks := by
  intro unlimited
  have hempty : (Session.start config (some t.name)).Faithful config := fun _ _ h => by cases h
  have hshows : (State.begin config t context (.stream none) none world).ShowsSame config
      (State.begin config t context (.buffer "") none world) :=
    { scope := fun _ => rfl
      frames := rfl
      block := rfl
      template := rfl
      autoescape := rfl
      exports := rfl
      blocks := rfl
      nextInstance := rfl
      faithful := hempty
      faithful' := hempty
      takesAll := trivial
      takesAll' := trivial }
  have hC := sound_standalone config
  have hruns := hC.runs (Vocabulary.closed_full config) depth
  obtain ⟨hout, ⟨-, chunks, hwrote, hwrote'⟩, -⟩ :=
    hC.runTemplate hruns (Vocabulary.template_full t) _ _ hshows
  have hcaptured := hwrote'.captured (s := State.begin config t context (.stream none) none world)
  have hended (u : State) : (u.logged .ended).world.chunks = u.world.chunks := by
    rw [(State.Logs.logged u .ended).chunks]
    exact List.append_nil _
  have hbegun : (State.begin config t context (.stream none) none world).world.chunks =
      world.chunks := by
    have hlogs := logs_begin config t context (.stream none)
      (Session.start config (some t.name)) world
    exact hlogs.chunks.trans (List.append_nil _)
  refine ⟨chunks, ?_, ?_⟩
  · have hunlimited : unlimited.2.world.chunks =
        (Render.runTemplate (invoke config depth) t
          (State.begin config t context (.stream none) none world)).2.world.chunks := hended _
    rw [hunlimited, hwrote.log, hbegun]
    rfl
  · have hrender : (config.render depth t context world).1 =
        (Render.runTemplate (invoke config depth) t
          (State.begin config t context (.buffer "") none world)).1.map fun _ =>
            (Render.runTemplate (invoke config depth) t
              (State.begin config t context (.buffer "") none world)).2.captured := rfl
    rw [hrender, ← hout, hcaptured]
    rfl

/-- A sink that fails cuts a render short and does nothing else to it. -/
theorem truncationLaw
    (hloader : ∀ name t, config.loader name = .ok t → Vocabulary.uncaught.Template t)
    (ht : Vocabulary.uncaught.Template t) (depth : Nat) : TruncationLaw config depth t where
  limited context session world hsession := by
    intro into
    let own := session.getD (Session.start config (some t.name))
    have hheld : own.HoldsCode .uncaught := by
      cases session with
      | none => exact Session.holdsCode_start _ config _
      | some given => exact hsession given rfl
    obtain ⟨⟨events, hevents⟩, -⟩ := Truncates.runTemplate hloader (Truncates.runs hloader depth) ht
      (.begin config t context (.stream none) (some own) world) rfl hheld
    obtain ⟨hchunks, hloads⟩ := hevents.logs.around
    exact ⟨chunksOf events, events.filterMap Event.loaded?, hchunks, hloads, fun room =>
      cutShort_of_truncatesAt hevents room⟩
  text := render_eq_join config depth t

end

/-! ## A letter and a sink that fails within it -/

namespace Letter

/-- The greeting is captured, so its chunks are none of the letter's. -/
def greeting : Template := Template.build "greeting" (some [.write "Dear ", .write "you"]) none []

/-- A letter with an empty line. -/
def letter : Template :=
  Template.build "letter"
    (some [.emit (.importTemplate "greeting"), .write "", .write "Hello"]) none []

def config : Config := { Config.basic with loader := fun _ => .ok greeting }

theorem uncaught_greeting : Vocabulary.uncaught.Template greeting where
  root := ⟨trivial, trivial, trivial⟩
  setup _ hsetup := by cases hsetup
  blocks _ hentry := by cases hentry

theorem uncaught_letter : Vocabulary.uncaught.Template letter where
  root := ⟨⟨trivial, trivial⟩, trivial, trivial, trivial⟩
  setup _ hsetup := by cases hsetup
  blocks _ hentry := by cases hentry

/-- The letter is three chunks long, one of them empty. -/
theorem truncationLaw_letter :
    TruncationLaw config 3 letter ∧
      (config.evaluateTemplate 3 letter Table.empty (.stream none) none
        (World.begin 0)).2.world.chunks = ["Dear you", "", "Hello"] := by
  have hloader (name : String) (t : Template) (ht : config.loader name = .ok t) :
      Vocabulary.uncaught.Template t := by
    cases ht
    exact uncaught_greeting
  exact ⟨truncationLaw hloader uncaught_letter 3, rfl⟩

end Letter

end Templating
