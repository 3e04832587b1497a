import Templating.Proofs.Nesting

/-!
# Which escaping is in force

A session has one flag for escaping.  A stretch with escaping on or off sets it
and gives it back at its end; a template that is reached from another one works
with a session, and so with a flag, of its own.

In a program that never switches the flag by hand it can therefore be told from
what is open (`Moment.EscapingLaw`): it is the argument of the innermost open
stretch of the running template (`Opening.escaping?`), and without one the
setting that the template's name calls for.  Loops, blocks and captured parts
have no say in it, nor have the stretches around the reference to the template,
and nothing that has ended, well or not, has left a trace.
-/
namespace Templating

namespace Opening

/-- The setting of the innermost stretch that is open in the running template. -/
def escaping? : List Opening → Option Bool
  | [] => none
  | .iteration _ :: outer => escaping? outer
  | .escaping enabled :: _ => some enabled
  | .template _ :: _ => none

/-- The name of the running template, if the run began in a template of this
name. -/
def running (own : Option String) : List Opening → Option String
  | [] => own
  | .iteration _ :: outer | .escaping _ :: outer => running own outer
  | .template name :: _ => some name

/-- The escaping that is in force, if the run began in a template of this name. -/
def inForce (config : Config) (own : Option String) (openings : List Opening) : Bool :=
  (escaping? openings).getD (config.autoescape.initial (running own openings))

end Opening

/-- What a session tells a template about escaping: its name and the flag. -/
def State.escapingView (s : State) : Option String × Bool :=
  (s.session.template, s.session.autoescape)

theorem isApart_escapingView : IsApart State.escapingView :=
  ⟨fun _ _ => rfl, fun _ _ => rfl, fun _ _ => rfl, fun _ _ _ => rfl⟩

/-- A statement does not switch escaping for the statements after it. -/
def Stmt.LeavesEscaping : Stmt → Prop
  | .setEscaping _ => False
  | _ => True

/-- The code that never switches escaping by hand. -/
def Vocabulary.scopedEscaping : Vocabulary :=
  .ofStatements Stmt.LeavesEscaping

/-- The course of a run at whose states the session gives the same answers about
escaping. -/
def Course.scopedEscaping : Course where
  Inv s := s.session.HoldsCode .scopedEscaping
  To s t := t.session.HoldsCode .scopedEscaping ∧ t.escapingView = s.escapingView
  refl hs := ⟨hs, rfl⟩
  trans h h' := ⟨h'.1, h'.2.trans h.2⟩
  inv _ h := h.1

section
variable {config : Config} (hloader : ∀ name t, config.loader name = .ok t →
  Vocabulary.scopedEscaping.Template t)
include hloader

/-- The step lemma: a stretch gives the flag back, and another template has a flag
of its own. -/
theorem sound_scopedEscaping :
    Course.scopedEscaping.Sound .scopedEscaping config :=
  have hheld := sound_holdingCode hloader
  { looked := fun _ _ => trivial
    exported := fun _ _ _ => trivial
    defined := hheld.defined
    cached := hheld.cached
    loaded := hheld.loaded
    remember := fun hs _ _ hcache ht => ⟨hheld.remember hs hcache ht, rfl⟩
    note := fun hs _ he => ⟨hheld.note hs he, rfl⟩
    write := fun {s} hs text _ => ⟨hheld.write hs trivial,
      (Keeps.write isApart_escapingView text).apply s⟩
    emitted := fun _ _ _ => trivial
    count := fun hs next => ⟨hheld.count hs next, rfl⟩
    assign := fun {s} hs v _ name => by
      refine ⟨hheld.assign hs (v := v) trivial name, ?_⟩
      unfold State.assign
      split <;> rfl
    exportVar := fun hs v _ name => ⟨hheld.exportVar hs (v := v) trivial name, rfl⟩
    setEscaping := fun _ _ hswitch => hswitch.elim
    register := fun hs _ hbody name => ⟨hheld.register hs hbody name, rfl⟩
    rebind := fun _ hs _ _ => ⟨hs, rfl⟩
    frame := fun _ hs => ⟨hs, fun _ ht => ht⟩
    escaping := fun _ _ hs =>
      ⟨⟨hs.blocks, hs.cache⟩, fun _ ht =>
        -- The name is the same all along; the flag is the one from before.
        ⟨⟨ht.1.blocks, ht.1.cache⟩, Prod.ext (Prod.mk.inj ht.2).1 rfl⟩⟩
    block := fun _ _ hs => ⟨hs, fun _ ht => ht⟩
    template := fun name reach _ hs =>
      ⟨hs.derive config name reach, fun _ ht => ⟨hs.rejoin ht.1 reach, rfl⟩⟩
    capture := fun _ hs => ⟨hs, fun _ ht => ht⟩
    captured := fun _ _ _ => trivial }

/-- Only a stretch or another template changes the answers. -/
theorem steady_escapingView : Steady config Stmt.LeavesEscaping State.escapingView :=
  have hC := sound_scopedEscaping hloader
  have hV := Vocabulary.closed_ofStatements Stmt.LeavesEscaping config
  { apart := isApart_escapingView
    frame := fun _ => rfl
    block := fun _ _ => rfl
    register := fun _ _ _ => rfl
    template := fun _ _ _ => rfl
    exec := fun hc depth loop _ hs => (Course.of_alike (hC.exec hV hc depth loop) hs).1.2
    forLoop := fun {_} hbody _ binding depth _ hs => by
      have hiteration (context : LoopContext) :=
        Pairing.Sound.asIteration (hC.execAll hV hbody depth (some context))
      exact (Course.of_alike (hC.pairing.forLoop hV trivial binding hiteration) hs).1.2 }

/-! ## Sessions -/

/-- A session asks for the escaping that its name calls for. -/
def Session.AsNamed (config : Config) (s : Session) : Prop :=
  s.autoescape = config.autoescape.initial s.template

/-- Between the runs of a host no session has forgotten the escaping of its
name. -/
theorem Session.Made.asNamed {own : Session} (h : own.Made config .scopedEscaping) :
    own.AsNamed config := by
  have hC := sound_scopedEscaping hloader
  have hV := Vocabulary.closed_ofStatements Stmt.LeavesEscaping config
  have hkeep {s t : State} (hs : s.session.AsNamed config) (ht : t.escapingView = s.escapingView) :
      t.session.AsNamed config := by
    obtain ⟨hname, hflag⟩ := Prod.mk.inj ht
    rw [Session.AsNamed, hflag, hname]
    exact hs
  induction h with
  | started _ => rfl
  | derived _ _ _ _ => rfl
  | shared _ _ _ ih _ => exact ih
  | @fetched s name scope sink world _ ih =>
    exact hkeep (s := .start s scope sink world) ih
      ((Keeps.getTemplate isApart_escapingView config name).apply _)
  | @ran s depth body scope sink world hs hbody ih =>
    have hbegun : Course.scopedEscaping.Inv (.start s scope sink world) := hs.holdsCode hloader
    exact hkeep (s := .start s scope sink world) ih
      (Course.of_alike (hC.execAll hV hbody depth none) hbegun).1.2
  | @rendered s depth t context sink world hs ht ih =>
    have hbegun : Course.scopedEscaping.Inv (.begin config t context sink (some s) world) :=
      hs.holdsCode hloader
    exact hkeep (s := .begin config t context sink (some s) world) ih
      (hC.evaluateTemplate hV ht depth hbegun).2

end

/-! ## Moments -/

namespace Moment

variable {config : Config} {own : Session} {scope : Scope} {first m m' : Moment}
variable {openings : List Opening}

/-- Another template begins with its own name and the escaping that it calls
for. -/
theorem escapingView_beginFetched (name : String) (reach : Reach) (s : State) :
    (s.beginFetched config name reach).escapingView =
      (some name, config.autoescape.initial (some name)) := by
  cases reach <;> rfl

section
variable (hloader : ∀ name t, config.loader name = .ok t → Vocabulary.scopedEscaping.Template t)
include hloader

theorem Begins.escapingView (hown : own.Made config .scopedEscaping)
    (h : Begins config .scopedEscaping own scope first) :
    first.state.escapingView = (own.template, own.autoescape) := by
  cases h with
  | @template _ t context sink world _ ht hstart =>
    have hheld : (State.begin config t context sink (some own) world).session.HoldsCode
      .scopedEscaping := hown.holdsCode hloader
    exact (steady_escapingView hloader).starts hloader ht hheld hstart
  | code => rfl

theorem Fetches.escapingView {reach : Reach} {name : String} {t : Template} {u : State}
    (hm : m.KeepsTo Stmt.LeavesEscaping) (hfetch : Fetches config m reach name t u)
    (hstart : Starts config m.depth t (u.beginFetched config name reach) m') :
    m'.state.escapingView = (some name, config.autoescape.initial (some name)) := by
  have hheld := sound_holdingCode hloader
  obtain ⟨hu, ht⟩ := hheld.fetches hm hfetch
  rw [(steady_escapingView hloader).starts hloader ht (hheld.beginFetched hu name reach) hstart]
  exact escapingView_beginFetched name reach u

/-- The run lemma: the flag is the one that the openings call for. -/
theorem Opens.escapingView (hown : own.Made config .scopedEscaping)
    (hfirst : Begins config .scopedEscaping own scope first)
    (h : Opens config first openings m) :
    m.state.escapingView =
      (Opening.running own.template openings, Opening.inForce config own.template openings) := by
  refine (steady_escapingView hloader).opens hloader (hfirst.holds hloader hown)
    (R := fun openings view => view =
      (Opening.running own.template openings, Opening.inForce config own.template openings))
    ?_ (fun {openings opening m m'} hm ih hnests => ?_) h
  · rw [hfirst.escapingView hloader hown, hown.asNamed hloader]
    rfl
  · cases hnests with
    | @iteration depth _ _ _ iterable binding body s v t context u hloop hrun _ hi =>
      -- The iterations before this one have given the flag back, and so has this one's operand.
      have hC := sound_scopedEscaping hloader
      have hV := Vocabulary.closed_ofStatements Stmt.LeavesEscaping config
      obtain ⟨hiterable, hbody⟩ := hm.task.1.loop hloop
      obtain ⟨hto, -⟩ := Course.done_of_alike (hC.eval hV hiterable depth) hm.state hrun
      obtain ⟨w, hw, hbegun⟩ := hC.iterates hV trivial (fun context s hs =>
        (Course.of_alike (Pairing.Sound.asIteration
          (hC.execAll hV hbody depth (some context))) hs).1) hi hto.1
      have hview : u.escapingView = s.escapingView := hbegun.2.trans (hw.2.trans hto.2)
      rw [hview]
      exact ih
    | escaping => exact Prod.ext (Prod.mk.inj ih).1 rfl
    | enters hfetch hstart => exact hfetch.escapingView hloader hm hstart

end

variable (config) in
/-- What escaping is at a moment of a run that began with the session `own`, and
who goes by it. -/
structure EscapingLaw (own : Session) (first m : Moment) : Prop where
  /-- It can be told what is open. -/
  counted : ∃ openings, Opens config first openings m
  running : ∀ {openings}, Opens config first openings m →
    m.state.session.template = Opening.running own.template openings
  /-- The flag is that of the innermost open stretch of the running template, or
  what the name of its session calls for. -/
  flag : ∀ {openings}, Opens config first openings m → m.state.session.autoescape =
    (Opening.escaping? openings).getD (config.autoescape.initial m.state.session.template)
  /-- A value is escaped as the openings say, whatever its evaluation runs. -/
  emits : ∀ {openings loop x rest}, Opens config first openings m →
    m.task = .code loop (.emit x :: rest) →
    (Stmt.emit x).exec config (invoke config m.depth) loop m.state = (simply do
      let v ← x.eval config (invoke config m.depth)
      Render.refuseUndefined config v
      Render.write (v.finalize (Opening.inForce config own.template openings))) m.state
  /-- A value is trusted as the openings say, and so for every operation that asks
  for the flag. -/
  marks : ∀ {openings op x rest}, Opens config first openings m →
    m.task = .operands (.unary op x :: rest) →
    (Expr.unary op x).eval config (invoke config m.depth) m.state = (do
      let v ← x.eval config (invoke config m.depth)
      return op.apply (Opening.inForce config own.template openings) v) m.state
  /-- The definition of a block runs in the session of the code that asks for it. -/
  calls : ∀ {m'}, Calls m m' → m'.state.session = m.state.session
  /-- A filtered part is run with the flag of the code around it. -/
  filtered : ∀ {loop filter arguments body rest given t},
    m.task = .code loop (.filterBlock filter arguments body :: rest) →
    Expr.evalAll config (invoke config m.depth) arguments m.state = (.done given, t) →
    t.enterFrame.enterCapture.session.autoescape = m.state.session.autoescape
  /-- However it is reached and whatever is open around it, another template begins
  with the escaping that its own name calls for. -/
  enters : ∀ {reach name t u m'}, Fetches config m reach name t u →
    Starts config m.depth t (u.beginFetched config name reach) m' →
    m'.state.session.autoescape = config.autoescape.initial (some name)
  /-- When a statement ends, and be it with an error, the flag is what it was.  In
  particular it is after a stretch, a block and another template. -/
  statement : ∀ {loop c rest}, m.task = .code loop (c :: rest) →
    (c.exec config (invoke config m.depth) loop m.state).2.session.autoescape =
      m.state.session.autoescape
  /-- So it is after an operand, which may have imported a template. -/
  operand : ∀ {x rest}, m.task = .operands (x :: rest) →
    (x.eval config (invoke config m.depth) m.state).2.session.autoescape =
      m.state.session.autoescape

end Moment

section
variable {config : Config} {invoke : Invoke} {flag : Bool}

/-- To emit a value is to escape it with the flag from after its evaluation. -/
theorem Stmt.exec_emit_of_flag {x : Expr} {s : State}
    (hflag : (x.eval config invoke s).2.session.autoescape = flag) (loop : Option LoopContext) :
    (Stmt.emit x).exec config invoke loop s = (simply do
      let v ← x.eval config invoke
      Render.refuseUndefined config v
      Render.write (v.finalize flag)) s := by
  simp only [Stmt.exec, simply, Action.bind_apply (m := x.eval config invoke >>= _),
    Action.bind_apply (m := x.eval config invoke)]
  rcases hrun : x.eval config invoke s with ⟨v | _ | _, t⟩
  · rw [hrun] at hflag
    dsimp only
    rw [Render.emit_of_flag config v hflag]
  all_goals rfl

theorem Expr.eval_unary_of_flag {x : Expr} {s : State} (op : UnaryOp)
    (hflag : (x.eval config invoke s).2.session.autoescape = flag) :
    (Expr.unary op x).eval config invoke s = (do
      let v ← x.eval config invoke
      return op.apply flag v) s := by
  rw [Expr.eval, Action.bind_apply, Action.bind_apply]
  rcases hrun : x.eval config invoke s with ⟨v | _ | _, t⟩
  · rw [hrun] at hflag
    dsimp only
    rw [Action.bind_apply, Action.read, hflag]
  all_goals rfl

end

/-- At every moment of every run of a program that never switches escaping by hand
the flag is the one that the open stretches call for. -/
theorem escapingLaw {config : Config} {own : Session} {scope : Scope} {first m : Moment}
    (hloader : ∀ name t, config.loader name = .ok t → Vocabulary.scopedEscaping.Template t)
    (hown : own.Made config .scopedEscaping)
    (hfirst : Moment.Begins config .scopedEscaping own scope first)
    (hm : Moment.Later config first m) : Moment.EscapingLaw config own first m := by
  have hsteady := steady_escapingView hloader
  obtain ⟨_, hopened⟩ := hm.opens
  have hkeeps := hopened.holds hloader (hfirst.holds hloader hown)
  have hview {openings : List Opening} (h : Moment.Opens config first openings m) :=
    Prod.mk.inj (h.escapingView hloader hown hfirst)
  have hflag {s t : State} (h : t.escapingView = s.escapingView) :
      t.session.autoescape = s.session.autoescape := (Prod.mk.inj h).2
  -- Whatever an operand imports, it gives the flag back before it is consulted.
  have hoperand (x : Expr) :
      (x.eval config (invoke config m.depth) m.state).2.session.autoescape =
        m.state.session.autoescape :=
    hflag ((hsteady.eval x m.depth).apply m.state)
  refine {
    counted := hm.opens
    running := fun h => (hview h).1
    flag := fun h => ?flag
    emits := fun h htask => ?emits
    marks := fun h htask => ?marks
    calls := fun hcalls => ?calls
    filtered := fun {_ _ arguments _ _ _ _} htask hrun => ?filtered
    enters := fun hfetch hstart => (Prod.mk.inj (hfetch.escapingView hloader hkeeps hstart)).2
    statement := fun {loop _ _} htask => ?statement
    operand := fun {x _} _ => hoperand x }
  case flag =>
    rw [(hview h).1]
    exact (hview h).2
  case emits => exact Stmt.exec_emit_of_flag ((hoperand _).trans (hview h).2) _
  case marks => exact Expr.eval_unary_of_flag _ ((hoperand _).trans (hview h).2)
  case calls =>
    cases hcalls
    rfl
  case filtered =>
    have hkept := ((hsteady.evalAll arguments m.depth).at m.state).of_run hrun
    exact hflag hkept
  case statement =>
    have hcode := hkeeps.task
    rw [htask] at hcode
    exact hflag (hsteady.exec hcode.1 m.depth loop m.state hkeeps.state)

/-! ## A badge on a page that is shown as it is -/

namespace Badge

def badge : Template := Template.build "badge.html" (some [.emit (.var "name")]) none []

/-- The first stretch ends with an error, the second one is around the badge. -/
def body : Body := [
  .attempt [.escaping false [.superBlock]],
  .escaping false [.includeTemplate "badge.html" false]]

def page : Template := Template.build "page.html" (some body) none []

/-- What is written in templates with this ending is escaped. -/
def config : Config :=
  { Config.basic with
    autoescape := .bySuffix [".html"] false
    loader := fun _ => .ok badge }

def own : Session := Session.start config (some "page.html")

/-- The root of the page starts. -/
def starts : Moment :=
  ⟨2, .code none body, .begin config page Table.empty (.stream none) (some own) (World.begin 0)⟩

/-- The error has been caught. -/
def caught : Moment :=
  ⟨2, .code none body.tail,
    ((Stmt.attempt [.escaping false [.superBlock]]).exec config (invoke config 2) none
      starts.state).2⟩

/-- The second stretch has been entered. -/
def plain : Moment :=
  ⟨2, .code none [.includeTemplate "badge.html" false], caught.state.setAutoescape false⟩

/-- The root of the badge starts. -/
def shown : Moment :=
  ⟨1, .code none badge.root,
    (Render.getTemplate config "badge.html" plain.state).2.beginFetched config "badge.html"
      .including⟩

theorem scopedEscaping_badge : Vocabulary.scopedEscaping.Template badge where
  root := ⟨⟨trivial, trivial⟩, trivial⟩
  setup _ hsetup := by cases hsetup
  blocks _ hentry := by cases hentry

theorem scopedEscaping_page : Vocabulary.scopedEscaping.Template page where
  root := ⟨⟨trivial, ⟨trivial, trivial, trivial⟩, trivial⟩, ⟨trivial, trivial, trivial⟩, trivial⟩
  setup _ hsetup := by cases hsetup
  blocks _ hentry := by cases hentry

theorem begins_starts :
    Moment.Begins config .scopedEscaping own (.root Table.empty) starts :=
  .template scopedEscaping_page (.root rfl)

/-- Escaping is off around the badge and on in it. -/
theorem opens_shown :
    Moment.Opens config starts [.template "badge.html", .escaping false] shown := by
  have hcaught : Moment.Opens config starts [] caught := .stay .begin (.next rfl)
  have hplain : Moment.Opens config starts [.escaping false] plain := hcaught.into .escaping
  have hfetch : Moment.Fetches config plain .including "badge.html" badge
      (Render.getTemplate config "badge.html" plain.state).2 := .including rfl
  exact hplain.into (.enters hfetch (.root rfl))

theorem escapingLaw_shown :
    Moment.EscapingLaw config own starts shown ∧ shown.state.session.autoescape = true := by
  have hloader (name : String) (t : Template) (ht : config.loader name = .ok t) :
      Vocabulary.scopedEscaping.Template t := by
    cases ht
    exact scopedEscaping_badge
  have hown : own.Made config .scopedEscaping := .started (some "page.html")
  have hlaw := escapingLaw hloader hown begins_starts opens_shown.later
  exact ⟨hlaw, (hlaw.flag opens_shown).trans (by decide)⟩

end Badge

end Templating
