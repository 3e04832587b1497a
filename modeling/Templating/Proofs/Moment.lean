import Mathlib.Logic.Relation
import Templating.Proofs.Course

/-!
# The moments of a render

Running code passes through moments: some code is about to be run, or some
operands are about to be evaluated, in some state, with some depth to go
(`Moment`).  Three relations say which moment may come after which.

* `Moment.Leads`: within the same body.  A statement has ended and the next one
  is due; or a statement begins its operands, its body, a branch or an iteration.
* `Moment.Calls`: a statement begins the definition of a block.
* `Moment.Enters`: a statement or an operand begins another template.

The first two stay in the session of the running template (`Moment.Inside`); all
three together are `Moment.Step`.  A moment that several steps lead to from the
start of a render is a moment of that render, whatever happens afterwards: a
step only asks for the code *before* it to have ended well.
-/
namespace Templating

open Relation (ReflTransGen)

/-- What is about to be run. -/
inductive Task where
  /-- Statements, in the loop around them in their body. -/
  | code (loop : Option LoopContext) (statements : List Stmt)
  | operands (expressions : List Expr)

/-- A point in the course of a render. -/
structure Moment where
  depth : Nat
  task : Task
  state : State

/-- The expressions that are evaluated first to evaluate this one, in order. -/
def Expr.operands : Expr → List Expr
  | .var _ | .literal _ | .importTemplate _ => []
  | .unary _ operand => [operand]
  | .binary _ first second => [first, second]
  | .call receiver _ arguments => receiver :: arguments
  | .filter _ operand arguments | .test _ operand arguments => operand :: arguments
  | .list items => items

/-- The expressions that are evaluated first to run a statement, in order. -/
def Stmt.operands : Stmt → List Expr
  | .emit x | .assign _ x | .assignBinding _ x | .exportVar _ x | .log x => [x]
  | .choose condition _ _ => [condition]
  | .forEach iterable _ _ _ | .forElse iterable _ _ _ => [iterable]
  | .filterBlock _ arguments _ => arguments
  | _ => []

/-- What a loop runs over, its binding and its body. -/
def Stmt.loop? : Stmt → Option (Expr × Binding × Body)
  | .forEach iterable binding body _ => some (iterable, binding, body)
  | .forElse iterable binding body _ => some (iterable, binding, body)
  | _ => none

/-- The definition of a block that a statement asks for. -/
def Stmt.asksFor (s : State) : Stmt → Option ActiveBlock
  | .block name levelsUp => some ⟨name, levelsUp⟩
  | .blockLevel name level => (levelsUpOfLevel level).map fun levelsUp => ⟨name, levelsUp⟩
  | .superBlock => s.block.map fun active => ⟨active.name, active.levelsUp + 1⟩
  | _ => none

/-- Visiting elements from a state on, an iteration begins with this context in
this state. -/
inductive Iteration.Visits (it : Iteration) (binding : Binding) (scope : Scope)
    (body : LoopContext → Render LoopStep) :
    Nat → List Value → State → LoopContext → State → Prop
  | here {index0 item rest values s t} :
      (binding.unpack it.unpacking item).toExcept = .ok values →
      Render.beginIteration scope binding (it.contextAt index0) values s = (.done (), t) →
      Visits it binding scope body index0 (item :: rest) s (it.contextAt index0) t
  | later {index0 item rest values s t u context v} :
      (binding.unpack it.unpacking item).toExcept = .ok values →
      Render.beginIteration scope binding (it.contextAt index0) values s = (.done (), t) →
      body (it.contextAt index0) t = (.done .goOn, u) →
      Visits it binding scope body (index0 + 1) rest u context v →
      Visits it binding scope body index0 (item :: rest) s context v

/-- A loop over a value, begun in a state, comes to an iteration with this
context in this state. -/
def Render.Iterates (config : Config) (iterable : Value) (binding : Binding)
    (body : LoopContext → Render LoopStep) (s : State) (context : LoopContext) (t : State) : Prop :=
  ∃ parent u items, Render.copyEnclosing s = (.done parent, u) ∧
    Iteration.itemsOf iterable = .ok items ∧
    Iteration.Visits ⟨items.length, parent, config.unpacking⟩ binding u.scope body 0 items
      u.enterFrame context t

namespace Moment

variable (config : Config)

/-- The next moment in the same body. -/
inductive Leads : Moment → Moment → Prop
  /-- A statement has ended and the next one is due. -/
  | next {depth loop c rest s t} :
      c.exec config (invoke config depth) loop s = (.done .next, t) →
      Leads ⟨depth, .code loop (c :: rest), s⟩ ⟨depth, .code loop rest, t⟩
  | operands {depth loop c rest s} :
      Leads ⟨depth, .code loop (c :: rest), s⟩ ⟨depth, .operands c.operands, s⟩
  /-- An operand has its value and the next one is due. -/
  | nextOperand {depth x rest s v t} :
      x.eval config (invoke config depth) s = (.done v, t) →
      Leads ⟨depth, .operands (x :: rest), s⟩ ⟨depth, .operands rest, t⟩
  | innerOperands {depth x rest s} :
      Leads ⟨depth, .operands (x :: rest), s⟩ ⟨depth, .operands x.operands, s⟩
  | frame {depth loop body rest s} :
      Leads ⟨depth, .code loop (.frame body :: rest), s⟩ ⟨depth, .code loop body, s.enterFrame⟩
  | escaping {depth loop enabled body rest s} :
      Leads ⟨depth, .code loop (.escaping enabled body :: rest), s⟩
        ⟨depth, .code loop body, s.setAutoescape enabled⟩
  | branch {depth loop condition yes no rest s v t} :
      condition.eval config (invoke config depth) s = (.done v, t) →
      Leads ⟨depth, .code loop (.choose condition yes no :: rest), s⟩
        ⟨depth, .code loop (if v.isTruthy then yes else no), t⟩
  | iteration {depth loop c rest iterable binding body s v t context u} :
      c.loop? = some (iterable, binding, body) →
      iterable.eval config (invoke config depth) s = (.done v, t) →
      Render.refuseUndefined config v t = (.done (), t) →
      Render.Iterates config v binding (fun context =>
        asIteration (Stmt.execAll config (invoke config depth) (some context) body)) t context u →
      Leads ⟨depth, .code loop (c :: rest), s⟩ ⟨depth, .code (some context) body, u⟩
  | otherwise {depth loop iterable binding body otherwise rest s v t u} :
      iterable.eval config (invoke config depth) s = (.done v, t) →
      Render.forLoop config v binding (fun context =>
        asIteration (Stmt.execAll config (invoke config depth) (some context) body)) t =
          (.done false, u) →
      Leads ⟨depth, .code loop (.forElse iterable binding body otherwise :: rest), s⟩
        ⟨depth, .code none otherwise, u.enterFrame⟩
  | filtered {depth loop filter arguments body rest s given t} :
      Expr.evalAll config (invoke config depth) arguments s = (.done given, t) →
      Leads ⟨depth, .code loop (.filterBlock filter arguments body :: rest), s⟩
        ⟨depth, .code none body, t.enterFrame.enterCapture⟩
  | attempted {depth loop body rest s} :
      Leads ⟨depth, .code loop (.attempt body :: rest), s⟩ ⟨depth, .code loop body, s⟩

/-- The moment at which the definition begins that a statement asks for. -/
inductive Calls : Moment → Moment → Prop
  | definition {depth loop c rest active body s} :
      c.asksFor s = some active →
      s.session.blocks.resolve active.name active.levelsUp = .ok body →
      Calls ⟨depth + 1, .code loop (c :: rest), s⟩
        ⟨depth, .code none body, State.enterBlock active (s.logged (.notice
          (.resolvedBlock active.name active.levelsUp (s.session.blocks.depth active.name))))⟩

/-- A moment later on in the session of the running template. -/
abbrev Inside (m m' : Moment) : Prop :=
  ReflTransGen (fun m m' => Leads config m m' ∨ Calls m m') m m'

/-- A statement or an operand has fetched another template. -/
inductive Fetches : Moment → Reach → String → Template → State → Prop
  | extending {depth loop name rest s t u} :
      Render.getTemplate config (config.joinPath name s.session.template) s = (.done t, u) →
      Fetches ⟨depth, .code loop (.extendTemplate name :: rest), s⟩ .extending
        (config.joinPath name s.session.template) t u
  | including {depth loop name ignoreMissing rest s t u} :
      Render.getOptional config (config.joinPath name s.session.template) ignoreMissing s =
        (.done (some t), u) →
      Fetches ⟨depth, .code loop (.includeTemplate name ignoreMissing :: rest), s⟩ .including
        (config.joinPath name s.session.template) t u
  | includingFirst {depth loop names ignoreMissing rest s resolved t u} :
      Render.selectOptional config (names.map fun name => config.joinPath name s.session.template)
        ignoreMissing s = (.done (some (resolved, t)), u) →
      Fetches ⟨depth, .code loop (.includeFirstOf names ignoreMissing :: rest), s⟩ .including
        resolved t u
  | importingAs {depth loop name target rest s t u} :
      Render.getTemplate config (config.joinPath name s.session.template) s = (.done t, u) →
      Fetches ⟨depth, .code loop (.importAs name target :: rest), s⟩ .importing
        (config.joinPath name s.session.template) t u
  | importingFrom {depth loop name items rest s t u} :
      Render.getTemplate config (config.joinPath name s.session.template) s = (.done t, u) →
      Fetches ⟨depth, .code loop (.fromImport name items :: rest), s⟩ .importing
        (config.joinPath name s.session.template) t u
  | importing {depth name rest s t u} :
      Render.getTemplate config (config.joinPath name s.session.template) s = (.done t, u) →
      Fetches ⟨depth, .operands (.importTemplate name :: rest), s⟩ .importing
        (config.joinPath name s.session.template) t u

end Moment

/-- The state in which the render of a template begins. -/
def State.begin (config : Config) (t : Template) (context : Context) (sink : Sink)
    (session : Option Session) (world : World) : State :=
  let own := session.getD (Session.start config (some t.name))
  ((State.start own (.root context) sink world).logged (.began t.name)).logged
    (.notice (.renderingTemplate own.autoescape))

theorem evaluateTemplate_eq (config : Config) (depth : Nat) (t : Template) (context : Context)
    (sink : Sink) (session : Option Session) (world : World) :
    config.evaluateTemplate depth t context sink session world =
      let run := Render.runTemplate (invoke config depth) t
        (State.begin config t context sink session world)
      (run.1, run.2.logged .ended) := rfl

/-- The state in which a template begins that was fetched to be reached this
way. -/
def State.beginFetched (config : Config) (name : String) (reach : Reach) (s : State) : State :=
  let begun :=
    (s.logged (.notice (.derivingSession s.session.template name reach))).enterDerived config name
      reach
  match reach with
  | .extending | .including => begun
  | .importing => begun.enterCapture

namespace Moment

variable (config : Config)

/-- The moments at which the parts of a template start that begins in a state:
its own setup, and its root. -/
inductive Starts : Nat → Template → State → Moment → Prop
  | setup {depth t setup s} : t.setup = some setup →
      Starts (depth + 1) t s ⟨depth, .code none setup, s⟩
  | root {depth t s u} :
      Render.runSetup (invoke config (depth + 1)) t s = (.done (), u) →
      Starts (depth + 1) t s ⟨depth, .code none t.root, u⟩

/-- The moment at which another template begins. -/
def Enters (m m' : Moment) : Prop :=
  ∃ reach name t u, Fetches config m reach name t u ∧
    Starts config m.depth t (u.beginFetched config name reach) m'

/-- The next moment. -/
def Step (m m' : Moment) : Prop :=
  Leads config m m' ∨ Calls m m' ∨ Enters config m m'

/-- A moment later on, here or in another template. -/
abbrev Later (m m' : Moment) : Prop := ReflTransGen (Step config) m m'

end Moment

/-- The state in which the code of a moment ends, however it ends. -/
def Moment.ended (config : Config) (m : Moment) : State :=
  match m.task with
  | .code loop body => (Stmt.execAll config (invoke config m.depth) loop body m.state).2
  | .operands xs => (Expr.evalAll config (invoke config m.depth) xs m.state).2

/-! ## What holds at every moment -/

/-- The code that is about to be run is of the vocabulary. -/
def Task.Of (V : Vocabulary) : Task → Prop
  | .code _ statements => V.Code statements
  | .operands expressions => Expr.EveryOf V.expr expressions

/-- What holds of a run holds of this moment of it. -/
structure Moment.Holds (C : Course) (V : Vocabulary) (m : Moment) : Prop where
  state : C.Inv m.state
  task : m.task.Of V

section
variable {V : Vocabulary} {x : Expr} {c : Stmt}

theorem Expr.Every.operands (hx : x.Every V.expr) : Expr.EveryOf V.expr x.operands := by
  cases x with
  | var _ | literal _ | importTemplate _ => trivial
  | unary _ _ => exact ⟨hx.2, trivial⟩
  | binary _ _ _ => exact ⟨hx.2.1, hx.2.2, trivial⟩
  | call _ _ _ | filter _ _ _ | test _ _ _ | list _ => exact hx.2

theorem Stmt.Every.operands (hc : c.Every V.stmt V.expr) : Expr.EveryOf V.expr c.operands := by
  cases c with
  | emit _ | assign _ _ | assignBinding _ _ | exportVar _ _ | log _ => exact ⟨hc.2, trivial⟩
  | choose _ _ _ | forEach _ _ _ _ | forElse _ _ _ _ => exact ⟨hc.2.1, trivial⟩
  | filterBlock _ _ _ => exact hc.2.1
  | _ => trivial

theorem Stmt.Every.loop {iterable : Expr} {binding : Binding} {body : Body}
    (hc : c.Every V.stmt V.expr) (hloop : c.loop? = some (iterable, binding, body)) :
    iterable.Every V.expr ∧ V.Code body := by
  cases c <;> cases hloop
  · exact hc.2
  · exact ⟨hc.2.1, hc.2.2.1⟩

end

namespace Course.Sound

variable {C : Course} {V : Vocabulary} {config : Config}
variable (h : C.Sound V config) (hV : V.Closed config)
include h hV

theorem begins {it : Iteration} (hit : it.unpacking = config.unpacking) {binding : Binding}
    {begun s t : State} {item : Value} {values : List Value} {context : LoopContext}
    (hbegun : C.Inv begun) (hs : C.Inv s) (hitem : V.value item)
    (hvalues : (binding.unpack it.unpacking item).toExcept = .ok values)
    (ht : Render.beginIteration begun.scope binding context values s = (.done (), t)) :
    C.To s t := by
  rw [hit] at hvalues
  have halike := h.pairing.beginIteration hV ⟨rfl, hbegun⟩ binding context
    (hV.unpacked hitem hvalues)
  exact (done_of_alike halike hs ht).1

theorem visits {it : Iteration} (hit : it.unpacking = config.unpacking) {binding : Binding}
    {body : LoopContext → Render LoopStep}
    (hbody : ∀ context s, C.Inv s → C.To s (body context s).2)
    {begun : State} (hbegun : C.Inv begun) {index0 : Nat} {items : List Value} {s t : State}
    {context : LoopContext} (hv : it.Visits binding begun.scope body index0 items s context t)
    (hs : C.Inv s) (hitems : ∀ w ∈ items, V.value w) : C.To s t := by
  induction hv with
  | here hvalues ht =>
    exact h.begins hV hit hbegun hs (hitems _ (List.mem_cons_self ..)) hvalues ht
  | @later index0 _ _ _ _ _ _ _ _ hvalues ht hgo _ ih =>
    have hfirst := h.begins hV hit hbegun hs (hitems _ (List.mem_cons_self ..)) hvalues ht
    have hto := hbody (it.contextAt index0) _ (C.inv hs hfirst)
    rw [hgo] at hto
    -- The first iteration has ended well, and the others go on from there.
    have hnext := C.trans hfirst hto
    exact C.trans hnext (ih (C.inv hs hnext) fun w hw => hitems w (List.mem_cons_of_mem _ hw))

/-- An iteration begins in the frame of its loop. -/
theorem iterates {iterable : Value} (hiterable : V.value iterable) {binding : Binding}
    {body : LoopContext → Render LoopStep}
    (hbody : ∀ context s, C.Inv s → C.To s (body context s).2) {s t : State}
    {context : LoopContext} (hi : Render.Iterates config iterable binding body s context t)
    (hs : C.Inv s) : ∃ u, C.To s u ∧ C.To u.enterFrame t := by
  obtain ⟨parent, u, items, hparent, hitems, hvisits⟩ := hi
  obtain ⟨hto, -⟩ := done_of_alike h.pairing.copyEnclosing hs hparent
  have hu := C.inv hs hto
  exact ⟨u, hto, h.visits hV rfl hbody hu hvisits (h.frame u hu).1 fun w hw =>
    hV.items hiterable hitems w hw⟩

/-- The step lemma within a body. -/
theorem leads {m m' : Moment} (hm : m.Holds C V) (hs : Moment.Leads config m m') :
    m'.Holds C V := by
  obtain ⟨hinv, htask⟩ := hm
  cases hs with
  | @next depth loop _ _ _ _ hrun =>
    obtain ⟨hto, -⟩ := done_of_alike (h.exec hV htask.1 depth loop) hinv hrun
    exact ⟨C.inv hinv hto, htask.2⟩
  | operands => exact ⟨hinv, htask.1.operands⟩
  | @nextOperand depth _ _ _ _ _ hrun =>
    obtain ⟨hto, -⟩ := done_of_alike (h.eval hV htask.1 depth) hinv hrun
    exact ⟨C.inv hinv hto, htask.2⟩
  | innerOperands => exact ⟨hinv, htask.1.operands⟩
  | frame => exact ⟨(h.frame _ hinv).1, htask.1.2⟩
  | escaping => exact ⟨(h.escaping htask.1.1 _ hinv).1, htask.1.2⟩
  | @branch depth _ _ _ _ _ _ _ _ hrun =>
    obtain ⟨hto, -⟩ := done_of_alike (h.eval hV htask.1.2.1 depth) hinv hrun
    refine ⟨C.inv hinv hto, ?_⟩
    split
    · exact htask.1.2.2.1
    · exact htask.1.2.2.2
  | @iteration depth _ _ _ _ _ _ _ _ _ _ _ hloop hrun _ hi =>
    obtain ⟨hiterable, hbody⟩ := htask.1.loop hloop
    obtain ⟨hto, hv⟩ := done_of_alike (h.eval hV hiterable depth) hinv hrun
    have hinv' := C.inv hinv hto
    have hiteration (context : LoopContext) (s : State) (hs : C.Inv s) :=
      (of_alike (Pairing.Sound.asIteration (h.execAll hV hbody depth (some context))) hs).1
    obtain ⟨w, hw, hbegun⟩ := h.iterates hV hv hiteration hi hinv'
    exact ⟨C.inv (h.frame w (C.inv hinv' hw)).1 hbegun, hbody⟩
  | @otherwise depth _ _ _ _ _ _ _ _ _ _ hrun hloop =>
    obtain ⟨hto, hv⟩ := done_of_alike (h.eval hV htask.1.2.1 depth) hinv hrun
    have hinv' := C.inv hinv hto
    have hbody (context : LoopContext) :=
      Pairing.Sound.asIteration (h.execAll hV htask.1.2.2.1 depth (some context))
    obtain ⟨hto', -⟩ := done_of_alike (h.pairing.forLoop hV hv _ hbody) hinv' hloop
    exact ⟨(h.frame _ (C.inv hinv' hto')).1, htask.1.2.2.2⟩
  | @filtered depth _ _ _ _ _ _ _ _ hrun =>
    obtain ⟨hto, -⟩ := done_of_alike (h.evalAll hV htask.1.2.1 depth) hinv hrun
    exact ⟨(h.capture _ (h.frame _ (C.inv hinv hto)).1).1, htask.1.2.2⟩
  | attempted => exact ⟨hinv, htask.1.2⟩

omit hV in
/-- The step lemma into the definition of a block. -/
theorem calls {m m' : Moment} (hm : m.Holds C V) (hs : Moment.Calls m m') : m'.Holds C V := by
  obtain ⟨hinv, -⟩ := hm
  cases hs with
  | definition _ hbody =>
    exact ⟨(h.block _ _ (C.inv hinv (h.note hinv (e := .notice _) rfl))).1, h.defined hinv hbody⟩

omit hV in
/-- What is fetched is a template of the vocabulary. -/
theorem fetches {m : Moment} {reach : Reach} {name : String} {t : Template} {u : State}
    (hm : m.Holds C V) (hs : Moment.Fetches config m reach name t u) :
    C.Inv u ∧ V.Template t := by
  obtain ⟨hinv, -⟩ := hm
  have hget {s u : State} {name : String} {t : Template} (hs : C.Inv s)
      (hrun : Render.getTemplate config name s = (.done t, u)) : C.Inv u ∧ V.Template t := by
    obtain ⟨hto, ht⟩ := done_of_alike (h.fetch name) hs hrun
    exact ⟨C.inv hs hto, ht⟩
  cases hs with
  | extending hrun | importingAs hrun | importingFrom hrun | importing hrun =>
    exact hget hinv hrun
  | including hrun =>
    obtain ⟨hto, ht⟩ := done_of_alike
      (Pairing.Sound.getOptional h.fetch h.pairing.notify _ _) hinv hrun
    exact ⟨C.inv hinv hto, ht t rfl⟩
  | includingFirst hrun =>
    obtain ⟨hto, ht⟩ := done_of_alike
      (Pairing.Sound.selectOptional h.fetch h.pairing.notify _ _) hinv hrun
    exact ⟨C.inv hinv hto, ht _ t rfl⟩

omit hV in
theorem beginFetched {s : State} (hs : C.Inv s) (name : String) (reach : Reach) :
    C.Inv (s.beginFetched config name reach) := by
  have hnoted := C.inv hs (h.note hs (e := .notice (.derivingSession s.session.template name reach))
    rfl)
  have hbegun := (h.template name reach _ hnoted).1
  cases reach with
  | extending | including => exact hbegun
  | importing => exact (h.capture _ hbegun).1

/-- The parts of a template start in states of which the same holds. -/
theorem starts {depth : Nat} {t : Template} {s : State} {m : Moment} (hs : C.Inv s)
    (ht : V.Template t) (hm : Moment.Starts config depth t s m) : m.Holds C V := by
  cases hm with
  | setup hsetup => exact ⟨hs, ht.setup _ hsetup⟩
  | root hrun =>
    obtain ⟨hto, -⟩ := done_of_alike (h.pairing.runSetup (h.pairing.runs hV _) ht) hs hrun
    exact ⟨C.inv hs hto, ht.root⟩

/-- A whole render keeps the course in which its template begins. -/
theorem evaluateTemplate {t : Template} (ht : V.Template t) (depth : Nat) {context : Context}
    {sink : Sink} {session : Option Session} {world : World}
    (hbegun : C.Inv (State.begin config t context sink session world)) :
    C.To (State.begin config t context sink session world)
      (config.evaluateTemplate depth t context sink session world).2 := by
  rw [evaluateTemplate_eq]
  obtain ⟨hrun, -⟩ := of_alike (h.pairing.runTemplate (h.pairing.runs hV depth) ht) hbegun
  exact C.trans hrun (h.note (C.inv hbegun hrun) rfl)

/-- The step lemma: what holds at a moment holds at the next one. -/
theorem step {m m' : Moment} (hm : m.Holds C V) (hs : Moment.Step config m m') :
    m'.Holds C V := by
  rcases hs with hs | hs | ⟨reach, name, t, u, hfetch, hstart⟩
  · exact h.leads hV hm hs
  · exact h.calls hm hs
  · obtain ⟨hu, ht⟩ := h.fetches hm hfetch
    exact h.starts hV (h.beginFetched hu name reach) ht hstart

/-- What holds at a moment holds at every later one. -/
theorem later {m m' : Moment} (hm : m.Holds C V) (hs : Moment.Later config m m') :
    m'.Holds C V := by
  induction hs with
  | refl => exact hm
  | tail _ hs ih => exact h.step hV ih hs

end Course.Sound
end Templating
