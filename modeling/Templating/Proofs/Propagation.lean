import Templating.Proofs.Candidates
import Templating.Proofs.ActiveBlock

/-!
# Errors go outward

An error ends the action it arises in, and with that the one around it
(`Action.Fails`).  In terms of the moments of a render: if some code fails, the
code it was reached from fails with the same error, and so on outward, until there
is an `attempt` around the code.  All steps but the one into the body of an
`attempt` are of this kind (`Moment.Passes`, `passes_or_caught`), so a template
that is run for an optional reference is no different from any other code.

Where errors come from is listed in `Moment.Raises`: the sink, the policy on
undefined values, elements that cannot be taken apart, definitions of blocks that
are not there, templates that cannot be fetched, and filters, tests and methods.
No such error is lost at the moment at which it arises (`Raises.fails`), and none
is on its way out (`Passes.fails`).
-/
namespace Templating

open Relation (ReflTransGen)

/-! ## Actions that fail -/

namespace Action

variable {σ α β : Type} {m : Action σ α} {f : α → Action σ β} {error : RenderError}
variable {s t : σ} {a : α}

/-- An action ends with this error. -/
def Fails (m : Action σ α) (error : RenderError) (s : σ) : Prop :=
  (m s).1 = .failed error

namespace Fails

theorem of_run (h : m s = (.failed error, t)) : m.Fails error s :=
  congrArg Prod.fst h

theorem run (h : m.Fails error s) : m s = (.failed error, (m s).2) :=
  Prod.ext h rfl

/-- What fails first fails the whole. -/
theorem bind (h : m.Fails error s) : (m >>= f).Fails error s :=
  .of_run (bind_of_failed h.run)

theorem after (hm : m s = (.done a, t)) (h : (f a).Fails error t) : (m >>= f).Fails error s := by
  rw [Fails, bind_of_done hm]
  exact h

theorem bracket {enter : σ → σ} {leave : σ → σ → σ} (h : m.Fails error (enter s)) :
    (bracket enter leave m).Fails error s := h

theorem of_bind (h : (m >>= f).Fails error s) :
    m.Fails error s ∨ ∃ a t, m s = (.done a, t) ∧ (f a).Fails error t := by
  rw [Fails, bind_apply] at h
  rcases hm : m s with ⟨a | other | _, t⟩ <;> rw [hm] at h
  · exact .inr ⟨a, t, rfl, h⟩
  · cases h
    exact .inl (.of_run hm)
  · cases h

end Fails
end Action

/-! ## Operands -/

section
variable {config : Config} {invoke : Invoke} {error : RenderError} {s : State}

theorem not_fails_evalAll_nil : ¬ (Expr.evalAll config invoke []).Fails error s := nofun

theorem fails_evalAll_cons {x : Expr} {rest : List Expr}
    (h : (Expr.evalAll config invoke (x :: rest)).Fails error s) :
    (x.eval config invoke).Fails error s ∨ ∃ v t, x.eval config invoke s = (.done v, t) ∧
      (Expr.evalAll config invoke rest).Fails error t := by
  rw [Expr.evalAll] at h
  rcases h.of_bind with hx | ⟨v, t, hv, hrest⟩
  · exact .inl hx
  · rcases hrest.of_bind with hrest | ⟨values, u, -, hpure⟩
    · exact .inr ⟨v, t, hv, hrest⟩
    · cases hpure

theorem fails_evalAll_singleton {x : Expr} (h : (Expr.evalAll config invoke [x]).Fails error s) :
    (x.eval config invoke).Fails error s := by
  rcases fails_evalAll_cons h with hx | ⟨v, t, -, hnil⟩
  · exact hx
  · exact absurd hnil not_fails_evalAll_nil

/-- An expression fails if its operands do. -/
theorem Expr.fails_of_operands {x : Expr}
    (h : (Expr.evalAll config invoke x.operands).Fails error s) :
    (x.eval config invoke).Fails error s := by
  cases x with
  | var _ | literal _ | importTemplate _ => exact absurd h not_fails_evalAll_nil
  | unary op operand =>
    have hoperand : (operand.eval config invoke).Fails error s := fails_evalAll_singleton h
    exact hoperand.bind
  | binary op first second =>
    rcases fails_evalAll_cons h with hfirst | ⟨v, t, hv, hsecond⟩
    · exact hfirst.bind
    · exact .after hv (fails_evalAll_singleton hsecond).bind
  | call operand _ arguments | filter _ operand arguments | test _ operand arguments =>
    rcases fails_evalAll_cons h with hoperand | ⟨v, t, hv, harguments⟩
    · exact hoperand.bind
    · exact .after hv harguments.bind
  | list items =>
    have hitems : (Expr.evalAll config invoke items).Fails error s := h
    exact hitems.bind

/-- A statement fails if its operands do. -/
theorem Stmt.fails_of_operands {c : Stmt} (loop : Option LoopContext)
    (h : (Expr.evalAll config invoke c.operands).Fails error s) :
    (c.exec config invoke loop).Fails error s := by
  cases c with
  | emit x | assign _ x | assignBinding _ x | exportVar _ x | log x | forEach x _ _ _
  | forElse x _ _ _ =>
    have hx : (x.eval config invoke).Fails error s := fails_evalAll_singleton h
    exact hx.bind.bind
  | choose condition _ _ =>
    have hcondition : (condition.eval config invoke).Fails error s := fails_evalAll_singleton h
    exact hcondition.bind
  | filterBlock _ arguments _ =>
    have harguments : (Expr.evalAll config invoke arguments).Fails error s := h
    exact harguments.bind.bind
  | _ => exact absurd h not_fails_evalAll_nil

end

/-! ## Loops -/

/-- Visiting elements from a state on, one is reached that cannot be taken apart. -/
inductive Iteration.Stumbles (it : Iteration) (binding : Binding) (scope : Scope)
    (body : LoopContext → Render LoopStep) : Nat → List Value → State → RenderError → Prop
  | here {index0 item rest s error} :
      (binding.unpack it.unpacking item).toExcept = .error error →
      Stumbles it binding scope body index0 (item :: rest) s error
  | later {index0 item rest values s t u error} :
      (binding.unpack it.unpacking item).toExcept = .ok values →
      Render.beginIteration scope binding (it.contextAt index0) values s = (.done (), t) →
      body (it.contextAt index0) t = (.done .goOn, u) →
      Stumbles it binding scope body (index0 + 1) rest u error →
      Stumbles it binding scope body index0 (item :: rest) s error

/-- A loop over a value goes wrong by itself, and not in its body. -/
inductive Render.LoopBreaks (config : Config) (iterable : Value) (binding : Binding)
    (body : LoopContext → Render LoopStep) (s : State) : RenderError → Prop
  | undefined {error} :
      (Render.refuseUndefined config iterable).Fails error s →
      LoopBreaks config iterable binding body s error
  | iterable {error} :
      Render.refuseUndefined config iterable s = (.done (), s) →
      Iteration.itemsOf iterable = .error error →
      LoopBreaks config iterable binding body s error
  | element {parent t items error} :
      Render.refuseUndefined config iterable s = (.done (), s) →
      Render.copyEnclosing s = (.done parent, t) →
      Iteration.itemsOf iterable = .ok items →
      Iteration.Stumbles ⟨items.length, parent, config.unpacking⟩ binding t.scope body 0 items
        t.enterFrame error →
      LoopBreaks config iterable binding body s error

section
variable {config : Config} {iterable : Value} {binding : Binding}
variable {body : LoopContext → Render LoopStep} {error : RenderError} {s t : State}

theorem fails_visitFrom_later {it : Iteration} {scope : Scope} {index0 : Nat} {item : Value}
    {rest values : List Value} {u : State}
    (hparts : (binding.unpack it.unpacking item).toExcept = .ok values)
    (hbegun : Render.beginIteration scope binding (it.contextAt index0) values s = (.done (), t))
    (hgo : body (it.contextAt index0) t = (.done .goOn, u))
    (h : (it.visitFrom binding (fun context values => do
      Render.beginIteration scope binding context values
      body context) (index0 + 1) rest).Fails error u) :
    (it.visitFrom binding (fun context values => do
      Render.beginIteration scope binding context values
      body context) index0 (item :: rest)).Fails error s := by
  rw [Iteration.visitFrom]
  have hfirst : (do
      Render.beginIteration scope binding (it.contextAt index0) values
      body (it.contextAt index0)) s = (.done .goOn, u) := by
    rw [Action.bind_of_done hbegun, hgo]
  exact .after (Action.ofExcept_of_ok hparts s) (.after hfirst h)

/-- Elements are visited in vain if an iteration fails. -/
theorem Iteration.Visits.fails {it : Iteration} {scope : Scope} {index0 : Nat} {items : List Value}
    {context : LoopContext} (hv : it.Visits binding scope body index0 items s context t)
    (h : (body context).Fails error t) :
    (it.visitFrom binding (fun context values => do
      Render.beginIteration scope binding context values
      body context) index0 items).Fails error s := by
  induction hv with
  | here hparts hbegun =>
    rw [Iteration.visitFrom]
    exact .after (Action.ofExcept_of_ok hparts _) (Action.Fails.bind (.after hbegun h))
  | later hparts hbegun hgo _ ih => exact fails_visitFrom_later hparts hbegun hgo (ih h)

theorem Iteration.Stumbles.fails {it : Iteration} {scope : Scope} {index0 : Nat}
    {items : List Value} (h : it.Stumbles binding scope body index0 items s error) :
    (it.visitFrom binding (fun context values => do
      Render.beginIteration scope binding context values
      body context) index0 items).Fails error s := by
  induction h with
  | @here index0 item rest s error hparts =>
    rw [Iteration.visitFrom, hparts]
    exact Action.Fails.bind rfl
  | later hparts hbegun hgo _ ih => exact fails_visitFrom_later hparts hbegun hgo ih

/-- A loop fails if its elements are visited in vain. -/
theorem fails_forLoop {parent : Option (InstanceId × LoopContext)} {items : List Value} {u : State}
    (hrefuse : Render.refuseUndefined config iterable s = (.done (), s))
    (hparent : Render.copyEnclosing s = (.done parent, u))
    (hitems : Iteration.itemsOf iterable = .ok items)
    (h : (Iteration.visitFrom ⟨items.length, parent, config.unpacking⟩ binding
      (fun context values => do
        Render.beginIteration u.scope binding context values
        body context) 0 items).Fails error u.enterFrame) :
    (Render.forLoop config iterable binding body).Fails error s := by
  have hscope : Action.read State.scope u = (.done u.scope, u) := rfl
  refine .after hrefuse (.after hparent (.after (Action.ofExcept_of_ok hitems u) ?_))
  exact .after hscope (Action.Fails.bind h.bracket)

theorem Render.Iterates.fails {context : LoopContext}
    (hrefuse : Render.refuseUndefined config iterable s = (.done (), s))
    (hi : Render.Iterates config iterable binding body s context t)
    (h : (body context).Fails error t) :
    (Render.forLoop config iterable binding body).Fails error s := by
  obtain ⟨parent, u, items, hparent, hitems, hvisits⟩ := hi
  exact fails_forLoop hrefuse hparent hitems (hvisits.fails h)

theorem Render.LoopBreaks.fails (h : Render.LoopBreaks config iterable binding body s error) :
    (Render.forLoop config iterable binding body).Fails error s := by
  cases h with
  | undefined hrefuse => exact hrefuse.bind
  | iterable hrefuse hitems =>
    have hcopied : ∃ parent t, Render.copyEnclosing s = (.done parent, t) := by
      rw [Render.copyEnclosing_apply]
      split <;> exact ⟨_, _, rfl⟩
    obtain ⟨parent, t, hparent⟩ := hcopied
    refine .after hrefuse (.after hparent (Action.Fails.bind ?_))
    rw [hitems]
    rfl
  | element hrefuse hparent hitems hstumbles =>
    exact fails_forLoop hrefuse hparent hitems hstumbles.fails

/-- A statement fails if its loop does. -/
theorem Stmt.fails_of_loop {invoke : Invoke} {c : Stmt} {x : Expr} {code : Body} {v : Value}
    (hloop : c.loop? = some (x, binding, code)) (loop : Option LoopContext)
    (hv : x.eval config invoke s = (.done v, t))
    (h : (Render.forLoop config v binding fun context =>
      asIteration (Stmt.execAll config invoke (some context) code)).Fails error t) :
    (c.exec config invoke loop).Fails error s := by
  cases c with
  | forEach _ _ _ _ | forElse _ _ _ _ =>
    cases hloop
    exact Action.Fails.bind (.after hv h.bind)
  | _ => cases hloop

end

/-! ## Other templates -/

section
variable {config : Config} {invoke : Invoke} {error : RenderError} {s u : State}

theorem fails_asTemplate {name : String} {reach : Reach} {α : Type} {m : Render α}
    (h : m.Fails error ((u.logged (.notice (.derivingSession u.session.template name
      reach))).enterDerived config name reach)) :
    (Render.asTemplate config name reach m).Fails error u := h

theorem fails_importTemplate {name : String} {t : Template}
    (hget : Render.getTemplate config (config.joinPath name s.session.template) s = (.done t, u))
    (h : (Render.runTemplate invoke t).Fails error
      (u.beginFetched config (config.joinPath name s.session.template) .importing)) :
    (Render.importTemplate config invoke name).Fails error s := by
  rw [Action.Fails, importTemplate_of_done rfl hget]
  dsimp only
  rw [h]
  rfl

/-- Nothing is imported if the template cannot be fetched. -/
theorem fails_importTemplate_of_fetch {name : String}
    (h : (Render.getTemplate config (config.joinPath name s.session.template)).Fails error s) :
    (Render.importTemplate config invoke name).Fails error s :=
  .after (Render.resolveName_of_joinPath rfl) h.bind

/-- The name a statement fetches, and whether it may pass over a missing
template. -/
def Stmt.fetches? (config : Config) (s : State) : Stmt → Option (String × Bool)
  | .extendTemplate name | .importAs name _ | .fromImport name _ =>
    some (config.joinPath name s.session.template, false)
  | .includeTemplate name ignoreMissing =>
    some (config.joinPath name s.session.template, ignoreMissing)
  | .registerTemplate name => some (name, false)
  | _ => none

/-- A statement fails if it cannot fetch the template it needs. -/
theorem Stmt.fails_of_fetch {c : Stmt} {name : String} {ignoreMissing : Bool}
    (hc : c.fetches? config s = some (name, ignoreMissing)) (loop : Option LoopContext)
    (hget : Render.getTemplate config name s = (.failed error, u))
    (herror : (ignoreMissing && error.isTemplateNotFound) = false) :
    (c.exec config invoke loop).Fails error s := by
  have hfetch : (Render.getTemplate config name).Fails error s := .of_run hget
  cases c with
  | extendTemplate reference =>
    cases hc
    exact Action.Fails.bind (.after (Render.resolveName_of_joinPath rfl) hfetch.bind)
  | importAs reference _ | fromImport reference _ =>
    cases hc
    exact Action.Fails.bind (fails_importTemplate_of_fetch hfetch).bind
  | includeTemplate reference _ =>
    cases hc
    refine Action.Fails.bind (.of_run (t := u) ?_)
    rw [includeTemplate_of_failed invoke ignoreMissing rfl hget, herror]
    rfl
  | registerTemplate _ =>
    cases hc
    exact Action.Fails.bind hfetch.bind
  | _ => cases hc

end

namespace Moment

variable (config : Config)

/-- What is about to be run ends with this error. -/
def Fails (m : Moment) (error : RenderError) : Prop :=
  match m.task with
  | .code loop body => (Stmt.execAll config (invoke config m.depth) loop body).Fails error m.state
  | .operands xs => (Expr.evalAll config (invoke config m.depth) xs).Fails error m.state

/-- Code begins whose errors are the errors of the code before it. -/
inductive Passes : Moment → Moment → Prop
  /-- A statement has ended, whichever it is, and the next one is due. -/
  | next {depth loop c rest s t} :
      c.exec config (invoke config depth) loop s = (.done .next, t) →
      Passes ⟨depth, .code loop (c :: rest), s⟩ ⟨depth, .code loop rest, t⟩
  | operands {depth loop c rest s} :
      Passes ⟨depth, .code loop (c :: rest), s⟩ ⟨depth, .operands c.operands, s⟩
  | leads {m m' : Moment} : Leads config m m' →
      (∀ loop body rest, m.task ≠ .code loop (.attempt body :: rest)) → Passes m m'
  | calls {m m' : Moment} : Calls m m' → Passes m m'
  | enters {m m' : Moment} : Enters config m m' → Passes m m'

/-- A body begins whose errors are caught. -/
inductive Caught : Moment → Moment → Prop
  | attempted {depth loop body rest s} :
      Caught ⟨depth, .code loop (.attempt body :: rest), s⟩ ⟨depth, .code loop body, s⟩

/-- An error arises at this moment. -/
inductive Raises : Moment → RenderError → Prop
  /-- The sink refuses a chunk. -/
  | write {depth loop text rest s} :
      s.sink = .stream (some 0) →
      Raises ⟨depth, .code loop (.write text :: rest), s⟩ .output
  /-- A value may not be written out, or the sink refuses its text. -/
  | emit {depth loop x rest s v t error} :
      x.eval config (invoke config depth) s = (.done v, t) →
      (Render.emit config v).Fails error t →
      Raises ⟨depth, .code loop (.emit x :: rest), s⟩ error
  /-- A value cannot be taken apart. -/
  | unpack {depth loop binding x rest s v t error} :
      x.eval config (invoke config depth) s = (.done v, t) →
      (binding.unpack config.unpacking v).toExcept = .error error →
      Raises ⟨depth, .code loop (.assignBinding binding x :: rest), s⟩ error
  /-- A loop goes wrong. -/
  | loop {depth loop c rest x binding body s v t error} :
      c.loop? = some (x, binding, body) →
      x.eval config (invoke config depth) s = (.done v, t) →
      Render.LoopBreaks config v binding (fun context =>
        asIteration (Stmt.execAll config (invoke config depth) (some context) body)) t error →
      Raises ⟨depth, .code loop (c :: rest), s⟩ error
  /-- There is no such definition of a block. -/
  | block {depth loop c rest s active cause} :
      c.asksFor s = some active →
      s.session.blocks.resolve active.name active.levelsUp = .error cause →
      Raises ⟨depth, .code loop (c :: rest), s⟩ (.lookup cause)
  | level {depth loop name level rest s} :
      levelsUpOfLevel level = none →
      Raises ⟨depth, .code loop (.blockLevel name level :: rest), s⟩
        (.lookup (.invalidBlockLevel name level))
  | outside {depth loop rest s} :
      s.block = none →
      Raises ⟨depth, .code loop (.superBlock :: rest), s⟩ (.lookup .notInBlock)
  /-- A template cannot be fetched, and it is not one that may be missing and is. -/
  | fetch {depth loop c rest s name ignoreMissing error t} :
      c.fetches? config s = some (name, ignoreMissing) →
      Render.getTemplate config name s = (.failed error, t) →
      (ignoreMissing && error.isTemplateNotFound) = false →
      Raises ⟨depth, .code loop (c :: rest), s⟩ error
  /-- A candidate cannot be fetched, and it is not missing. -/
  | candidate {depth loop references ignoreMissing rest s before name after t error u} :
      (references.map fun reference => config.joinPath reference s.session.template) =
        before ++ name :: after →
      Render.PassesOver config before s t →
      Render.getTemplate config name t = (.failed error, u) →
      error.isTemplateNotFound = false →
      (ignoreMissing = true → ∀ missing, error ≠ .lookup (.noTemplateSelected missing)) →
      Raises ⟨depth, .code loop (.includeFirstOf references ignoreMissing :: rest), s⟩ error
  /-- All candidates are missing, and they may not be. -/
  | candidates {depth loop references rest s candidates t} :
      candidates = (references.map fun reference =>
        config.joinPath reference s.session.template) →
      Render.PassesOver config candidates s t →
      Raises ⟨depth, .code loop (.includeFirstOf references false :: rest), s⟩
        (.lookup (.noTemplateSelected candidates))
  /-- The filter of a part reports an error. -/
  | filtered {depth loop filter arguments body rest s given t text u error} :
      Expr.evalAll config (invoke config depth) arguments s = (.done given, t) →
      Render.withFrame (Render.capture (asWhole
        (Stmt.execAll config (invoke config depth) none body))) t = (.done text, u) →
      config.callFilter filter (.markup ⟨text⟩) given = .error error →
      Raises ⟨depth, .code loop (.filterBlock filter arguments body :: rest), s⟩ error
  /-- The sink refuses what the filter has made of a part. -/
  | refiltered {depth loop filter arguments body rest s given t text u v} :
      Expr.evalAll config (invoke config depth) arguments s = (.done given, t) →
      Render.withFrame (Render.capture (asWhole
        (Stmt.execAll config (invoke config depth) none body))) t = (.done text, u) →
      config.callFilter filter (.markup ⟨text⟩) given = .ok v →
      u.sink = .stream (some 0) →
      Raises ⟨depth, .code loop (.filterBlock filter arguments body :: rest), s⟩ .output
  /-- A filter, a test or a method reports an error. -/
  | filter {depth name operand arguments rest s v t given u error} :
      operand.eval config (invoke config depth) s = (.done v, t) →
      Expr.evalAll config (invoke config depth) arguments t = (.done given, u) →
      config.callFilter name v given = .error error →
      Raises ⟨depth, .operands (.filter name operand arguments :: rest), s⟩ error
  | test {depth name operand arguments rest s v t given u error} :
      operand.eval config (invoke config depth) s = (.done v, t) →
      Expr.evalAll config (invoke config depth) arguments t = (.done given, u) →
      config.callTest name v given = .error error →
      Raises ⟨depth, .operands (.test name operand arguments :: rest), s⟩ error
  | method {depth receiver method arguments rest s v t given u error} :
      receiver.eval config (invoke config depth) s = (.done v, t) →
      Expr.evalAll config (invoke config depth) arguments t = (.done given, u) →
      v.callMethod method given = .error error →
      Raises ⟨depth, .operands (.call receiver method arguments :: rest), s⟩ error
  /-- A template cannot be imported. -/
  | imported {depth name rest s error t} :
      Render.getTemplate config (config.joinPath name s.session.template) s = (.failed error, t) →
      Raises ⟨depth, .operands (.importTemplate name :: rest), s⟩ error

variable {config} {m m' : Moment} {error : RenderError}

/-- Every step but one hands errors on. -/
theorem Step.passes_or_caught (h : Step config m m') : Passes config m m' ∨ Caught m m' := by
  rcases h with hleads | hcalls | henters
  · by_cases hattempt : ∃ loop body rest, m.task = .code loop (.attempt body :: rest)
    · obtain ⟨loop, body, rest, htask⟩ := hattempt
      cases hleads with
      | next hrun => exact .inl (.next hrun)
      | operands => exact .inl .operands
      | attempted => exact .inr .attempted
      | iteration hloop _ _ _ =>
        cases htask
        cases hloop
      | _ => cases htask
    · exact .inl (.leads hleads fun loop body rest htask => hattempt ⟨loop, body, rest, htask⟩)
  · exact .inl (.calls hcalls)
  · exact .inl (.enters henters)

/-- Code fails if its first statement does. -/
theorem fails_head {depth : Nat} {loop : Option LoopContext} {c : Stmt} {rest : List Stmt}
    {s : State}
    (h : (c.exec config (invoke config depth) loop).Fails error s) :
    Moment.Fails config ⟨depth, .code loop (c :: rest), s⟩ error := by
  show (Stmt.execAll config (invoke config depth) loop (c :: rest)).Fails error s
  rw [Stmt.execAll]
  exact h.bind

theorem fails_operand {depth : Nat} {x : Expr} {rest : List Expr} {s : State}
    (h : (x.eval config (invoke config depth)).Fails error s) :
    Moment.Fails config ⟨depth, .operands (x :: rest), s⟩ error := by
  show (Expr.evalAll config (invoke config depth) (x :: rest)).Fails error s
  rw [Expr.evalAll]
  exact h.bind

theorem fails_next {depth : Nat} {loop : Option LoopContext} {c : Stmt} {rest : List Stmt}
    {s t : State} (hrun : c.exec config (invoke config depth) loop s = (.done .next, t))
    (h : Moment.Fails config ⟨depth, .code loop rest, t⟩ error) :
    Moment.Fails config ⟨depth, .code loop (c :: rest), s⟩ error := by
  show (Stmt.execAll config (invoke config depth) loop (c :: rest)).Fails error s
  rw [Stmt.execAll]
  exact .after hrun h

theorem Leads.fails (hs : Leads config m m')
    (hattempt : ∀ loop body rest, m.task ≠ .code loop (.attempt body :: rest))
    (h : m'.Fails config error) : m.Fails config error := by
  cases hs with
  | next hrun => exact fails_next hrun h
  | operands => exact fails_head (Stmt.fails_of_operands _ h)
  | @nextOperand depth x rest s v t hrun =>
    show (Expr.evalAll config (invoke config depth) (x :: rest)).Fails error s
    rw [Expr.evalAll]
    exact .after hrun (Action.Fails.bind h)
  | innerOperands => exact fails_operand (Expr.fails_of_operands h)
  | frame => exact fails_head (Action.Fails.bracket h)
  | escaping => exact fails_head (Action.Fails.bracket h)
  | @branch depth loop condition yes no rest s v t hrun =>
    refine fails_head (.after hrun ?_)
    by_cases htrue : v.isTruthy = true
    · rw [if_pos htrue] at h ⊢
      exact h
    · rw [if_neg htrue] at h ⊢
      exact h
  | @iteration depth loop c rest x binding body s v t context u hloop hrun hrefuse hi =>
    have hbody : (Stmt.execAll config (invoke config depth) (some context) body).Fails error u := h
    exact fails_head (Stmt.fails_of_loop hloop loop hrun (hi.fails hrefuse hbody.bind))
  | @otherwise depth loop x binding body otherwise rest s v t u hrun hloop =>
    have hotherwise : (Stmt.execAll config (invoke config depth) none otherwise).Fails error
        u.enterFrame := h
    refine fails_head (Action.Fails.bind (.after hrun (.after hloop ?_)))
    rw [if_neg Bool.false_ne_true]
    exact Action.Fails.bracket hotherwise.bind
  | @filtered depth loop filter arguments body rest s given t hrun =>
    have hbody : (Stmt.execAll config (invoke config depth) none body).Fails error
        t.enterFrame.enterCapture := h
    have hcapture : (Render.capture (asWhole (Stmt.execAll config (invoke config depth) none
        body))).Fails error t.enterFrame := Action.Fails.bracket (hbody.bind.bind)
    exact fails_head (Action.Fails.bind (.after hrun hcapture.bracket.bind))
  | attempted => exact absurd rfl (hattempt _ _ _)

theorem Calls.fails (hs : Calls m m') (h : m'.Fails config error) : m.Fails config error := by
  cases hs with
  | @definition depth loop c rest active body s hc hbody =>
    have hcode : (Stmt.execAll config (invoke config depth) none body).Fails error _ := h
    have hblock : (Render.evaluateBlock (invoke config (depth + 1)) active.name
        active.levelsUp).Fails error s := by
      rw [Action.Fails, evaluateBlock_of_ok hbody]
      exact Action.Fails.bracket hcode.bind
    refine fails_head ?_
    rw [Action.Fails, exec_of_asksFor hc]
    exact hblock.bind

theorem Starts.fails {depth : Nat} {t : Template} {s : State} (hs : Starts config depth t s m)
    (h : m.Fails config error) : (Render.runTemplate (invoke config depth) t).Fails error s := by
  cases hs with
  | @setup depth t setup s hsetup =>
    have hcode : (Stmt.execAll config (invoke config depth) none setup).Fails error s := h
    refine Action.Fails.bind ?_
    rw [Render.runSetup, hsetup]
    exact hcode.bind
  | @root depth t s u hsetup =>
    have hcode : (Stmt.execAll config (invoke config depth) none t.root).Fails error u := h
    exact .after hsetup hcode.bind

/-- A template that was fetched hands its errors to what has fetched it, also if a
missing one would have been passed over. -/
theorem Fetches.fails {reach : Reach} {name : String} {t : Template} {u : State}
    (hs : Fetches config m reach name t u)
    (h : (Render.runTemplate (invoke config m.depth) t).Fails error
      (u.beginFetched config name reach)) : m.Fails config error := by
  cases hs with
  | extending hrun =>
    exact fails_head (Action.Fails.bind (.after (Render.resolveName_of_joinPath rfl) (.after hrun
      (fails_asTemplate h))))
  | including hrun =>
    exact fails_head (Action.Fails.bind (.after (Render.resolveName_of_joinPath rfl) (.after hrun
      (fails_asTemplate h))))
  | @includingFirst depth loop names ignoreMissing rest s resolved t u hrun =>
    refine fails_head (Action.Fails.bind ?_)
    rw [Action.Fails, includeFirstOf_of_found rfl (invoke config depth) ignoreMissing hrun]
    exact fails_asTemplate h
  | importingAs hrun => exact fails_head (Action.Fails.bind (fails_importTemplate hrun h).bind)
  | importingFrom hrun => exact fails_head (Action.Fails.bind (fails_importTemplate hrun h).bind)
  | importing hrun => exact fails_operand (fails_importTemplate hrun h)

/-- The step lemma: what fails inside fails outside. -/
theorem Passes.fails (hs : Passes config m m') (h : m'.Fails config error) :
    m.Fails config error := by
  cases hs with
  | next hrun => exact fails_next hrun h
  | operands => exact fails_head (Stmt.fails_of_operands _ h)
  | leads hleads hattempt => exact hleads.fails hattempt h
  | calls hcalls => exact hcalls.fails h
  | enters henters =>
    obtain ⟨reach, name, t, u, hfetch, hstart⟩ := henters
    exact hfetch.fails (hstart.fails h)

/-- The run lemma: an error goes all the way out. -/
theorem fails_of_passes (hs : ReflTransGen (Passes config) m m') (h : m'.Fails config error) :
    m.Fails config error := by
  induction hs using ReflTransGen.head_induction_on with
  | refl => exact h
  | head hfirst _ ih => exact hfirst.fails ih

/-- An error that arises fails the code at hand. -/
theorem Raises.fails (h : m.Raises config error) : m.Fails config error := by
  have hwrite {text : String} {s : State} (hsink : s.sink = .stream (some 0)) :
      (Render.write text).Fails .output s := by
    rw [Action.Fails, Render.write, hsink]
  have hfailed {α : Type} {e : Except RenderError α} {error : RenderError} {s : State}
      (he : e = .error error) : (Action.ofExcept e : Render α).Fails error s := by
    rw [he]
    rfl
  cases h with
  | write hsink => exact fails_head (hwrite hsink).bind
  | emit hrun hemit => exact fails_head (Action.Fails.bind (.after hrun hemit))
  | unpack hrun hparts =>
    exact fails_head (Action.Fails.bind (.after hrun (hfailed hparts).bind))
  | loop hloop hrun hbreaks => exact fails_head (Stmt.fails_of_loop hloop _ hrun hbreaks.fails)
  | @block depth loop c rest s active cause hc hcause =>
    refine fails_head ?_
    rw [Action.Fails, exec_of_asksFor hc]
    exact Action.Fails.bind (.of_run (evaluateBlock_of_error hcause _))
  | @level depth loop name level rest s hlevel =>
    have hblock : (Render.evaluateBlockLevel (invoke config depth) name level).Fails
        (.lookup (.invalidBlockLevel name level)) s := by
      rw [Render.evaluateBlockLevel, hlevel]
      rfl
    exact fails_head hblock.bind
  | outside hblock => exact fails_head (Action.Fails.bind (.of_run (superBlock_of_none hblock _)))
  | fetch hc hget herror => exact fails_head (Stmt.fails_of_fetch hc _ hget herror)
  | candidate hsplit hbefore hget herror hother =>
    exact fails_head (Action.Fails.bind
      (.of_run (includeFirstOf_of_stopped rfl _ _ hsplit hbefore hget herror hother)))
  | candidates hcandidates hpasses =>
    exact fails_head (Action.Fails.bind
      (.of_run (includeFirstOf_of_missing hcandidates _ false hpasses)))
  | filtered hrun htext hfilter =>
    exact fails_head (Action.Fails.bind (.after hrun (.after htext (hfailed hfilter).bind)))
  | refiltered hrun htext hfilter hsink =>
    exact fails_head (Action.Fails.bind (.after hrun (.after htext
      (.after (Action.ofExcept_of_ok hfilter _) (hwrite hsink)))))
  | filter hrun hgiven hfilter =>
    exact fails_operand (.after hrun (.after hgiven (hfailed hfilter)))
  | test hrun hgiven htest =>
    exact fails_operand (.after hrun (.after hgiven (hfailed htest).bind))
  | method hrun hgiven hmethod =>
    exact fails_operand (.after hrun (.after hgiven (hfailed hmethod)))
  | imported hget => exact fails_operand (fails_importTemplate_of_fetch (.of_run hget))

end Moment
end Templating
