import Templating.Render.Evaluate

/-!
# Rendering with the fetching left open

Template code asks for templates in one way, `Render.getTemplate`.  To compare it
with other ways of fetching, this module runs code with a `Fetcher` in its place.
The functions here are those of the render, operation by operation, except that
every template comes from the fetcher; with the fetcher that is
`Render.getTemplate` they are the same (`Fetcher.exec_cached`).
-/
namespace Templating

/-- A way to come to the template of a name. -/
abbrev Fetcher := String → Render Template

namespace Fetcher

/-- Templates come from the cache if they are there, and from the loader if not. -/
def cached (config : Config) : Fetcher := Render.getTemplate config

section Operations

variable (fetch : Fetcher)

/-- The first of the names whose template can be found, with that template. -/
def selectFrom (all : List String) : List String → Render (String × Template)
  | [] => Action.fail (.lookup (.noTemplateSelected all))
  | name :: rest => do
    match ← Action.attempt (fetch name) with
    | .ok t => return (name, t)
    | .error error =>
      if error.isTemplateNotFound then selectFrom all rest else Action.fail error

/-- The first of several candidates that can be found. -/
def selectTemplate (names : List String) : Render (String × Template) :=
  selectFrom fetch names names

/-- The template of a name, or nothing if a missing one may be passed over. -/
def getOptional (name : String) (ignoreMissing : Bool) : Render (Option Template) := do
  match ← Action.attempt (fetch name) with
  | .ok t => return some t
  | .error error =>
    if ignoreMissing && error.isTemplateNotFound then
      Render.notify (.skippingInclude name)
      return none
    else Action.fail error

/-- The first of several candidates, or nothing if there may be none. -/
def selectOptional (names : List String) (ignoreMissing : Bool) :
    Render (Option (String × Template)) := do
  match ← Action.attempt (selectTemplate fetch names) with
  | .ok found => return some found
  | .error error =>
    match error, ignoreMissing with
    | .lookup (.noTemplateSelected _), true =>
      Render.notify (.skippingIncludes names)
      return none
    | _, _ => Action.fail error

variable (config : Config) (invoke : Invoke)

/-- Hand the render over to the template that the running one extends. -/
def extendTemplate (name : String) : Render Unit := do
  let resolved ← Render.resolveName config name
  let t ← fetch resolved
  Render.asTemplate config resolved .extending (Render.runTemplate invoke t)

/-- Render another template in this place. -/
def includeTemplate (name : String) (ignoreMissing : Bool) : Render Unit := do
  let resolved ← Render.resolveName config name
  match ← getOptional fetch resolved ignoreMissing with
  | some t => Render.asTemplate config resolved .including (Render.runTemplate invoke t)
  | none => pure ()

/-- Render the first of several templates that exists. -/
def includeFirstOf (names : List String) (ignoreMissing : Bool) : Render Unit := do
  let origin ← Action.read fun s => s.session.template
  let candidates := names.map fun name => config.joinPath name origin
  match ← selectOptional fetch candidates ignoreMissing with
  | some (resolved, t) =>
    Render.asTemplate config resolved .including (Render.runTemplate invoke t)
  | none => pure ()

/-- Render another template into a module of its exports and its output. -/
def importTemplate (name : String) : Render Value := do
  let resolved ← Render.resolveName config name
  let t ← fetch resolved
  Render.asTemplate config resolved .importing do
    let body ← Render.capture (Render.runTemplate invoke t)
    Action.read fun s => s.session.toModule resolved body

/-- Import a template and bind some of its exports. -/
def fromImport (name : String) (items : List (String × String)) : Render Unit := do
  let imported ← importTemplate fetch config invoke name
  Render.assignAll (items.map fun (exported, target) => (target, imported.attr exported))

end Operations

section Code

variable (fetch : Fetcher) (config : Config) (invoke : Invoke)

mutual

/-- The value of an expression. -/
def eval : Expr → Render Value
  | .var name => Render.lookup name
  | .literal v => Render.instantiate v
  | .unary op operand => do
    let v ← eval operand
    let autoescape ← Action.read fun s => s.session.autoescape
    return op.apply autoescape v
  | .binary op first second => do
    let v ← eval first
    let w ← eval second
    return op.apply v w
  | .call receiver method arguments => do
    let v ← eval receiver
    let given ← evalAll arguments
    Action.ofExcept (v.callMethod method given)
  | .filter name operand arguments => do
    let v ← eval operand
    let given ← evalAll arguments
    Action.ofExcept (config.callFilter name v given)
  | .test name operand arguments => do
    let v ← eval operand
    let given ← evalAll arguments
    let answer ← Action.ofExcept (config.callTest name v given)
    return .bool answer
  | .list items => do
    let values ← evalAll items
    return .list values
  | .importTemplate name => importTemplate fetch config invoke name

/-- The values of several expressions. -/
def evalAll : List Expr → Render (List Value)
  | [] => return []
  | x :: rest => do
    let v ← eval x
    let values ← evalAll rest
    return v :: values

end

/-- Run a body and note its error, if it ends with one. -/
def catching (m : Render Flow) : Render Flow := do
  match ← Action.attempt m with
  | .ok flow => return flow
  | .error error =>
    Render.log (.caught error)
    return .next

mutual

/-- Run a statement. -/
def exec (loop : Option LoopContext) : Stmt → Render Flow
  | .write text => simply (Render.write text)
  | .emit x => simply do
    let v ← eval fetch config invoke x
    Render.emit config v
  | .assign name x => simply do
    let v ← eval fetch config invoke x
    Render.assign name v
  | .assignBinding binding x => simply do
    let v ← eval fetch config invoke x
    Render.assignBinding config binding v
  | .exportVar name x => simply do
    let v ← eval fetch config invoke x
    Render.exportVar name v
  | .frame body => Render.withFrame (execAll loop body)
  | .escaping enabled body => Render.withAutoescape enabled (execAll loop body)
  | .setEscaping enabled => simply (Render.setAutoescape enabled)
  | .choose condition yes no => do
    let v ← eval fetch config invoke condition
    if v.isTruthy then execAll loop yes else execAll loop no
  | .forEach iterable binding body visited => simply do
    let v ← eval fetch config invoke iterable
    let any ← Render.forLoop config v binding fun context =>
      asIteration (execAll (some context) body)
    match visited with
    | some name => Render.assign name (.bool any)
    | none => pure ()
  | .forElse iterable binding body otherwise => simply do
    let v ← eval fetch config invoke iterable
    Render.forLoopElse config v binding
      (fun context => asIteration (execAll (some context) body))
      (asWhole (execAll none otherwise))
  | .breakLoop => return .breakLoop
  | .continueLoop => return .continueLoop
  | .block name levelsUp => simply (Render.evaluateBlock invoke name levelsUp)
  | .blockLevel name level => simply (Render.evaluateBlockLevel invoke name level)
  | .superBlock => simply (Render.superBlock invoke)
  | .extendTemplate name => simply (extendTemplate fetch config invoke name)
  | .includeTemplate name ignoreMissing =>
    simply (includeTemplate fetch config invoke name ignoreMissing)
  | .includeFirstOf names ignoreMissing =>
    simply (includeFirstOf fetch config invoke names ignoreMissing)
  | .importAs name target => simply do
    let imported ← importTemplate fetch config invoke name
    Render.assign target imported
  | .fromImport name items => simply (fromImport fetch config invoke name items)
  | .filterBlock filter arguments body => simply do
    let given ← evalAll fetch config invoke arguments
    Render.filterBlock config filter given (asWhole (execAll none body))
  | .registerBlock name body => simply (Render.registerBlock name body)
  | .registerTemplate name => simply do
    let t ← fetch name
    Render.registerBlocks t
  | .log x => simply do
    let v ← eval fetch config invoke x
    Render.log (.noted v)
  | .context => simply (Render.log (.context loop))
  | .probe => simply do
    let seen ← Action.read State.probe
    Render.log (.probed seen)
  | .summarize => simply do
    let text ← Action.read State.summary
    Render.log (.summarized text)
  | .attempt body => catching (execAll loop body)

/-- Run statements one after another until one does not simply end. -/
def execAll (loop : Option LoopContext) : List Stmt → Render Flow
  | [] => return .next
  | statement :: rest => do
    match ← exec loop statement with
    | .next => execAll loop rest
    | flow => return flow

end

end Code

variable (fetch : Fetcher) (config : Config)

/-- Run a body as a whole, letting bodies run others down to a depth. -/
def invoke : Nat → Invoke
  | 0, _ => Action.unfinished
  | depth + 1, body => asWhole (execAll fetch config (invoke depth) none body)

/-- Render a template into a sink, in the session given. -/
def evaluateTemplate (depth : Nat) (t : Template) (context : Context) (sink : Sink)
    (session : Session) (world : World) : Outcome Unit × State :=
  let begun := State.start session (.root context) sink world
  let begun := begun.logged (.began t.name)
  let begun := begun.logged (.notice (.renderingTemplate session.autoescape))
  let (outcome, ended) := Render.runTemplate (invoke fetch config depth) t begun
  (outcome, ended.logged .ended)

/-! ## Fetching as the render does -/

section
variable (config : Config) (run : Invoke)

theorem selectFrom_cached (all : List String) : ∀ names : List String,
    selectFrom (cached config) all names = Render.selectFrom config all names
  | [] => rfl
  | name :: rest => by
    simp only [selectFrom, Render.selectFrom, selectFrom_cached all rest]
    rfl

theorem selectOptional_cached (names : List String) (ignoreMissing : Bool) :
    selectOptional (cached config) names ignoreMissing =
      Render.selectOptional config names ignoreMissing := by
  simp only [selectOptional, selectTemplate, selectFrom_cached]
  rfl

theorem includeFirstOf_cached (names : List String) (ignoreMissing : Bool) :
    includeFirstOf (cached config) config run names ignoreMissing =
      Render.includeFirstOf config run names ignoreMissing := by
  simp only [includeFirstOf, selectOptional_cached]
  rfl

mutual

theorem eval_cached : ∀ x : Expr, eval (cached config) config run x = x.eval config run
  | .var _ | .literal _ | .importTemplate _ => rfl
  | .unary _ operand => by simp only [eval, Expr.eval, eval_cached operand]
  | .binary _ first second => by
    simp only [eval, Expr.eval, eval_cached first, eval_cached second]
  | .call receiver _ arguments => by
    simp only [eval, Expr.eval, eval_cached receiver, evalAll_cached arguments]
  | .filter _ operand arguments => by
    simp only [eval, Expr.eval, eval_cached operand, evalAll_cached arguments]
  | .test _ operand arguments => by
    simp only [eval, Expr.eval, eval_cached operand, evalAll_cached arguments]
  | .list items => by simp only [eval, Expr.eval, evalAll_cached items]

theorem evalAll_cached : ∀ xs : List Expr,
    evalAll (cached config) config run xs = Expr.evalAll config run xs
  | [] => rfl
  | x :: rest => by simp only [evalAll, Expr.evalAll, eval_cached x, evalAll_cached rest]

end

mutual

/-- With the cache in between, statements run as they do in the render. -/
theorem exec_cached : ∀ (c : Stmt) (loop : Option LoopContext),
    exec (cached config) config run loop c = c.exec config run loop
  | .write _, _ | .setEscaping _, _ | .breakLoop, _ | .continueLoop, _ | .block .., _
  | .blockLevel .., _ | .superBlock, _ | .extendTemplate _, _ | .includeTemplate .., _
  | .importAs .., _ | .fromImport .., _ | .registerBlock .., _ | .registerTemplate _, _
  | .context, _ | .probe, _ | .summarize, _ => rfl
  | .emit x, _ | .assign _ x, _ | .assignBinding _ x, _ | .exportVar _ x, _ | .log x, _ => by
    simp only [exec, Stmt.exec, eval_cached config run x]
  | .frame body, loop | .escaping _ body, loop => by
    simp only [exec, Stmt.exec, execAll_cached body loop]
  | .attempt body, loop => by
    have hbody := execAll_cached body loop
    show catching (execAll (cached config) config run loop body) =
      catching (Stmt.execAll config run loop body)
    rw [hbody]
  | .choose condition yes no, loop => by
    simp only [exec, Stmt.exec, eval_cached config run condition, execAll_cached yes loop,
      execAll_cached no loop]
  | .forEach iterable _ body visited, _ => by
    cases visited <;>
      simp only [exec, Stmt.exec, eval_cached config run iterable, execAll_cached body]
  | .forElse iterable _ body otherwise, _ => by
    simp only [exec, Stmt.exec, eval_cached config run iterable, execAll_cached body,
      execAll_cached otherwise]
  | .includeFirstOf names ignoreMissing, _ => by
    simp only [exec, Stmt.exec, includeFirstOf_cached]
  | .filterBlock _ arguments body, _ => by
    simp only [exec, Stmt.exec, evalAll_cached config run arguments, execAll_cached body]

theorem execAll_cached : ∀ (body : List Stmt) (loop : Option LoopContext),
    execAll (cached config) config run loop body = Stmt.execAll config run loop body
  | [], _ => rfl
  | c :: rest, loop => by
    rw [execAll, Stmt.execAll, exec_cached c loop]
    refine bind_congr fun flow => ?_
    cases flow with
    | next => exact execAll_cached rest loop
    | breakLoop | continueLoop => rfl

end

end

theorem invoke_cached (config : Config) : ∀ depth : Nat,
    invoke (cached config) config depth = Templating.invoke config depth
  | 0 => rfl
  | depth + 1 => by
    funext body
    rw [invoke, Templating.invoke, invoke_cached config depth, execAll_cached]

theorem evaluateTemplate_cached (config : Config) (depth : Nat) (t : Template) (context : Context)
    (sink : Sink) (session : Session) (world : World) :
    evaluateTemplate (cached config) config depth t context sink session world =
      config.evaluateTemplate depth t context sink (some session) world := by
  unfold evaluateTemplate
  rw [invoke_cached]
  rfl

end Fetcher
end Templating
