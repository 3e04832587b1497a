import Templating.Render.Loop
import Templating.Render.Reach

/-!
# Running template code

Expressions and statements are run by recursion on the code.  Bodies that are
found at run time, in the block registry or in other templates, are not part of
the code at hand, so they are run by a function that is handed in.  `invoke`
ties the knot: at depth `n + 1` it runs a body and lets that body run others at
depth `n`.  At depth zero there is no answer, which is an outcome of its own
and never an error.

A body is run from its first statement on until one of them does not simply
end.  Frames, branches and caught stretches belong to the body around them;
loop bodies pass the end of an iteration to their loop; every other body is run
as a whole, and a loop outside of it is not its loop.
-/
namespace Templating

section Code

variable (config : Config) (invoke : Invoke)

mutual

/-- The value of an expression.  Operands are evaluated from left to right. -/
def Expr.eval : Expr → Render Value
  | .var name => Render.lookup name
  | .literal v => Render.instantiate v
  | .unary op operand => do
    let v ← operand.eval
    let autoescape ← Action.read fun s => s.session.autoescape
    return op.apply autoescape v
  | .binary op first second => do
    let v ← first.eval
    let w ← second.eval
    return op.apply v w
  | .call receiver method arguments => do
    let v ← receiver.eval
    let given ← Expr.evalAll arguments
    Action.ofExcept (v.callMethod method given)
  | .filter name operand arguments => do
    let v ← operand.eval
    let given ← Expr.evalAll arguments
    Action.ofExcept (config.callFilter name v given)
  | .test name operand arguments => do
    let v ← operand.eval
    let given ← Expr.evalAll arguments
    let answer ← Action.ofExcept (config.callTest name v given)
    return .bool answer
  | .list items => do
    let values ← Expr.evalAll items
    return .list values
  | .importTemplate name => Render.importTemplate config invoke name

/-- The values of several expressions. -/
def Expr.evalAll : List Expr → Render (List Value)
  | [] => return []
  | x :: rest => do
    let v ← x.eval
    let values ← Expr.evalAll rest
    return v :: values

end

/-- Run a body as a whole, whatever statement ended it. -/
def asWhole (m : Render Flow) : Render Unit := do
  let _ ← m
  return ()

/-- Run a body as one iteration of its loop. -/
def asIteration (m : Render Flow) : Render LoopStep := do
  let flow ← m
  return flow.toLoopStep

/-- Do something that ends simply. -/
def simply (m : Render Unit) : Render Flow := do
  m
  return .next

mutual

/-- Run a statement.  `loop` is the context of the loop around it in the body
at hand. -/
def Stmt.exec (loop : Option LoopContext) : Stmt → Render Flow
  | .write text => simply (Render.write text)
  | .emit x => simply do
    let v ← x.eval config invoke
    Render.emit config v
  | .assign name x => simply do
    let v ← x.eval config invoke
    Render.assign name v
  | .assignBinding binding x => simply do
    let v ← x.eval config invoke
    Render.assignBinding config binding v
  | .exportVar name x => simply do
    let v ← x.eval config invoke
    Render.exportVar name v
  | .frame body => Render.withFrame (Stmt.execAll loop body)
  | .escaping enabled body => Render.withAutoescape enabled (Stmt.execAll loop body)
  | .setEscaping enabled => simply (Render.setAutoescape enabled)
  | .choose condition yes no => do
    let v ← condition.eval config invoke
    if v.isTruthy then Stmt.execAll loop yes else Stmt.execAll loop no
  | .forEach iterable binding body visited => simply do
    let v ← iterable.eval config invoke
    let any ← Render.forLoop config v binding fun context =>
      asIteration (Stmt.execAll (some context) body)
    match visited with
    | some name => Render.assign name (.bool any)
    | none => pure ()
  | .forElse iterable binding body otherwise => simply do
    let v ← iterable.eval config invoke
    Render.forLoopElse config v binding
      (fun context => asIteration (Stmt.execAll (some context) body))
      (asWhole (Stmt.execAll none otherwise))
  | .breakLoop => return .breakLoop
  | .continueLoop => return .continueLoop
  | .block name levelsUp => simply (Render.evaluateBlock invoke name levelsUp)
  | .blockLevel name level => simply (Render.evaluateBlockLevel invoke name level)
  | .superBlock => simply (Render.superBlock invoke)
  | .extendTemplate name => simply (Render.extendTemplate config invoke name)
  | .includeTemplate name ignoreMissing =>
    simply (Render.includeTemplate config invoke name ignoreMissing)
  | .includeFirstOf names ignoreMissing =>
    simply (Render.includeFirstOf config invoke names ignoreMissing)
  | .importAs name target => simply do
    let imported ← Render.importTemplate config invoke name
    Render.assign target imported
  | .fromImport name items => simply (Render.fromImport config invoke name items)
  | .filterBlock filter arguments body => simply do
    let given ← Expr.evalAll config invoke arguments
    Render.filterBlock config filter given (asWhole (Stmt.execAll none body))
  | .registerBlock name body => simply (Render.registerBlock name body)
  | .registerTemplate name => simply do
    let t ← Render.getTemplate config name
    Render.registerBlocks t
  | .log x => simply do
    let v ← x.eval config invoke
    Render.log (.noted v)
  | .context => simply (Render.log (.context loop))
  | .probe => simply do
    let seen ← Action.read State.probe
    Render.log (.probed seen)
  | .summarize => simply do
    let text ← Action.read State.summary
    Render.log (.summarized text)
  | .attempt body => do
    match ← Action.attempt (Stmt.execAll loop body) with
    | .ok flow => return flow
    | .error error =>
      Render.log (.caught error)
      return .next

/-- Run statements one after another until one does not simply end. -/
def Stmt.execAll (loop : Option LoopContext) : List Stmt → Render Flow
  | [] => return .next
  | statement :: rest => do
    match ← statement.exec loop with
    | .next => Stmt.execAll loop rest
    | flow => return flow

end

end Code

/-- Run a body as a whole, letting bodies run others down to a depth. -/
def invoke (config : Config) : Nat → Invoke
  | 0, _ => Action.unfinished
  | depth + 1, body => asWhole (Stmt.execAll config (invoke config depth) none body)

end Templating
