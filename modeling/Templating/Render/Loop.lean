import Templating.Render.Frame

/-!
# Loops in templates

A loop runs in a frame.  Each iteration starts from the scope in which the loop
began, with one new node that binds the loop's context to its name and the
targets to the parts of the element; a target of the same name hides the
context.  So nothing that one iteration binds is seen by the next.

The context of the loop around it is whatever the loop variable holds when the
loop begins.  The loop keeps a copy of it, a new instance that all its
iterations share.
-/
namespace Templating

/-- The name a loop's context is bound to. -/
def loopVariable : String := "loop"

namespace Render

variable (config : Config)

/-- A copy of the context that the loop variable holds, if it holds one. -/
def copyEnclosing : Render (Option (InstanceId × LoopContext)) := do
  match ← lookup loopVariable with
  | .loop _ context =>
    let id ← newInstance
    return some (id, context)
  | _ => return none

/-- The copy is a new instance of what the loop variable holds. -/
theorem copyEnclosing_apply (s : State) :
    copyEnclosing s =
      match s.scope.lookup loopVariable with
      | .loop _ context =>
        (.done (some (s.world.nextInstance, context)),
          { s with world := { s.world with nextInstance := s.world.nextInstance + 1 } })
      | _ => (.done none, s) := by
  rw [copyEnclosing, Action.bind_apply]
  dsimp only [lookup, Action.read]
  cases s.scope.lookup loopVariable <;> rfl

/-- Begin an iteration in the scope in which the loop began. -/
def beginIteration (scope : Scope) (binding : Binding) (context : LoopContext)
    (values : List Value) : Render Unit := do
  let id ← newInstance
  Action.modify fun s =>
    { s with
      scope := scope.bind ((loopVariable, .loop id context) :: binding.names.zip values) }

/-- Run a body for each element of a value.  Yields whether there was an
element. -/
def forLoop (iterable : Value) (binding : Binding) (body : LoopContext → Render LoopStep) :
    Render Bool := do
  refuseUndefined config iterable
  let parent ← copyEnclosing
  let items ← Action.ofExcept (Iteration.itemsOf iterable)
  let scope ← Action.read State.scope
  let visited ← withFrame <|
    Iteration.run items parent config.unpacking binding fun context values => do
      beginIteration scope binding context values
      body context
  return 0 < visited

/-- Run a body for each element of a value, or another one in a frame of its own
if there is no element. -/
def forLoopElse (iterable : Value) (binding : Binding) (body : LoopContext → Render LoopStep)
    (otherwise : Render Unit) : Render Unit := do
  if ← forLoop config iterable binding body then pure () else withFrame otherwise

end Render
end Templating
