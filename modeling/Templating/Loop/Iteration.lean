import Templating.Action
import Templating.Loop.Binding

/-!
# The iteration protocol

What a loop runs over is made into a sequence first, so its length is known
before the first element is visited.  Then the elements are visited in order:
each is taken apart along the binding, and the body is called with the loop's
context and the values taken out.  The loop stops at the first element that
cannot be taken apart, at the first error of the body, and where the body asks
it to stop.
-/
namespace Templating

/-- What a loop body asks for at its end. -/
inductive LoopStep where
  | goOn
  | stop
  deriving DecidableEq, Repr

/-- What is the same for all elements of a loop. -/
structure Iteration where
  /-- The number of elements. -/
  length : Nat
  /-- The loop around it, as the instance that its context will show. -/
  parent : Option (InstanceId × LoopContext)
  /-- How elements that do not fit their targets are treated. -/
  unpacking : Unpacking

namespace Iteration

variable {σ : Type}

/-- The elements a loop runs over.  An undefined value has none; a value that
cannot be iterated is an error. -/
def itemsOf (iterable : Value) : Except RenderError (List Value) :=
  match iterable with
  | .undefined _ => .ok []
  | _ =>
    match iterable.sequence? with
    | some items => .ok items
    | none => .error (.type "a list, map or string" iterable.typeName "iterating in a loop")

/-- The context of the element at `index0`. -/
def contextAt (it : Iteration) (index0 : Nat) : LoopContext :=
  .ofPosition index0 it.length it.parent

/-- Visit the elements that are left, the first of which stands at `index0`,
and count all the elements visited. -/
def visitFrom (it : Iteration) (binding : Binding)
    (body : LoopContext → List Value → Action σ LoopStep) : Nat → List Value → Action σ Nat
  | index0, [] => pure index0
  | index0, item :: rest => do
    let values ← Action.ofExcept (binding.unpack it.unpacking item).toExcept
    match ← body (it.contextAt index0) values with
    | .stop => pure (index0 + 1)
    | .goOn => visitFrom it binding body (index0 + 1) rest

/-- Visit the elements in order and count those visited. -/
def run (items : List Value) (parent : Option (InstanceId × LoopContext)) (unpacking : Unpacking)
    (binding : Binding) (body : LoopContext → List Value → Action σ LoopStep) : Action σ Nat :=
  visitFrom ⟨items.length, parent, unpacking⟩ binding body 0 items

end Iteration

/-- Run a loop over a value, or `empty` if there is an `empty` and the value has
no elements. -/
def iterate {σ : Type} (iterable : Value) (parent : Option (InstanceId × LoopContext))
    (binding : Binding) (body : LoopContext → List Value → Action σ LoopStep)
    (empty : Option (Action σ Unit)) : Action σ Unit := do
  let items ← Action.ofExcept (Iteration.itemsOf iterable)
  match items, empty with
  | [], some empty => empty
  | _, _ =>
    let _ ← Iteration.run items parent default binding body

end Templating
