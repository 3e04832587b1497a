import Templating.Loop.Iteration

/-!
# Observed loops

An observed loop notes what its body is given: the context, the values, some
fields of the context, and the value whose turn it is.  It can be told to fail
or to stop at a position.
-/
namespace Templating

/-- What an observed loop notes. -/
inductive Sighting where
  /-- The number of elements, and whether there is none. -/
  | length (count : Nat) (isEmpty : Bool)
  | element (context : LoopContext) (values : List Value)
  | field (name : String) (v : Value)
  | turn (v : Value)
  /-- There was no element. -/
  | empty

/-- What to note and when to end. -/
structure Observation where
  /-- The fields of the context to note. -/
  fields : List String
  /-- The values that take turns, if there are any. -/
  cycle : Option (List Value)
  failAt : Option Nat
  stopAt : Option Nat

namespace Observation

/-- Note something. -/
def note (sighting : Sighting) : Action (Array Sighting) Unit :=
  Action.modify fun seen => seen.push sighting

/-- Note fields of a context. -/
def noteFields (context : LoopContext) : List String → Action (Array Sighting) Unit
  | [] => pure ()
  | name :: rest => do
    note (.field name (context.attr name))
    noteFields context rest

/-- Note the value whose turn it is. -/
def noteTurn (context : LoopContext) : Option (List Value) → Action (Array Sighting) Unit
  | none => pure ()
  | some items => do
    let v ← Action.ofExcept (context.cycle items)
    note (.turn v)

/-- The body of an observed loop. -/
def body (o : Observation) (context : LoopContext) (values : List Value) :
    Action (Array Sighting) LoopStep := do
  note (.element context values)
  noteFields context o.fields
  noteTurn context o.cycle
  if o.failAt = some context.index0 then
    Action.fail (.filter "body" "asked to fail")
  else if o.stopAt = some context.index0 then return .stop
  else return .goOn

/-- What an observed loop does without elements. -/
def empty (succeeds : Bool) : Action (Array Sighting) Unit := do
  note .empty
  if succeeds then pure () else Action.fail (.filter "else" "asked to fail")

/-- Observe a loop and count the elements visited. -/
def run (o : Observation) (iterable : Value) (parent : Option (InstanceId × LoopContext))
    (unpacking : Unpacking) (binding : Binding) : Action (Array Sighting) Nat := do
  let items ← Action.ofExcept (Iteration.itemsOf iterable)
  note (.length items.length items.isEmpty)
  Iteration.run items parent unpacking binding o.body

end Observation
end Templating
