import Templating.Render.Output
import Templating.Value.Instance

/-!
# Names and frames

Assignments bind names in the scope of the render; at the top level of a
template they are exported too.  A frame is a stretch of code whose bindings
end with it.
-/
namespace Templating
namespace Render

variable {α : Type}

/-- The value of a variable. -/
def lookup (name : String) : Render Value :=
  Action.read fun s => s.scope.lookup name

/-- Bind a name, and export it at the top level. -/
def assign (name : String) (v : Value) : Render Unit :=
  Action.modify fun s => s.assign name v

/-- Bind several names in turn. -/
def assignAll : List (String × Value) → Render Unit
  | [] => pure ()
  | (name, v) :: rest => do
    assign name v
    assignAll rest

/-- Take a value apart and bind the names of a binding to its parts, all of them
or none. -/
def assignBinding (config : Config) (binding : Binding) (v : Value) : Render Unit := do
  let values ← Action.ofExcept (binding.unpack config.unpacking v).toExcept
  assignAll (binding.names.zip values)

/-- Record a variable for importers, whatever the frame. -/
def exportVar (name : String) (v : Value) : Render Unit :=
  Action.modify fun s => s.exportVar name v

/-- Run an action in a frame of its own. -/
def withFrame (m : Render α) : Render α :=
  Action.bracket State.enterFrame State.leaveFrame m

/-- Turn escaping on or off. -/
def setAutoescape (enabled : Bool) : Render Unit :=
  Action.modify fun s => s.setAutoescape enabled

/-- Run an action with escaping on or off. -/
def withAutoescape (enabled : Bool) (m : Render α) : Render α :=
  Action.bracket (fun s => s.setAutoescape enabled) State.leaveEscaping m

/-- Capture what an action writes, put it through a filter and write the
result. -/
def filterBlock (config : Config) (filter : String) (arguments : List Value)
    (m : Render Unit) : Render Unit := do
  let captured ← withFrame (capture m)
  let filtered ← Action.ofExcept (config.callFilter filter (.markup ⟨captured⟩) arguments)
  write filtered.toText

/-- New instances for the loops and objects of a literal. -/
def instantiate (v : Value) : Render Value := fun s =>
  let renewed := v.renew s.world.nextInstance
  (.done renewed.1, { s with world := { s.world with nextInstance := renewed.2 } })

/-- The number of a new instance. -/
def newInstance : Render InstanceId := fun s =>
  (.done s.world.nextInstance,
    { s with world := { s.world with nextInstance := s.world.nextInstance + 1 } })

end Render
end Templating
