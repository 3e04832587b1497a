import Templating.Action
import Templating.Event
import Templating.Scope

/-!
# The state of a render

A render works on a session, a scope, a count of open frames, the block it is
in, and a sink.  The log and the counter of instances belong to the world in
which all renders take place.

Template code runs inside situations: frames, blocks, other templates, parts
whose output is captured.  For each of them this module has a pair of functions
on states.  The first makes the state the inner code starts from.  The second
is given the state at that moment and the state the inner code has left, and
makes the state to go on with; it says exactly which parts of the inner state
survive.
-/
namespace Templating

/-- Where output goes. -/
inductive Sink where
  /-- To the log, chunk by chunk; if a number is given, the sink takes only that
  many more chunks. -/
  | stream (room : Option Nat)
  /-- Into a text that is kept apart. -/
  | buffer (text : String)
  deriving DecidableEq, Repr

/-- What outlives a render: the log and the counter of instances. -/
structure World where
  /-- What happened so far. -/
  log : Array Event
  /-- The number the next instance will have. -/
  nextInstance : InstanceId

/-- The world before anything happened. -/
def World.begin (nextInstance : InstanceId) : World := ⟨#[], nextInstance⟩

/-- The definition that is being run. -/
structure ActiveBlock where
  name : String
  levelsUp : Nat
  deriving DecidableEq, Repr

/-- Everything a running template can see and do. -/
structure State where
  session : Session
  scope : Scope
  /-- The number of open frames; at zero, assignments are exported. -/
  frames : Nat
  block : Option ActiveBlock
  sink : Sink
  world : World

/-- A part of a render: an action on its state. -/
abbrev Render := Action State

namespace State

/-- The state in which the render of a template begins. -/
def start (session : Session) (scope : Scope) (sink : Sink) (world : World) : State where
  session := session
  scope := scope
  frames := 0
  block := none
  sink := sink
  world := world

/-- Whether assignments are visible to importers. -/
def isTopLevel (s : State) : Bool := s.frames == 0

/-- The state after something happened. -/
def logged (s : State) (e : Event) : State :=
  { s with world := { s.world with log := s.world.log.push e } }

/-- The text captured so far, nothing if output is not being captured. -/
def captured (s : State) : String :=
  match s.sink with
  | .buffer text => text
  | .stream _ => ""

/-- Bind names in a new innermost node. -/
def bind (s : State) (bindings : List (String × Value)) : State :=
  { s with scope := s.scope.bind bindings }

/-- Bind a name, and export it at the top level. -/
def assign (s : State) (name : String) (v : Value) : State :=
  { s with
    session := if s.isTopLevel then s.session.exportVar name v else s.session
    scope := s.scope.bind [(name, v)] }

/-- Record a variable for importers. -/
def exportVar (s : State) (name : String) (v : Value) : State :=
  { s with session := s.session.exportVar name v }

/-- Turn escaping on or off. -/
def setAutoescape (s : State) (enabled : Bool) : State :=
  { s with session := { s.session with autoescape := enabled } }

/-- Open a frame. -/
def enterFrame (s : State) : State :=
  { s with frames := s.frames + 1 }

/-- Close a frame: its bindings end with it. -/
def leaveFrame (before after : State) : State :=
  { after with frames := after.frames - 1, scope := before.scope }

/-- Give escaping back the setting it had. -/
def leaveEscaping (before after : State) : State :=
  after.setAutoescape before.session.autoescape

/-- Begin the definition of a block: one frame deep, in the caller's session and
scope. -/
def enterBlock (block : ActiveBlock) (s : State) : State :=
  { s with frames := 1, block := some block }

/-- End the definition of a block. -/
def leaveBlock (before after : State) : State :=
  { after with scope := before.scope, frames := before.frames, block := before.block }

/-- Begin another template at its top level, in the caller's scope. -/
def enterTemplate (session : Session) (s : State) : State :=
  { s with session := session, frames := 0, block := none }

/-- End another template: of its session remains what was shared. -/
def leaveTemplate (reach : Reach) (before after : State) : State :=
  { after with
    session := before.session.rejoin reach after.session
    scope := before.scope
    frames := before.frames
    block := before.block }

/-- Capture output from here on. -/
def enterCapture (s : State) : State :=
  { s with sink := .buffer "" }

/-- Send output where it went before. -/
def leaveCapture (before after : State) : State :=
  { after with sink := before.sink }

/-- The summary of a state. -/
def summary (s : State) : String :=
  let blockSummary := s.block.map fun block =>
    Summary.record "ActiveBlock"
      [("name", Text.quoted block.name), ("levels_up", toString block.levelsUp)]
  Summary.openRecord "RuntimeState"
    [("template", Summary.option (s.session.template.map Text.quoted)),
      ("frames", toString s.frames), ("block", Summary.option blockSummary),
      ("vars", Summary.texts s.scope.names)]

/-- What can be seen from here. -/
def probe (s : State) : Probe where
  template := s.session.template
  isTopLevel := s.isTopLevel
  depth := s.scope.depth
  visible := s.scope.names
  bindings := s.scope.bindings
  session := s.session.view

end State
end Templating
