import Templating.Session.Basic

/-!
# The log of a render

Everything about a render that can be seen from outside goes into one log, in
the order in which it happens: the chunks that reach the sink, the calls of the
loader, the diagnostic notices, and what template code notes itself.
-/
namespace Templating

/-- How much a notice matters. -/
inductive Severity where
  | trace
  | debug
  | warn
  deriving DecidableEq, Repr

/-- The word for a severity. -/
def Severity.word : Severity → String
  | trace => "TRACE"
  | debug => "DEBUG"
  | warn => "WARN"

/-- A diagnostic message about the course of a render. -/
inductive Notice where
  | renderingTemplate (autoescape : Bool)
  | loadingTemplate (name : String)
  | templateCacheHit (name : String)
  | derivingSession (source : Option String) (target : String) (reach : Reach)
  | registeredBlock (name : String) (depth : Nat)
  | resolvedBlock (name : String) (levelsUp depth : Nat)
  | skippingInclude (name : String)
  | skippingIncludes (names : List String)
  deriving DecidableEq, Repr

namespace Notice

/-- How much the notice matters. -/
def severity : Notice → Severity
  | renderingTemplate .. => .debug
  | loadingTemplate .. => .debug
  | templateCacheHit .. => .trace
  | derivingSession .. => .debug
  | registeredBlock .. => .trace
  | resolvedBlock .. => .trace
  | skippingInclude .. => .warn
  | skippingIncludes .. => .warn

/-- The wording. -/
def message : Notice → String
  | renderingTemplate .. => "rendering template"
  | loadingTemplate .. => "loading template"
  | templateCacheHit .. => "template cache hit"
  | derivingSession .. => "deriving session"
  | registeredBlock .. => "registered block"
  | resolvedBlock .. => "resolved block"
  | skippingInclude .. => "skipping missing include"
  | skippingIncludes .. => "skipping missing include"

/-- The data of the notice, each after its name. -/
def fields : Notice → List (String × String)
  | renderingTemplate autoescape => [("autoescape", Summary.bool autoescape)]
  | loadingTemplate name => [("template", name)]
  | templateCacheHit name => [("template", name)]
  | derivingSession source target reach =>
    [("from", source.getD "<root>"), ("to", target), ("behavior", reach.word)]
  | registeredBlock name depth => [("block", name), ("depth", toString depth)]
  | resolvedBlock name levelsUp depth =>
    [("block", name), ("levels_up", toString levelsUp), ("depth", toString depth)]
  | skippingInclude name => [("template", name)]
  | skippingIncludes names => [("templates", Summary.texts names)]

end Notice

/-- What can be seen from a point in template code. -/
structure Probe where
  template : Option String
  isTopLevel : Bool
  depth : Nat
  visible : List String
  bindings : Table Value
  session : SessionView

/-- One thing that happened. -/
inductive Event where
  /-- The loader was asked for a name. -/
  | load (name : String)
  /-- The sink took a chunk. -/
  | output (chunk : String)
  | notice (n : Notice)
  /-- The render of a template began. -/
  | began (template : String)
  /-- The render of a template ended. -/
  | ended
  | noted (v : Value)
  | context (c : Option LoopContext)
  | probed (p : Probe)
  | summarized (text : String)
  /-- Template code caught an error. -/
  | caught (error : RenderError)

namespace Event

/-- The chunk that the sink took, if this is what happened. -/
def chunk? : Event → Option String
  | output chunk => some chunk
  | _ => none

/-- The name the loader was asked for, if this is what happened. -/
def loaded? : Event → Option String
  | load name => some name
  | _ => none

/-- Whether this is diagnostic output of the library itself. -/
def isDiagnostic : Event → Bool
  | notice _ => true
  | began _ => true
  | ended => true
  | _ => false

end Event
end Templating
