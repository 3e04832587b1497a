import Templating.Block.Registry
import Templating.Config.Basic
import Templating.Value.Summary

/-!
# Sessions

A session is what one template has for itself while it renders: its name,
whether escaping is on, the variables it exports, and the block registry and
template cache it works with.  A template reached from another one gets a
session derived from that of the other.  A derived session begins with no
exports and with the escaping its own name calls for.  It works with the cache
of the session it comes from; with the registry of that session only if its
template is extended.

What two sessions have in common is handed over when one is derived and handed
back when it ends.  `rejoin` is that second half: it takes back from a derived
session exactly what was lent to it.
-/
namespace Templating

/-- How a template is reached from another one. -/
inductive Reach where
  /-- It is the parent of the other. -/
  | extending
  /-- It renders in the place of the reference. -/
  | including
  /-- It renders into a module. -/
  | importing
  deriving DecidableEq, Repr

namespace Reach

/-- The word for a way to reach a template. -/
def word : Reach → String
  | extending => "extends"
  | including => "include"
  | importing => "import"

/-- Whether a template reached this way works with the registry of the one it is
reached from. -/
def sharesBlocks : Reach → Bool
  | extending => true
  | including => false
  | importing => false

end Reach

/-- What one template has for itself while it renders. -/
structure Session where
  /-- The name of the template, none for a render that has no name. -/
  template : Option String
  /-- Whether values are escaped when they are written. -/
  autoescape : Bool
  /-- The variables seen by importers. -/
  exports : Table Value
  /-- The block definitions it works with. -/
  blocks : BlockRegistry Body
  /-- The templates loaded so far, by the name that was asked for. -/
  cache : Table Template

namespace Session

/-- A session of its own for a render that begins. -/
def start (config : Config) (template : Option String) : Session where
  template := template
  autoescape := config.autoescape.initial template
  exports := Table.empty
  blocks := BlockRegistry.empty
  cache := Table.empty

/-- The session of a template reached from this one. -/
def derive (config : Config) (s : Session) (template : String) (reach : Reach) : Session where
  template := some template
  autoescape := config.autoescape.initial (some template)
  exports := Table.empty
  blocks := if reach.sharesBlocks then s.blocks else BlockRegistry.empty
  cache := s.cache

/-- The session after a derived one has ended. -/
def rejoin (s : Session) (reach : Reach) (derived : Session) : Session :=
  { s with
    blocks := if reach.sharesBlocks then derived.blocks else s.blocks
    cache := derived.cache }

/-- Record a variable for importers. -/
def exportVar (s : Session) (name : String) (v : Value) : Session :=
  { s with exports := s.exports.insert name v }

/-- The exports and an output as a module. -/
def toModule (s : Session) (name body : String) : Value :=
  .module name s.exports body

/-- Whether a template is in the cache. -/
def isCached (s : Session) (name : String) : Bool :=
  s.cache.contains name

/-- The summary of a session. -/
def summary (s : Session) : String :=
  Summary.openRecord "Session"
    [("template_name", Summary.option (s.template.map Text.quoted)),
      ("autoescape", Summary.bool s.autoescape), ("blocks", s.blocks.summary),
      ("cached_templates", toString s.cache.size),
      ("exports", Summary.table (Value.entrySummaries s.exports.row))]

end Session

/-- What a session shows of itself. -/
structure SessionView where
  template : Option String
  autoescape : Bool
  /-- The names of the blocks with the numbers of their definitions. -/
  blocks : List (String × Nat)
  exports : Table Value

/-- The view of a session. -/
def Session.view (s : Session) : SessionView where
  template := s.template
  autoescape := s.autoescape
  blocks := s.blocks.depths
  exports := s.exports

end Templating
