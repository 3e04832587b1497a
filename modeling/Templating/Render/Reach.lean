import Templating.Render.Block
import Templating.Render.Fetch
import Templating.Render.Frame

/-!
# Reaching other templates

A template runs its setup, which by default registers its block definitions,
and then its root.  The running template reaches another one in one of three
ways.

* **Extending** hands the render over: the parent writes to the same sink and
  registers its definitions behind those already there.
* **Including** renders the other template in this place, with a registry of
  its own.
* **Importing** captures what the other template writes and yields it, together
  with what it exports, as a module.

In each case the other template starts at its own top level, in the scope of
the reference and in a session derived for it, and afterwards the running
template goes on as it was (`asTemplate`).
-/
namespace Templating
namespace Render

/-- Run the setup of a template: its own, or the registration of its blocks. -/
def runSetup (invoke : Invoke) (t : Template) : Render Unit :=
  match t.setup with
  | some setup => invoke setup
  | none => registerBlocks t

/-- Run the setup of a template and then its root. -/
def runTemplate (invoke : Invoke) (t : Template) : Render Unit := do
  runSetup invoke t
  invoke t.root

variable (config : Config)

/-- The session for a template that is reached from the running one. -/
def deriveSession (name : String) (reach : Reach) : Render Session := do
  let session ← Action.read State.session
  notify (.derivingSession session.template name reach)
  return session.derive config name reach

/-- Run an action as another template, in a session derived for it. -/
def asTemplate {α : Type} (name : String) (reach : Reach) (m : Render α) : Render α := do
  let session ← deriveSession config name reach
  Action.bracket (State.enterTemplate session) (State.leaveTemplate reach) m

/-- Hand the render over to the template that the running one extends. -/
def extendTemplate (invoke : Invoke) (name : String) : Render Unit := do
  let resolved ← resolveName config name
  let t ← getTemplate config resolved
  asTemplate config resolved .extending (runTemplate invoke t)

/-- Render another template in this place. -/
def includeTemplate (invoke : Invoke) (name : String) (ignoreMissing : Bool) : Render Unit := do
  let resolved ← resolveName config name
  match ← getOptional config resolved ignoreMissing with
  | some t => asTemplate config resolved .including (runTemplate invoke t)
  | none => pure ()

/-- Render the first of several templates that exists. -/
def includeFirstOf (invoke : Invoke) (names : List String) (ignoreMissing : Bool) :
    Render Unit := do
  let origin ← Action.read fun s => s.session.template
  let candidates := names.map fun name => config.joinPath name origin
  match ← selectOptional config candidates ignoreMissing with
  | some (resolved, t) => asTemplate config resolved .including (runTemplate invoke t)
  | none => pure ()

/-- Render another template into a module of its exports and its output. -/
def importTemplate (invoke : Invoke) (name : String) : Render Value := do
  let resolved ← resolveName config name
  let t ← getTemplate config resolved
  asTemplate config resolved .importing do
    let body ← capture (runTemplate invoke t)
    Action.read fun s => s.session.toModule resolved body

/-- Import a template and bind some of its exports, each under a name of its
own. -/
def fromImport (invoke : Invoke) (name : String) (items : List (String × String)) :
    Render Unit := do
  let imported ← importTemplate config invoke name
  assignAll (items.map fun (exported, target) => (target, imported.attr exported))

end Render
end Templating
