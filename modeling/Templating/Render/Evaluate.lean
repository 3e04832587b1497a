import Templating.Render.Exec

/-!
# Rendering templates

A render begins in a world, with a context of variables and a session, and ends
with an outcome and a state, which holds the session as the template has left
it.  Rendering to a text captures the output; rendering by name loads the
template first, in the session it is then rendered in.

Bodies may run others without end, so every entry point is given a depth.
`standardDepth` is enough for any template that ends within an ordinary call
stack.
-/
namespace Templating

/-- The variables a render starts from. -/
abbrev Context := Table Value

/-- A depth of nested bodies that is enough in practice. -/
def standardDepth : Nat := 1000000

namespace Outcome

variable {α β : Type}

/-- Apply a function to the value. -/
def map (f : α → β) : Outcome α → Outcome β
  | done a => done (f a)
  | failed error => failed error
  | unfinished => unfinished

end Outcome

namespace Config

variable (config : Config) (depth : Nat)

/-- Render a template into a sink, in the session given or in one of its own. -/
def evaluateTemplate (t : Template) (context : Context) (sink : Sink)
    (session : Option Session) (world : World) : Outcome Unit × State :=
  let session := session.getD (Session.start config (some t.name))
  let begun := State.start session (.root context) sink world
  let begun := begun.logged (.began t.name)
  let begun := begun.logged (.notice (.renderingTemplate session.autoescape))
  let (outcome, ended) := Render.runTemplate (invoke config depth) t begun
  (outcome, ended.logged .ended)

/-- Render a template to a text, in a session given or in one of its own. -/
def renderIn (session : Option Session) (t : Template) (context : Context) (world : World) :
    Outcome String × World :=
  let (outcome, ended) := config.evaluateTemplate depth t context (.buffer "") session world
  (outcome.map fun _ => ended.captured, ended.world)

/-- Render a template to a text. -/
def render (t : Template) (context : Context) (world : World) : Outcome String × World :=
  config.renderIn depth none t context world

/-- Load a template by its name and render it to a text. -/
def renderNamed (name : String) (context : Context) (world : World) : Outcome String × World :=
  let session := Session.start config (some name)
  let begun := State.start session (.root Table.empty) (.buffer "") world
  match Render.getTemplate config name begun with
  | (.done t, fetched) => config.renderIn depth (some fetched.session) t context fetched.world
  | (.failed error, fetched) => (.failed error, fetched.world)
  | (.unfinished, fetched) => (.unfinished, fetched.world)

end Config
end Templating
