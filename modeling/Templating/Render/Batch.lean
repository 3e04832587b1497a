import Templating.Render.Evaluate

/-!
# Batches of renders

A batch renders one template after another in one world.  Some of the renders
may share a session, which each of them finds as the one before has left it;
a render that fails does not keep the later ones from running.  The report of a
batch is everything that happened, with the result of each render after its
own events.
-/
namespace Templating

/-- What to render. -/
inductive Job where
  /-- A template looked up by name, to a text. -/
  | named (name : String)
  /-- A template at hand, to a text. -/
  | standalone (t : Template)
  /-- A template at hand, to a stream that takes a limited or an unlimited number
  of chunks, in the session of that number or in one of its own. -/
  | streamed (t : Template) (session : Option Nat) (limit : Option Nat)

/-- A part of the report of a batch. -/
inductive Report where
  | event (e : Event)
  /-- A render ended well, with its text unless it went to a stream. -/
  | done (text : Option String)
  | failed (error : RenderError)
  /-- A render needs more depth than it was given. -/
  | unfinished
  /-- The session a render took place in, as it was afterwards. -/
  | session (view : SessionView)

namespace Batch

/-- What is carried from one render to the next. -/
structure Progress where
  sessions : List Session
  nextInstance : InstanceId

/-- The report on how a render ended. -/
def reportOf (outcome : Outcome (Option String)) : Report :=
  match outcome with
  | .done text => .done text
  | .failed error => .failed error
  | .unfinished => .unfinished

/-- The report of one render. -/
def reports (outcome : Outcome (Option String)) (world : World) (session : Option Session) :
    List Report :=
  world.log.toList.map Report.event ++
    reportOf outcome :: (session.map fun s => Report.session s.view).toList

variable (config : Config) (depth : Nat)

/-- Do one job and report on it. -/
def perform (progress : Progress) (job : Job) (context : Context) : List Report × Progress :=
  let world := World.begin progress.nextInstance
  match job with
  | .named name =>
    let (outcome, world) := config.renderNamed depth name context world
    (reports (outcome.map some) world none,
      { progress with nextInstance := world.nextInstance })
  | .standalone t =>
    let (outcome, world) := config.render depth t context world
    (reports (outcome.map some) world none,
      { progress with nextInstance := world.nextInstance })
  | .streamed t index limit =>
    let session := index.bind fun i => progress.sessions[i]?
    let (outcome, ended) :=
      config.evaluateTemplate depth t context (.stream limit) session world
    let sessions :=
      match index with
      | some i => progress.sessions.set i ended.session
      | none => progress.sessions
    (reports (outcome.map fun _ => none) ended.world (session.map fun _ => ended.session),
      ⟨sessions, ended.world.nextInstance⟩)

/-- Do several jobs in turn, each with a context of its own. -/
def performAll (progress : Progress) : List (Job × Context) → List Report
  | [] => []
  | (job, context) :: rest =>
    let (report, progress) := perform config depth progress job context
    report ++ performAll progress rest

end Batch
end Templating
