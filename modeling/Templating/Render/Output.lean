import Templating.Render.State

/-!
# Writing output

Every chunk goes through `write`.  A chunk that a stream takes is logged; a
captured one joins the captured text and is no event.  Template values are
written by `emit`, the one place where the policy on undefined values and the
escaping of the session meet the sink.
-/
namespace Templating
namespace Render

/-- Log something that happened. -/
def log (e : Event) : Render Unit :=
  Action.modify fun s => s.logged e

/-- Log a diagnostic notice. -/
def notify (n : Notice) : Render Unit :=
  log (.notice n)

/-- Write a chunk of text as it is. -/
def write (text : String) : Render Unit := fun s =>
  match s.sink with
  | .buffer captured => (.done (), { s with sink := .buffer (captured ++ text) })
  | .stream none => (.done (), s.logged (.output text))
  | .stream (some 0) => (.failed .output, s)
  | .stream (some (room + 1)) =>
    (.done (), { s with sink := .stream (some room) }.logged (.output text))

variable (config : Config)

/-- Under the strict policy an undefined value may not be used. -/
def refuseUndefined (v : Value) : Render Unit :=
  match v, config.undefinedPolicy with
  | .undefined name, .strict => Action.fail (.undefined name)
  | _, _ => pure ()

/-- Write a value, escaped if the session says so. -/
def emit (v : Value) : Render Unit := do
  refuseUndefined config v
  let autoescape ← Action.read fun s => s.session.autoescape
  write (v.finalize autoescape)

theorem emit_of_flag {flag : Bool} (v : Value) {s : State} (hflag : s.session.autoescape = flag) :
    emit config v s = (do
      refuseUndefined config v
      write (v.finalize flag)) s := by
  subst hflag
  unfold emit refuseUndefined
  split
  · rfl
  · rfl

/-- Run an action and yield the text it writes, which goes nowhere else. -/
def capture (m : Render Unit) : Render String :=
  Action.bracket State.enterCapture State.leaveCapture do
    m
    Action.read State.captured

end Render
end Templating
