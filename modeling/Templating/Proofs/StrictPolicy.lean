import Templating.Proofs.Refusals
import Templating.Proofs.Tightening

/-!
# What the strict policy changes

The strict policy refuses an undefined value that is written out or looped over.
A run that refuses nothing is the lenient run, in its outcome and in everything it
leaves behind.  A run that ends with a refusal has written the beginning of what
the lenient run writes, and the error names the undefined value that some statement
was given (`StrictnessLaw`, `strictnessLaw`).
-/
namespace Templating

/-- A run that began in this world raised no error about an undefined value: it
does not end with one, and none was caught on the way. -/
structure Unrefused {α : Type} (world : World) (run : Outcome α × State) : Prop where
  ended : ∀ name, run.1 ≠ .failed (.undefined name)
  caught : run.2.world.caughtRefusals = world.caughtRefusals

/-- A strict run from a state does what the lenient run does, or fails before. -/
structure OnlyStricter {α : Type} (begun : State) (strict lenient : Outcome α × State) :
    Prop where
  /-- If nothing is refused, the runs end alike and leave the same state. -/
  agree : Unrefused begun.world strict → lenient = strict
  /-- If the strict run ends with a refusal and has caught none, then the lenient
  run writes what the strict one has written, and more. -/
  cutShort : ∀ {name}, strict.1 = .failed (.undefined name) →
    strict.2.world.caughtRefusals = begun.world.caughtRefusals →
    ∃ chunks more, begun.Wrote chunks strict.2 ∧ begun.Wrote (chunks ++ more) lenient.2

/-- Runs that part only at a refusal. -/
theorem Tightens.onlyStricter {α : Type} {begun : State} {strict lenient : Outcome α × State}
    (h : Tightens begun strict lenient) : OnlyStricter begun strict lenient where
  agree hnone := by
    cases h.parting with
    | never heq => exact heq.symm
    | caught hlt => exact (Nat.ne_of_gt hlt hnone.caught).elim
    | @refused name _ hout _ => exact (hnone.ended name hout).elim
  cutShort {name} hfailed hcaught := by
    obtain ⟨chunks, hwrote⟩ := h.strictWrites
    cases h.parting with
    | never heq =>
      refine ⟨chunks, [], hwrote, ?_⟩
      rw [List.append_nil, ← heq]
      exact hwrote
    | caught hlt => exact (Nat.ne_of_gt hlt hcaught).elim
    | @refused _ more _ hmore => exact ⟨chunks, more, hwrote, hwrote.trans hmore⟩

/-- What the strict policy comes to, beside the lenient one. -/
structure StrictnessLaw (config : Config) : Prop where
  /-- Rendering a template, in a session of its own or in any other one. -/
  renders : ∀ depth t context sink session world,
    OnlyStricter (.begin config t context sink session world)
      ((config.under .strict).evaluateTemplate depth t context sink session world)
      ((config.under .lenient).evaluateTemplate depth t context sink session world)
  /-- Running code in any state. -/
  runs : ∀ depth loop body (s : State), OnlyStricter s
    (Stmt.execAll (config.under .strict) (invoke (config.under .strict) depth) loop body s)
    (Stmt.execAll (config.under .lenient) (invoke (config.under .lenient) depth) loop body s)
  /-- Rendering to a text. -/
  texts : ∀ depth session t context world,
    let strict := (config.under .strict).renderIn depth session t context world
    (∀ name, strict.1 ≠ .failed (.undefined name)) →
    strict.2.caughtRefusals = world.caughtRefusals →
    (config.under .lenient).renderIn depth session t context world = strict
  /-- Rendering to a text what the loader has under a name. -/
  named : ∀ depth name context world,
    let strict := (config.under .strict).renderNamed depth name context world
    (∀ other, strict.1 ≠ .failed (.undefined other)) →
    strict.2.caughtRefusals = world.caughtRefusals →
    (config.under .lenient).renderNamed depth name context world = strict
  /-- A statement that is given an undefined value to write out or to loop over
  refuses it. -/
  refuses : ∀ {depth loop} {c : Stmt} {x : Expr} {s t : State} {name}, c.needs? = some x →
    x.eval (config.under .strict) (invoke (config.under .strict) depth) s =
      (.done (.undefined name), t) →
    c.exec (config.under .strict) (invoke (config.under .strict) depth) loop s =
      (.failed (.undefined name), t)
  /-- A refusal that ends a render names a value that a statement was given to write
  out or to loop over. -/
  rendersBlame : ∀ {depth t context sink session world name},
    ((config.under .strict).evaluateTemplate depth t context sink session world).1 =
      .failed (.undefined name) →
    ∃ first, Moment.Starts (config.under .strict) depth t
        (.begin config t context sink session world) first ∧
      first.Blames (config.under .strict) name
  runsBlame : ∀ {depth loop body} {s : State} {name},
    (Stmt.execAll (config.under .strict) (invoke (config.under .strict) depth) loop body s).1 =
      .failed (.undefined name) →
    Moment.Blames (config.under .strict) ⟨depth, .code loop body, s⟩ name

section
variable (config : Config)

theorem exec_of_needs {depth : Nat} {loop : Option LoopContext} {c : Stmt} {x : Expr} {s t : State}
    {name : String} (hneeds : c.needs? = some x)
    (hx : x.eval (config.under .strict) (invoke (config.under .strict) depth) s =
      (.done (.undefined name), t)) :
    c.exec (config.under .strict) (invoke (config.under .strict) depth) loop s =
      (.failed (.undefined name), t) := by
  have hrefuse : Render.refuseUndefined (config.under .strict) (.undefined name) t =
      (.failed (.undefined name), t) := rfl
  cases c with
  | emit _ =>
    cases hneeds
    rw [Stmt.exec, simply, Action.bind_apply, Action.bind_of_done hx, Render.emit,
      Action.bind_of_failed hrefuse]
  | forEach _ binding body visited =>
    cases hneeds
    rw [Stmt.exec, simply, Action.bind_apply, Action.bind_of_done hx, Render.forLoop,
      Action.bind_apply, Action.bind_of_failed hrefuse]
  | forElse _ binding body otherwise =>
    cases hneeds
    rw [Stmt.exec, simply, Action.bind_apply, Action.bind_of_done hx, Render.forLoopElse,
      Render.forLoop, Action.bind_apply, Action.bind_of_failed hrefuse]
  | _ => cases hneeds

/-- A render is as strict as its template. -/
theorem renderIn_of_unrefused (depth : Nat) (session : Option Session) (t : Template)
    (context : Context) (world : World)
    (hended : ∀ name, ((config.under .strict).renderIn depth session t context world).1 ≠
      .failed (.undefined name))
    (hcaught : ((config.under .strict).renderIn depth session t context world).2.caughtRefusals =
      world.caughtRefusals) :
    (config.under .lenient).renderIn depth session t context world =
      (config.under .strict).renderIn depth session t context world := by
  have htightens := tightens_evaluateTemplate config depth t context (.buffer "") session world
  have hbegun : (State.begin config t context (.buffer "") session world).world.caughtRefusals =
      world.caughtRefusals :=
    (State.caughtRefusals_logged _ rfl).trans (State.caughtRefusals_logged _ rfl)
  have heq := htightens.onlyStricter.agree ⟨fun name hfailed => hended name ?_, ?_⟩
  · unfold Config.renderIn
    rw [heq]
  · unfold Config.renderIn
    dsimp only
    rw [hfailed]
    rfl
  · rw [hbegun]
    exact hcaught

/-- Fetching does not depend on the policy. -/
theorem renderNamed_of_unrefused (depth : Nat) (name : String) (context : Context) (world : World)
    (hended : ∀ other, ((config.under .strict).renderNamed depth name context world).1 ≠
      .failed (.undefined other))
    (hcaught : ((config.under .strict).renderNamed depth name context world).2.caughtRefusals =
      world.caughtRefusals) :
    (config.under .lenient).renderNamed depth name context world =
      (config.under .strict).renderNamed depth name context world := by
  let begun := State.start (Session.start config (some name)) (.root Table.empty) (.buffer "") world
  have hfetching : (Render.getTemplate config name begun).2.world.caughtRefusals =
      world.caughtRefusals := caughtRefusals_getTemplate config name begun
  rcases hrun : Render.getTemplate config name begun with ⟨outcome, fetched⟩
  have hget (policy : UndefinedPolicy) : Render.getTemplate (config.under policy) name
      (.start (Session.start (config.under policy) (some name)) (.root Table.empty) (.buffer "")
        world) = (outcome, fetched) := hrun
  rw [hrun] at hfetching
  simp only [Config.renderNamed, hget] at hended hcaught ⊢
  cases outcome with
  | done t =>
    exact renderIn_of_unrefused config depth _ t context _ hended (hcaught.trans hfetching.symm)
  | failed error | unfinished => rfl

end

/-- The strict policy only adds failures, and they name what is undefined. -/
theorem strictnessLaw {config : Config} (h : config.RaisesNoUndefined) : StrictnessLaw config where
  renders depth t context sink session world :=
    (tightens_evaluateTemplate config depth t context sink session world).onlyStricter
  runs depth loop body s := (likeTightened_execAll config depth loop body s).onlyStricter
  texts := renderIn_of_unrefused config
  named := renderNamed_of_unrefused config
  refuses := exec_of_needs config
  rendersBlame {depth t context sink session world name} hfailed := by
    have hpure := h.under .strict
    exact blames_of_runTemplate (tracesBodies hpure depth) hfailed
  runsBlame {depth loop body s name} hfailed := by
    have hpure := h.under .strict
    exact blames_of_execAll hpure (tracesBodies hpure depth) body hfailed

namespace Salutation

/-- A salutation of somebody whose name may be missing. -/
def salutation : Template :=
  Template.build "salutation" (some [.write "Hello ", .emit (.var "name"), .write "!"]) none []

/-- The salutation under a policy, written to a stream. -/
def run (policy : UndefinedPolicy) (context : Context) : Outcome Unit × State :=
  (Config.basic.under policy).evaluateTemplate 1 salutation context (.stream none) none
    (World.begin 0)

/-- There is nothing in the basic configuration that could raise an error. -/
theorem basic_raisesNoUndefined : Config.basic.RaisesNoUndefined where
  filters _ _ h := by cases h
  tests _ _ h := by cases h
  loader _ _ h := by cases h

/-- Without a name the strict salutation ends where the lenient one goes on; with a
name they are the same. -/
theorem strictnessLaw_salutation :
    Config.basic.RaisesNoUndefined ∧ StrictnessLaw Config.basic ∧
      (run .strict Table.empty).1 = .failed (.undefined "name") ∧
      (run .strict Table.empty).2.world.caughtRefusals = 0 ∧
      (run .strict Table.empty).2.world.chunks = ["Hello "] ∧
      (run .lenient Table.empty).2.world.chunks = ["Hello ", "", "!"] ∧
      Unrefused (World.begin 0) (run .strict (Table.ofList [("name", .text "you")])) :=
  ⟨basic_raisesNoUndefined, strictnessLaw basic_raisesNoUndefined, rfl, rfl, rfl, rfl, nofun, rfl⟩

end Salutation

end Templating
