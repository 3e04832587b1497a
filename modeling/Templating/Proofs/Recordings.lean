import Templating.Render.Evaluate

/-!
# What a template records for its importers

A template that runs records variables in two ways.  At its own top level every
assignment records the name it binds: in the setup and in the root, but not in
the body of a frame, of a loop, of a block or of a filtered part, nor where a
loop has no element.  Everywhere in its session, definitions of blocks included,
variables can be recorded explicitly.

This module says what a run records, in the order in which it is recorded, by
recursion on the code (`Stmt.recordings`, `Template.recordings`).  What is top
level is read off the code alone: the number of open frames and the exports
themselves are not looked at.  Templates reached from elsewhere run in sessions
of their own, so they record nothing here.
-/
namespace Templating

/-- A variable recorded for importers. -/
structure Recording where
  name : String
  value : Value
  /-- Whether it was recorded because it was assigned at the top level. -/
  assigned : Bool

/-- The recording as an entry of a table. -/
def Recording.entry (r : Recording) : String × Value := (r.name, r.value)

/-- What is recorded when these names are assigned. -/
def Recording.ofAssigned (isTop : Bool) (bindings : List (String × Value)) : List Recording :=
  if isTop then bindings.map fun (name, v) => ⟨name, v, true⟩ else []

/-- What an action records that begins in a state. -/
abbrev Recorder := State → List Recording

/-- What is recorded after an action has ended well. -/
def Recorder.after {α : Type} (m : Render α) (next : α → Recorder) : Recorder := fun s =>
  match m s with
  | (.done a, t) => next a t
  | _ => []

/-- What the iterations record of the elements that are left. -/
def Iteration.recordings (it : Iteration) (binding : Binding) (scope : Scope)
    (body : LoopContext → Render LoopStep) (recordings : LoopContext → Recorder) :
    Nat → List Value → Recorder
  | _, [] => fun _ => []
  | index0, item :: rest =>
    Recorder.after (Action.ofExcept (binding.unpack it.unpacking item).toExcept) fun values =>
      Recorder.after (Render.beginIteration scope binding (it.contextAt index0) values)
        fun _ s =>
          recordings (it.contextAt index0) s ++
            Recorder.after (body (it.contextAt index0)) (fun step =>
              match step with
              | .stop => fun _ => []
              | .goOn =>
                Iteration.recordings it binding scope body recordings (index0 + 1) rest) s

/-- What a loop records. -/
def Render.loopRecordings (config : Config) (iterable : Value) (binding : Binding)
    (body : LoopContext → Render LoopStep) (recordings : LoopContext → Recorder) : Recorder :=
  Recorder.after (Render.refuseUndefined config iterable) fun _ =>
    Recorder.after Render.copyEnclosing fun parent =>
      Recorder.after (Action.ofExcept (Iteration.itemsOf iterable)) fun items s =>
        Iteration.recordings ⟨items.length, parent, config.unpacking⟩ binding s.scope body
          recordings 0 items s.enterFrame

section Code

variable (config : Config) (invoke : Invoke) (definitions : Body → Recorder)

/-- What the definition of a block records. -/
def Render.blockRecordings (name : String) (levelsUp : Nat) : Recorder :=
  Recorder.after (Render.resolveBlock name levelsUp) fun body s =>
    definitions body (s.enterBlock ⟨name, levelsUp⟩)

mutual

/-- What a statement records.  `isTop` says whether it stands at the top level of
its template, `definitions` what definitions found at run time record. -/
def Stmt.recordings (isTop : Bool) (loop : Option LoopContext) : Stmt → Recorder
  | .assign name x =>
    Recorder.after (x.eval config invoke) fun v _ => Recording.ofAssigned isTop [(name, v)]
  | .assignBinding binding x =>
    Recorder.after (x.eval config invoke) fun v =>
      Recorder.after (Action.ofExcept (binding.unpack config.unpacking v).toExcept) fun values _ =>
        Recording.ofAssigned isTop (binding.names.zip values)
  | .importAs name target =>
    Recorder.after (Render.importTemplate config invoke name) fun v _ =>
      Recording.ofAssigned isTop [(target, v)]
  | .fromImport name items =>
    Recorder.after (Render.importTemplate config invoke name) fun v _ =>
      Recording.ofAssigned isTop (items.map fun (exported, target) => (target, v.attr exported))
  | .exportVar name x => Recorder.after (x.eval config invoke) fun v _ => [⟨name, v, false⟩]
  | .frame body => fun s => Stmt.recordingsAll false loop body s.enterFrame
  | .escaping enabled body => fun s => Stmt.recordingsAll isTop loop body (s.setAutoescape enabled)
  | .choose condition yes no =>
    Recorder.after (condition.eval config invoke) fun v =>
      if v.isTruthy then Stmt.recordingsAll isTop loop yes else Stmt.recordingsAll isTop loop no
  | .forEach iterable binding body visited =>
    Recorder.after (iterable.eval config invoke) fun v s =>
      Render.loopRecordings config v binding
          (fun context => asIteration (Stmt.execAll config invoke (some context) body))
          (fun context => Stmt.recordingsAll false (some context) body) s ++
        Recorder.after (Render.forLoop config v binding fun context =>
            asIteration (Stmt.execAll config invoke (some context) body))
          (fun any _ => Recording.ofAssigned isTop
            (visited.toList.map fun name => (name, Value.bool any))) s
  | .forElse iterable binding body otherwise =>
    Recorder.after (iterable.eval config invoke) fun v s =>
      Render.loopRecordings config v binding
          (fun context => asIteration (Stmt.execAll config invoke (some context) body))
          (fun context => Stmt.recordingsAll false (some context) body) s ++
        Recorder.after (Render.forLoop config v binding fun context =>
            asIteration (Stmt.execAll config invoke (some context) body))
          (fun any t =>
            if any then [] else Stmt.recordingsAll false none otherwise t.enterFrame) s
  | .block name levelsUp => Render.blockRecordings definitions name levelsUp
  | .blockLevel name level => fun s =>
    match levelsUpOfLevel level with
    | some levelsUp => Render.blockRecordings definitions name levelsUp s
    | none => []
  | .superBlock => fun s =>
    match s.block with
    | some active => Render.blockRecordings definitions active.name (active.levelsUp + 1) s
    | none => []
  | .filterBlock _ arguments body =>
    Recorder.after (Expr.evalAll config invoke arguments) fun _ s =>
      Stmt.recordingsAll false none body s.enterFrame.enterCapture
  | .attempt body => Stmt.recordingsAll isTop loop body
  | _ => fun _ => []

/-- What several statements record, one after another. -/
def Stmt.recordingsAll (isTop : Bool) (loop : Option LoopContext) : List Stmt → Recorder
  | [] => fun _ => []
  | statement :: rest => fun s =>
    Stmt.recordings isTop loop statement s ++
      Recorder.after (statement.exec config invoke loop) (fun flow =>
        match flow with
        | .next => Stmt.recordingsAll isTop loop rest
        | _ => fun _ => []) s

end

end Code

/-- What a body records that is run as a whole, to a depth. -/
def Body.recordings (config : Config) : Nat → Bool → Body → Recorder
  | 0, _, _ => fun _ => []
  | depth + 1, isTop, body =>
    Stmt.recordingsAll config (invoke config depth) (Body.recordings config depth false) isTop none
      body

/-- What the setup of a template records. -/
def Template.setupRecordings (config : Config) (depth : Nat) (t : Template) : Recorder :=
  match t.setup with
  | some setup => Body.recordings config depth true setup
  | none => fun _ => []

/-- What a template records: in its setup, and then in its root. -/
def Template.recordings (config : Config) (depth : Nat) (t : Template) : Recorder := fun s =>
  t.setupRecordings config depth s ++
    Recorder.after (Render.runSetup (invoke config depth) t)
      (fun _ => Body.recordings config depth true t.root) s

end Templating
