import Templating.Proofs.Growth
import Templating.Proofs.Recordings

/-!
# Exports are what was recorded

The exports of a template that began without any are what it recorded
(`Template.recordings`), written into a table in the order in which it was
recorded: each name has the value that was recorded last and the place at which
it was recorded first (`Table.get?_ofList`, `Table.keys_ofList`).

A stretch of code gains some recordings (`State.Gained`): its exports have been
written on, and at the top level every name that was assigned is bound to the
value that was recorded with it.  Elsewhere nothing is recorded for having been
assigned, and what encloses the stretch gives the scope back.  So if nothing is
recorded explicitly, then at the top level a name that is exported is bound to
the value that is exported (`State.Mirrors`), at every moment and not only at
the end.
-/
namespace Templating

open Relation (ReflTransGen)

/-! ## Nodes written entry by entry -/

theorem Scope.get?_bind_append (scope : Scope) (bindings more : List (String × Value))
    (name : String) :
    (scope.bind (bindings ++ more)).get? name = ((scope.bind bindings).bind more).get? name := by
  simp only [Scope.get?_bind, Table.get?_ofList, List.reverse_append, List.lookup_append,
    Option.or_assoc]

/-! ## Stretches of code -/

/-- The names that were recorded because they were assigned, with their values. -/
def Recording.assignments (recordings : List Recording) : List (String × Value) :=
  (recordings.filter Recording.assigned).map Recording.entry

theorem Recording.assignments_append (recordings more : List Recording) :
    assignments (recordings ++ more) = assignments recordings ++ assignments more := by
  rw [assignments, List.filter_append, List.map_append]
  rfl

theorem Recording.assignments_of_explicit {recordings : List Recording}
    (h : ∀ r ∈ recordings, r.assigned = false) : assignments recordings = [] := by
  rw [assignments, List.filter_eq_nil_iff.mpr fun r hr => by simp [h r hr]]
  rfl

/-- What has become of a state after this was recorded. -/
structure State.Gained (isTop : Bool) (s : State) (recordings : List Recording) (t : State) :
    Prop where
  frames : t.frames = s.frames
  exports : t.session.exports = s.session.exports.insertAll (recordings.map Recording.entry)
  /-- At the top level the names bound are those that were assigned. -/
  scope : isTop = true → ∀ name,
    t.scope.get? name = (s.scope.bind (Recording.assignments recordings)).get? name
  /-- Elsewhere nothing is recorded for having been assigned. -/
  explicit : isTop = false → ∀ r ∈ recordings, r.assigned = false

namespace State.Gained

variable {isTop : Bool} {s t u : State} {recordings more : List Recording}

/-- Nothing was recorded, and nothing bound. -/
theorem nothing (hframes : t.frames = s.frames) (hexports : t.session.exports = s.session.exports)
    (hscope : isTop = true → t.scope = s.scope) : s.Gained isTop [] t where
  frames := hframes
  exports := hexports
  scope htop name := by
    rw [hscope htop]
    rfl
  explicit _ _ hr := absurd hr List.not_mem_nil

theorem trans (h : s.Gained isTop recordings t) (h' : t.Gained isTop more u) :
    s.Gained isTop (recordings ++ more) u where
  frames := h'.frames.trans h.frames
  exports := by rw [h'.exports, h.exports, List.map_append, Table.insertAll_append]
  scope htop name := by
    rw [h'.scope htop, Recording.assignments_append, Scope.get?_bind_append, Scope.get?_bind,
      h.scope htop, Scope.get?_bind (s.scope.bind _)]
  explicit htop r hr := (List.mem_append.mp hr).elim (h.explicit htop r) (h'.explicit htop r)

theorem isTopLevel (h : s.Gained isTop recordings t) (hs : s.isTopLevel = isTop) :
    t.isTopLevel = isTop := by
  rw [State.isTopLevel, h.frames]
  exact hs

/-- What was gained inside of something that gives the scope back. -/
theorem enclosed (h : s.Gained false recordings t) {begun ended : State}
    (hbegun : s.session.exports = begun.session.exports)
    (hended : ended.session.exports = t.session.exports) (hframes : ended.frames = begun.frames)
    (hscope : ended.scope = begun.scope) : begun.Gained isTop recordings ended where
  frames := hframes
  exports := by rw [hended, h.exports, hbegun]
  scope _ name := by
    rw [hscope, Recording.assignments_of_explicit (h.explicit rfl)]
    rfl
  explicit _ := h.explicit rfl

/-- Names are assigned one after another. -/
theorem assigned (s : State) (name : String) (v : Value) :
    s.Gained s.isTopLevel (Recording.ofAssigned s.isTopLevel [(name, v)]) (s.assign name v) := by
  unfold State.assign
  cases htop : s.isTopLevel with
  | true => exact ⟨rfl, rfl, fun _ _ => rfl, fun h => by cases h⟩
  | false => exact .nothing rfl rfl fun h => by cases h

end State.Gained

/-- An action records this, however it ends. -/
def Render.Records {α : Type} (isTop : Bool) (m : Render α) (recordings : Recorder) : Prop :=
  ∀ s : State, s.isTopLevel = isTop → s.Gained isTop (recordings s) (m s).2

/-- What says which names are bound and exported, and whether assigning exports. -/
def State.naming (s : State) : Scope × Nat × Table Value :=
  (s.scope, s.frames, s.session.exports)

theorem isApart_naming : IsApart State.naming :=
  ⟨fun _ _ => rfl, fun _ _ => rfl, fun _ _ => rfl, fun _ _ _ => rfl⟩

namespace Render.Records

variable {α β : Type} {isTop : Bool} {m : Render α} {f : α → Render β} {recordings : Recorder}

/-- What leaves the names alone records nothing. -/
theorem of_keeps (h : Keeps State.naming m) : Records isTop m fun _ => [] := by
  intro s _
  have hnaming := h.apply s
  refine .nothing ?_ ?_ fun _ => ?_
  · exact congrArg (·.2.1) hnaming
  · exact congrArg (·.2.2) hnaming
  · exact congrArg (·.1) hnaming

theorem bind {next : α → Recorder} (hm : Records isTop m recordings)
    (hf : ∀ a, Records isTop (f a) (next a)) :
    Records isTop (m >>= f) fun s => recordings s ++ Recorder.after m next s := by
  intro s hs
  have hfirst := hm s hs
  show s.Gained isTop (recordings s ++ Recorder.after m next s) ((m >>= f) s).2
  rw [Action.bind_apply]
  unfold Recorder.after
  rcases hrun : m s with ⟨a | _ | _, t⟩ <;> rw [hrun] at hfirst
  · exact hfirst.trans (hf a t (hfirst.isTopLevel hs))
  · rwa [List.append_nil]
  · rwa [List.append_nil]

/-- After something that records nothing. -/
theorem after {next : α → Recorder} (hm : Keeps State.naming m)
    (hf : ∀ a, Records isTop (f a) (next a)) : Records isTop (m >>= f) (Recorder.after m next) :=
  (of_keeps hm).bind hf

theorem map (hm : Records isTop m recordings) (f : α → β) :
    Records isTop (m >>= fun a => pure (f a)) recordings := by
  intro s hs
  have hrecords := hm s hs
  rw [Action.bind_apply]
  rcases hrun : m s with ⟨_ | _ | _, t⟩ <;> rw [hrun] at hrecords <;> exact hrecords

theorem of_attempt (hm : Records isTop m recordings) :
    Records isTop (Action.attempt m) recordings := by
  intro s hs
  rw [Action.attempt_state]
  exact hm s hs

/-- A situation that is not the top level and gives the scope back. -/
theorem enclosed {enter : State → State} {leave : State → State → State}
    (hm : Records false m recordings) (htop : ∀ s, (enter s).isTopLevel = false)
    (henter : ∀ s, (enter s).session.exports = s.session.exports)
    (hexports : ∀ s t, (leave s t).session.exports = t.session.exports)
    (hframes : ∀ s t, t.frames = (enter s).frames → (leave s t).frames = s.frames)
    (hscope : ∀ s t, (leave s t).scope = s.scope) :
    Records isTop (Action.bracket enter leave m) fun s => recordings (enter s) := by
  intro s _
  have hinner := hm (enter s) (htop s)
  exact hinner.enclosed (henter s) (hexports s _) (hframes s _ hinner.frames) (hscope s _)

theorem withFrame (hm : Records false m recordings) :
    Records isTop (Render.withFrame m) fun s => recordings s.enterFrame := by
  refine hm.enclosed (fun _ => rfl) (fun _ => rfl) (fun _ _ => rfl) (fun s t ht => ?_)
    fun _ _ => rfl
  show t.frames - 1 = s.frames
  rw [ht]
  rfl

theorem withAutoescape (enabled : Bool) (hm : Records isTop m recordings) :
    Records isTop (Render.withAutoescape enabled m) fun s =>
      recordings (s.setAutoescape enabled) := by
  intro s hs
  have hinner := hm (s.setAutoescape enabled) hs
  exact ⟨hinner.frames, hinner.exports, hinner.scope, hinner.explicit⟩

theorem capture {m : Render Unit} (hm : Records isTop m recordings) :
    Records isTop (Render.capture m) fun s => recordings s.enterCapture := by
  intro s hs
  have hread : Records isTop (do m; Action.read State.captured) recordings := by
    intro s hs
    have hrecords := hm s hs
    rw [Action.bind_apply]
    rcases hrun : m s with ⟨_ | _ | _, t⟩ <;> rw [hrun] at hrecords <;> exact hrecords
  have hinner := hread s.enterCapture hs
  exact ⟨hinner.frames, hinner.exports, hinner.scope, hinner.explicit⟩

theorem simply {m : Render Unit} (hm : Records isTop m recordings) :
    Records isTop (Templating.simply m) recordings :=
  hm.map fun _ => Flow.next

theorem asWhole {m : Render Flow} (hm : Records isTop m recordings) :
    Records isTop (Templating.asWhole m) recordings :=
  hm.map fun _ => ()

theorem asIteration {m : Render Flow} (hm : Records isTop m recordings) :
    Records isTop (Templating.asIteration m) recordings :=
  hm.map Flow.toLoopStep

/-! ## Operations -/

theorem assign (name : String) (v : Value) :
    Records isTop (Render.assign name v) fun _ => Recording.ofAssigned isTop [(name, v)] := by
  rintro s rfl
  exact .assigned s name v

theorem assignAll : ∀ bindings : List (String × Value),
    Records isTop (Render.assignAll bindings) fun _ => Recording.ofAssigned isTop bindings
  | [] => by
    have hnone : Recording.ofAssigned isTop [] = [] := by cases isTop <;> rfl
    rw [hnone]
    exact of_keeps (Keeps.pure _)
  | (name, v) :: rest => by
    have hsplit : Recording.ofAssigned isTop ((name, v) :: rest) =
        Recording.ofAssigned isTop [(name, v)] ++ Recording.ofAssigned isTop rest := by
      cases isTop <;> rfl
    rw [hsplit]
    exact (assign name v).bind fun _ => assignAll rest

theorem exportVar (name : String) (v : Value) :
    Records isTop (Render.exportVar name v) fun _ => [⟨name, v, false⟩] := by
  refine fun s _ => ⟨rfl, rfl, fun _ _ => rfl, fun _ r hr => ?_⟩
  rw [List.mem_singleton.mp hr]

section
variable {config : Config} {invoke : Invoke}

theorem iterations (it : Iteration) (binding : Binding) (scope : Scope)
    {body : LoopContext → Render LoopStep} {recordings : LoopContext → Recorder}
    (hbody : ∀ context, Records false (body context) (recordings context)) :
    ∀ (items : List Value) (index0 : Nat),
      Records false (it.visitFrom binding (fun context values => do
          Render.beginIteration scope binding context values
          body context) index0 items)
        (it.recordings binding scope body recordings index0 items)
  | [], _ => of_keeps (Keeps.pure _)
  | item :: rest, index0 => by
    rw [Iteration.visitFrom, Iteration.recordings]
    refine after (Keeps.ofExcept _) fun values => ?_
    rw [bind_assoc]
    -- Beginning an iteration binds names, which is no matter off the top level.
    have hbegin : Records false
        (Render.beginIteration scope binding (it.contextAt index0) values) fun _ => [] :=
      fun s _ => .nothing rfl rfl fun h => by cases h
    refine hbegin.bind fun _ => (hbody _).bind fun step => ?_
    cases step with
    | stop => exact of_keeps (Keeps.pure _)
    | goOn => exact iterations it binding scope hbody rest (index0 + 1)

theorem forLoop (iterable : Value) (binding : Binding) {body : LoopContext → Render LoopStep}
    {recordings : LoopContext → Recorder}
    (hbody : ∀ context, Records false (body context) (recordings context)) :
    Records isTop (Render.forLoop config iterable binding body)
      (Render.loopRecordings config iterable binding body recordings) := by
  refine after (Pairing.Sound.refuseUndefined iterable) fun _ => ?_
  refine after (Keeps.copyEnclosing isApart_naming) fun parent => ?_
  refine after (Keeps.ofExcept _) fun items => ?_
  intro s hs
  have hrun := iterations ⟨items.length, parent, config.unpacking⟩ binding s.scope hbody items 0
  exact (withFrame hrun).map (fun visited => decide (0 < visited)) s hs

theorem evaluateBlock {definitions : Body → Recorder}
    (hdefinitions : ∀ body, Records false (invoke body) (definitions body)) (name : String)
    (levelsUp : Nat) :
    Records isTop (Render.evaluateBlock invoke name levelsUp)
      (Render.blockRecordings definitions name levelsUp) := by
  refine after ?_ fun body => ?_
  · refine (Keeps.read _).seq fun blocks => ?_
    cases blocks.resolve name levelsUp with
    | error cause => exact Pairing.alike_fail _
    | ok body => exact (Keeps.log isApart_naming _).seq fun _ => Keeps.pure _
  · exact (hdefinitions body).enclosed (fun _ => rfl) (fun _ => rfl) (fun _ _ => rfl)
      (fun _ _ _ => rfl) fun _ _ => rfl

theorem filterBlock (filter : String) (arguments : List Value) {m : Render Unit}
    (hm : Records false m recordings) :
    Records isTop (Render.filterBlock config filter arguments m) fun s =>
      recordings s.enterFrame.enterCapture := by
  intro s hs
  have hcaptured : Records isTop (Render.withFrame (Render.capture m)) _ := withFrame hm.capture
  have hrest (text : String) : Keeps State.naming (do
      let filtered ← Action.ofExcept (config.callFilter filter (.markup ⟨text⟩) arguments)
      Render.write filtered.toText) :=
    (Keeps.ofExcept _).seq fun _ => Keeps.write isApart_naming _
  have hall := (hcaptured.bind fun text => of_keeps (hrest text)) s hs
  have hnone : Recorder.after (Render.withFrame (Render.capture m)) (fun _ _ => []) s = [] := by
    unfold Recorder.after
    split <;> rfl
  dsimp only at hall
  rwa [hnone, List.append_nil] at hall

end

end Render.Records

/-! ## Code -/

section
variable {config : Config} {invoke : Invoke} {definitions : Body → Recorder}

theorem keeps_naming_registerBlocks (t : Template) :
    Keeps State.naming (Render.registerBlocks t) :=
  Keeps.registerBlocks isApart_naming (fun _ _ _ => rfl) t

mutual

/-- The induction on code: what a statement does to the exports is what it
records. -/
theorem Stmt.records
    (hdefinitions : ∀ body, Render.Records false (invoke body) (definitions body)) :
    ∀ (c : Stmt) (isTop : Bool) (loop : Option LoopContext),
      Render.Records isTop (c.exec config invoke loop)
        (c.recordings config invoke definitions isTop loop)
  | .write _, _, _ => .simply (.of_keeps (Keeps.write isApart_naming _))
  | .emit x, _, _ =>
    .simply (.of_keeps ((Keeps.eval isApart_naming (fun _ _ => rfl) x).seq fun _ =>
      Keeps.emit isApart_naming config _))
  | .assign name x, _, _ =>
    .simply (.after (Keeps.eval isApart_naming (fun _ _ => rfl) x) fun v => .assign name v)
  | .assignBinding binding x, _, _ =>
    .simply (.after (Keeps.eval isApart_naming (fun _ _ => rfl) x) fun v =>
      .after (Keeps.ofExcept _) fun values => .assignAll _)
  | .exportVar name x, _, _ =>
    .simply (.after (Keeps.eval isApart_naming (fun _ _ => rfl) x) fun v => .exportVar name v)
  | .frame body, _, loop => .withFrame (Stmt.recordsAll hdefinitions body false loop)
  | .escaping enabled body, isTop, loop =>
    .withAutoescape enabled (Stmt.recordsAll hdefinitions body isTop loop)
  | .setEscaping _, _, _ => .simply (.of_keeps (Keeps.of_forall fun _ => rfl))
  | .choose condition yes no, isTop, loop => by
    refine .after (Keeps.eval isApart_naming (fun _ _ => rfl) condition) fun v => ?_
    cases v.isTruthy with
    | true => exact Stmt.recordsAll hdefinitions yes isTop loop
    | false => exact Stmt.recordsAll hdefinitions no isTop loop
  | .forEach iterable binding body visited, isTop, _ => by
    refine .simply (.after (Keeps.eval isApart_naming (fun _ _ => rfl) iterable) fun v => ?_)
    refine (Render.Records.forLoop v binding fun context =>
      .asIteration (Stmt.recordsAll hdefinitions body false (some context))).bind fun any => ?_
    cases visited with
    | some name => exact .assign name _
    | none => exact .assignAll []
  | .forElse iterable binding body otherwise, isTop, _ => by
    refine .simply (.after (Keeps.eval isApart_naming (fun _ _ => rfl) iterable) fun v => ?_)
    refine (Render.Records.forLoop v binding fun context =>
      .asIteration (Stmt.recordsAll hdefinitions body false (some context))).bind fun any => ?_
    cases any with
    | true => exact .of_keeps (Keeps.pure _)
    | false => exact .withFrame (.asWhole (Stmt.recordsAll hdefinitions otherwise false none))
  | .breakLoop, _, _ => .of_keeps (Keeps.pure _)
  | .continueLoop, _, _ => .of_keeps (Keeps.pure _)
  | .block name levelsUp, _, _ => .simply (.evaluateBlock hdefinitions name levelsUp)
  | .blockLevel name level, _, _ => by
    refine .simply ?_
    unfold Render.evaluateBlockLevel
    dsimp only [Stmt.recordings]
    cases levelsUpOfLevel level with
    | some levelsUp => exact .evaluateBlock hdefinitions name levelsUp
    | none => exact .of_keeps (Pairing.alike_fail _)
  | .superBlock, isTop, _ => by
    refine .simply fun s hs => ?_
    show s.Gained isTop _ ((match s.block with
      | some active => Render.evaluateBlock invoke active.name (active.levelsUp + 1)
      | none => Action.fail (.lookup .notInBlock)) s).2
    dsimp only [Stmt.recordings]
    cases s.block with
    | some active => exact Render.Records.evaluateBlock hdefinitions active.name _ s hs
    | none => exact .nothing rfl rfl fun _ => rfl
  | .extendTemplate name, _, _ =>
    .simply (.of_keeps (Keeps.extendTemplate isApart_naming (fun _ _ => rfl) config invoke name))
  | .includeTemplate name ignoreMissing, _, _ =>
    .simply (.of_keeps (Keeps.includeTemplate isApart_naming (fun _ _ => rfl) config invoke name
      ignoreMissing))
  | .includeFirstOf names ignoreMissing, _, _ =>
    .simply (.of_keeps (Keeps.includeFirstOf isApart_naming (fun _ _ => rfl) config invoke names
      ignoreMissing))
  | .importAs name target, _, _ =>
    .simply (.after (Keeps.importTemplate isApart_naming (fun _ _ => rfl) config invoke name)
      fun v => .assign target v)
  | .fromImport name items, _, _ =>
    .simply (.after (Keeps.importTemplate isApart_naming (fun _ _ => rfl) config invoke name)
      fun v => .assignAll _)
  | .filterBlock filter arguments body, _, _ =>
    .simply (.after (Keeps.evalAll isApart_naming (fun _ _ => rfl) arguments) fun given =>
      .filterBlock filter given (.asWhole (Stmt.recordsAll hdefinitions body false none)))
  | .registerBlock _ _, _, _ => .simply (.of_keeps (Keeps.of_forall fun _ => rfl))
  | .registerTemplate name, _, _ =>
    .simply (.of_keeps ((Keeps.getTemplate isApart_naming config name).seq fun t =>
      keeps_naming_registerBlocks t))
  | .log x, _, _ =>
    .simply (.of_keeps ((Keeps.eval isApart_naming (fun _ _ => rfl) x).seq fun _ =>
      Keeps.log isApart_naming _))
  | .context, _, _ => .simply (.of_keeps (Keeps.log isApart_naming _))
  | .probe, _, _ =>
    .simply (.of_keeps ((Keeps.read _).seq fun _ => Keeps.log isApart_naming _))
  | .summarize, _, _ =>
    .simply (.of_keeps ((Keeps.read _).seq fun _ => Keeps.log isApart_naming _))
  | .attempt body, isTop, loop => by
    intro s hs
    have hbody := (Stmt.recordsAll hdefinitions body isTop loop).of_attempt s hs
    rw [Stmt.exec, Action.bind_apply]
    rcases hrun : Action.attempt (Stmt.execAll config invoke loop body) s with ⟨r | _ | _, t⟩ <;>
      rw [hrun] at hbody
    · cases r with
      | ok flow => exact hbody
      | error error => exact ⟨hbody.frames, hbody.exports, hbody.scope, hbody.explicit⟩
    · exact hbody
    · exact hbody

theorem Stmt.recordsAll
    (hdefinitions : ∀ body, Render.Records false (invoke body) (definitions body)) :
    ∀ (body : List Stmt) (isTop : Bool) (loop : Option LoopContext),
      Render.Records isTop (Stmt.execAll config invoke loop body)
        (Stmt.recordingsAll config invoke definitions isTop loop body)
  | [], _, _ => .of_keeps (Keeps.pure _)
  | c :: rest, isTop, loop => by
    rw [Stmt.execAll]
    refine (Stmt.records hdefinitions c isTop loop).bind fun flow => ?_
    cases flow with
    | next => exact Stmt.recordsAll hdefinitions rest isTop loop
    | breakLoop | continueLoop => exact .of_keeps (Keeps.pure _)

end

end

end Templating
