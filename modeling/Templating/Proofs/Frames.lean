import Templating.Proofs.Keeping

/-!
# Frames, blocks and other templates end where they began

An operation that runs a body, a block definition or another template comes back
to where it was called.  The scope, the number of open frames and the block being
run are those from before the call, and the session is the same session, however
the operation ends: with a value, with an error of its own or of the code it ran,
or out of depth.

What a session may undergo meanwhile is what its own operations do to it.  It
keeps its name, no export is withdrawn, definitions are added at the least
specific end only, and what is cached stays (`Session.Continues`).  A template
reached from elsewhere does not touch the escaping and the exports of the
session it was reached from at all.

The count of open frames is a natural number, so closing a frame that was never
opened would leave it at zero.  This does not occur: the frame that is closed is
the one that was opened (`FrameDiscipline.openFrame`).

Together these are `FrameDiscipline`, which holds of all code at every depth
(`frameDiscipline`).
-/
namespace Templating

/-- The session as it may be some time later. -/
structure Session.Continues (s t : Session) : Prop where
  template : t.template = s.template
  exports : ∀ name, s.exports.contains name = true → t.exports.contains name = true
  blocks : ∀ name, s.blocks.chain name <:+ t.blocks.chain name
  cache : ∀ name u, s.cache.get? name = some u → t.cache.get? name = some u

namespace Session.Continues

variable {s t u : Session}

theorem refl (s : Session) : s.Continues s :=
  ⟨rfl, fun _ => id, fun _ => List.suffix_refl _, fun _ _ => id⟩

theorem trans (h : s.Continues t) (h' : t.Continues u) : s.Continues u where
  template := h'.template.trans h.template
  exports name hname := h'.exports name (h.exports name hname)
  blocks name := (h.blocks name).trans (h'.blocks name)
  cache name v hv := h'.cache name v (h.cache name v hv)

theorem exportVar (s : Session) (name : String) (v : Value) : s.Continues (s.exportVar name v) where
  template := rfl
  exports other h := by
    rw [Session.exportVar, Table.contains, Table.get?_insert]
    split
    · rfl
    · exact h
  blocks _ := List.suffix_refl _
  cache _ _ := id

theorem register (s : Session) (name : String) (body : Body) :
    s.Continues { s with blocks := s.blocks.register name body } where
  template := rfl
  exports _ := id
  blocks other := by
    rw [BlockRegistry.chain_register]
    split
    · next h =>
      subst h
      exact List.suffix_cons _ _
    · exact List.suffix_refl _
  cache _ _ := id

theorem remember {name : String} (h : s.cache.get? name = none) (v : Template) :
    s.Continues { s with cache := s.cache.insert name v } where
  template := rfl
  exports _ := id
  blocks _ := List.suffix_refl _
  cache other w hw := by
    rw [Table.get?_insert, if_neg, hw]
    rintro rfl
    rw [h] at hw
    cases hw

theorem setAutoescape (s : Session) (enabled : Bool) :
    s.Continues { s with autoescape := enabled } :=
  ⟨rfl, fun _ => id, fun _ => List.suffix_refl _, fun _ _ => id⟩

/-- What was lent to a derived session comes back as that session has continued
it. -/
theorem rejoin {config : Config} {name : String} {reach : Reach}
    (h : (s.derive config name reach).Continues t) : s.Continues (s.rejoin reach t) where
  template := rfl
  exports _ := id
  blocks b := by
    have hb := h.blocks b
    cases reach with
    | extending => exact hb
    | including | importing => exact List.suffix_refl _
  cache := h.cache

end Session.Continues

/-- The state may be a later one of the same frame, block and session. -/
structure State.SameFrame (s t : State) : Prop where
  frames : t.frames = s.frames
  block : t.block = s.block
  session : s.session.Continues t.session

/-- The state is back where it was. -/
structure State.Restored (s t : State) : Prop extends State.SameFrame s t where
  scope : t.scope = s.scope

theorem State.SameFrame.of_session {s t : State} (hf : t.frames = s.frames)
    (hb : t.block = s.block) (hs : t.session = s.session) : s.SameFrame t :=
  ⟨hf, hb, hs ▸ Session.Continues.refl _⟩

/-- The course of a run that stays in its frame. -/
def Course.sameFrame : Course where
  Inv _ := True
  To := State.SameFrame
  refl _ := .of_session rfl rfl rfl
  trans h h' := ⟨h'.frames.trans h.frames, h'.block.trans h.block, h.session.trans h'.session⟩
  inv _ _ := trivial

/-- The step lemma: no elementary change leaves the frame, and every situation
gives it back. -/
theorem sound_sameFrame (config : Config) :
    Course.sameFrame.Sound Vocabulary.full config where
  looked _ _ := trivial
  exported _ _ _ := trivial
  defined _ _ _ _ _ := Vocabulary.code_full _
  cached _ _ _ _ := Vocabulary.template_full _
  loaded _ := Vocabulary.template_full _
  remember _ _ _ hcache _ := ⟨rfl, rfl, .remember hcache _⟩
  note _ _ _ := .of_session rfl rfl rfl
  write {s} _ text _ := by
    unfold Render.write
    split <;> exact .of_session rfl rfl rfl
  emitted _ _ _ := trivial
  count _ _ := .of_session rfl rfl rfl
  assign {s} _ v _ name := by
    refine ⟨rfl, rfl, ?_⟩
    unfold State.assign
    split
    · exact .exportVar _ _ _
    · exact .refl _
  exportVar _ _ _ _ := ⟨rfl, rfl, .exportVar _ _ _⟩
  setEscaping _ _ _ := ⟨rfl, rfl, .setAutoescape _ _⟩
  register _ _ _ _ := ⟨rfl, rfl, .register _ _ _⟩
  rebind _ _ _ _ := .of_session rfl rfl rfl
  frame s _ := by
    refine ⟨trivial, fun t ht => ⟨?_, ht.block, ht.session⟩⟩
    -- The frame that is closed is the one that was opened here.
    have hopen : t.frames = s.frames + 1 := ht.frames
    show t.frames - 1 = s.frames
    omega
  escaping _ s _ :=
    ⟨trivial, fun t ht => ⟨ht.frames, ht.block,
      ((Session.Continues.setAutoescape s.session _).trans ht.session).trans
        (.setAutoescape _ _)⟩⟩
  block _ _ _ := ⟨trivial, fun _ ht => ⟨rfl, rfl, ht.session⟩⟩
  template _ _ _ _ := ⟨trivial, fun _ ht => ⟨rfl, rfl, ht.session.rejoin⟩⟩
  capture _ _ := ⟨trivial, fun _ ht => ⟨ht.frames, ht.block, ht.session⟩⟩
  captured _ _ _ := trivial

/-! ## Back where it began -/

/-- An action comes back to where it began, however it ends. -/
def Restores {α : Type} (m : Render α) : Prop := ∀ s : State, s.Restored (m s).2

/-- What a session has that no other session works with. -/
def State.ownSession (s : State) : Option String × Bool × Table Value :=
  (s.session.template, s.session.autoescape, s.session.exports)

/-- An action leaves alone what is the session's own. -/
def KeepsOwnSession {α : Type} (m : Render α) : Prop :=
  ∀ s : State, (m s).2.ownSession = s.ownSession

theorem isApart_scope : IsApart State.scope :=
  ⟨fun _ _ => rfl, fun _ _ => rfl, fun _ _ => rfl, fun _ _ _ => rfl⟩

theorem isApart_ownSession : IsApart State.ownSession :=
  ⟨fun _ _ => rfl, fun _ _ => rfl, fun _ _ => rfl, fun _ _ _ => rfl⟩

mutual

/-- Whether a statement binds names for the statements after it.  The bodies of
frames, loops, blocks and filters have their names to themselves; those of
branches and of caught stretches do not. -/
def Stmt.binds : Stmt → Bool
  | .assign .. | .assignBinding .. | .importAs .. | .fromImport .. => true
  | .forEach _ _ _ visited => visited.isSome
  | .escaping _ body | .attempt body => Stmt.bindsAny body
  | .choose _ yes no => Stmt.bindsAny yes || Stmt.bindsAny no
  | _ => false

/-- Whether one of several statements binds names. -/
def Stmt.bindsAny : List Stmt → Bool
  | [] => false
  | c :: rest => c.binds || Stmt.bindsAny rest

end

/-- What every operation that runs other code owes to the code that called it.
The code it runs is arbitrary, and so is the state it is called in. -/
structure FrameDiscipline (config : Config) (depth : Nat) : Prop where
  /-- No code leaves its frame, whatever it binds there. -/
  code : ∀ loop body (s : State),
    s.SameFrame (Stmt.execAll config (invoke config depth) loop body s).2
  withFrame : ∀ loop body,
    Restores (Render.withFrame (Stmt.execAll config (invoke config depth) loop body))
  forLoop : ∀ iterable binding body,
    Restores (Render.forLoop config iterable binding fun context =>
      asIteration (Stmt.execAll config (invoke config depth) (some context) body))
  forLoopElse : ∀ iterable binding body otherwise,
    Restores (Render.forLoopElse config iterable binding
      (fun context => asIteration (Stmt.execAll config (invoke config depth) (some context) body))
      (asWhole (Stmt.execAll config (invoke config depth) none otherwise)))
  evaluateBlock : ∀ name levelsUp,
    Restores (Render.evaluateBlock (invoke config depth) name levelsUp)
  evaluateBlockLevel : ∀ name level,
    Restores (Render.evaluateBlockLevel (invoke config depth) name level)
  superBlock : Restores (Render.superBlock (invoke config depth))
  extendTemplate : ∀ name, Restores (Render.extendTemplate config (invoke config depth) name)
  includeTemplate : ∀ name ignoreMissing,
    Restores (Render.includeTemplate config (invoke config depth) name ignoreMissing)
  includeFirstOf : ∀ names ignoreMissing,
    Restores (Render.includeFirstOf config (invoke config depth) names ignoreMissing)
  importTemplate : ∀ name, Restores (Render.importTemplate config (invoke config depth) name)
  filterBlock : ∀ filter arguments body,
    Restores (Render.filterBlock config filter arguments
      (asWhole (Stmt.execAll config (invoke config depth) none body)))
  /-- Operands are evaluated in place, imports among them. -/
  eval : ∀ x : Expr, Restores (x.eval config (invoke config depth))
  /-- A frame, a loop and a filtered part close the frame that they opened: it is
  the innermost one when their code is over, so the count is never decreased at
  zero. -/
  openFrame : ∀ loop body (s : State),
    (Stmt.execAll config (invoke config depth) loop body s.enterFrame).2.frames = s.frames + 1
  openLoop : ∀ items parent binding body scope (s : State),
    (Iteration.run items parent config.unpacking binding (fun context values => do
      Render.beginIteration scope binding context values
      asIteration (Stmt.execAll config (invoke config depth) (some context) body))
        s.enterFrame).2.frames = s.frames + 1
  openFilter : ∀ body (s : State),
    (Render.capture (asWhole (Stmt.execAll config (invoke config depth) none body))
      s.enterFrame).2.frames = s.frames + 1
  /-- A template reached from a session does not touch what is that session's
  own. -/
  extendSession : ∀ name, KeepsOwnSession (Render.extendTemplate config (invoke config depth) name)
  includeSession : ∀ name ignoreMissing,
    KeepsOwnSession (Render.includeTemplate config (invoke config depth) name ignoreMissing)
  includeFirstSession : ∀ names ignoreMissing,
    KeepsOwnSession (Render.includeFirstOf config (invoke config depth) names ignoreMissing)
  importSession : ∀ name, KeepsOwnSession (Render.importTemplate config (invoke config depth) name)
  /-- Escaping is given back the setting it had, whatever the code did to it. -/
  withAutoescape : ∀ enabled loop body (s : State),
    (Render.withAutoescape enabled (Stmt.execAll config (invoke config depth) loop body)
      s).2.session.autoescape = s.session.autoescape
  /-- Later lookups see a difference only after an assignment, an assignment to a
  binding, or an import of names. -/
  lookups : ∀ c : Stmt, c.binds = false → ∀ loop (s : State),
    (c.exec config (invoke config depth) loop s).2.scope = s.scope

/-! ## The scope -/

namespace Keeps

open Pairing

variable {config : Config} {invoke : Invoke}

theorem forLoop_scope (iterable : Value) (binding : Binding)
    (body : LoopContext → Render LoopStep) :
    Keeps State.scope (Render.forLoop config iterable binding body) := by
  refine seq (Sound.refuseUndefined iterable) fun _ => ?_
  refine (copyEnclosing isApart_scope).seq fun parent => (ofExcept _).seq fun items => ?_
  exact (read _).seq fun scope => seq (bracket fun _ _ => rfl) fun _ => pure _

theorem forLoopElse_scope (iterable : Value) (binding : Binding)
    (body : LoopContext → Render LoopStep) (otherwise : Render Unit) :
    Keeps State.scope (Render.forLoopElse config iterable binding body otherwise) := by
  refine (forLoop_scope iterable binding body).seq fun visited => ?_
  cases visited with
  | true => exact pure _
  | false => exact bracket fun _ _ => rfl

theorem evaluateBlock_scope (name : String) (levelsUp : Nat) :
    Keeps State.scope (Render.evaluateBlock invoke name levelsUp) := by
  refine seq ?_ fun body => bracket fun _ _ => rfl
  refine (read _).seq fun blocks => ?_
  cases blocks.resolve name levelsUp with
  | error cause => exact alike_fail _
  | ok body => exact (log isApart_scope _).seq fun _ => pure _

theorem evaluateBlockLevel_scope (name : String) (level : Int) :
    Keeps State.scope (Render.evaluateBlockLevel invoke name level) := by
  unfold Render.evaluateBlockLevel
  split
  · exact evaluateBlock_scope name _
  · exact alike_fail _

theorem superBlock_scope : Keeps State.scope (Render.superBlock invoke) := by
  refine (read _).seq fun active => ?_
  cases active with
  | some active => exact evaluateBlock_scope _ _
  | none => exact alike_fail _

theorem filterBlock_scope (filter : String) (arguments : List Value) (m : Render Unit) :
    Keeps State.scope (Render.filterBlock config filter arguments m) :=
  seq (bracket fun _ _ => rfl) fun _ => (ofExcept _).seq fun _ => write isApart_scope _

end Keeps

section
variable (config : Config) (depth : Nat)

theorem evaluates_scope :
    ∀ x : Expr, Keeps State.scope (x.eval config (invoke config depth)) :=
  Keeps.eval isApart_scope fun _ _ => rfl

theorem simply_scope {m : Render Unit} (h : Keeps State.scope m) : Keeps State.scope (simply m) :=
  h.seq fun _ => Keeps.pure _

mutual

/-- The induction on code: a statement that binds no names for what follows
leaves the scope as it was. -/
theorem Stmt.exec_scope : ∀ c : Stmt, c.binds = false → ∀ loop,
    Keeps State.scope (c.exec config (invoke config depth) loop)
  | .write _, _, _ => simply_scope (Keeps.write isApart_scope _)
  | .emit x, _, _ => simply_scope ((evaluates_scope config depth x).seq fun _ =>
      Keeps.emit isApart_scope config _)
  | .exportVar _ x, _, _ => simply_scope ((evaluates_scope config depth x).seq fun _ =>
      Keeps.of_forall fun _ => rfl)
  | .frame _, _, _ => Keeps.bracket fun _ _ => rfl
  | .escaping _ body, hc, loop => by
    -- Escaping opens no frame, so the scope is the one the body ends in.
    refine Keeps.of_forall fun s => ?_
    exact (Stmt.execAll_scope body hc loop).apply (s.setAutoescape _)
  | .setEscaping _, _, _ => simply_scope (Keeps.of_forall fun _ => rfl)
  | .choose condition yes no, hc, loop => by
    rw [Stmt.binds, Bool.or_eq_false_iff] at hc
    refine (evaluates_scope config depth condition).seq fun v => ?_
    cases v.isTruthy with
    | true => exact Stmt.execAll_scope yes hc.1 loop
    | false => exact Stmt.execAll_scope no hc.2 loop
  | .forEach iterable binding body none, _, _ =>
    simply_scope ((evaluates_scope config depth iterable).seq fun _ =>
      (Keeps.forLoop_scope _ binding _).seq fun _ => Keeps.pure _)
  | .forElse iterable binding body otherwise, _, _ =>
    simply_scope ((evaluates_scope config depth iterable).seq fun _ =>
      Keeps.forLoopElse_scope _ binding _ _)
  | .breakLoop, _, _ => Keeps.pure _
  | .continueLoop, _, _ => Keeps.pure _
  | .block name levelsUp, _, _ => simply_scope (Keeps.evaluateBlock_scope name levelsUp)
  | .blockLevel name level, _, _ => simply_scope (Keeps.evaluateBlockLevel_scope name level)
  | .superBlock, _, _ => simply_scope Keeps.superBlock_scope
  | .extendTemplate name, _, _ =>
    simply_scope (Keeps.extendTemplate isApart_scope (fun _ _ => rfl) config _ name)
  | .includeTemplate name ignoreMissing, _, _ =>
    simply_scope (Keeps.includeTemplate isApart_scope (fun _ _ => rfl) config _ name ignoreMissing)
  | .includeFirstOf names ignoreMissing, _, _ =>
    simply_scope (Keeps.includeFirstOf isApart_scope (fun _ _ => rfl) config _ names ignoreMissing)
  | .filterBlock filter arguments body, _, _ =>
    simply_scope ((Keeps.evalAll isApart_scope (fun _ _ => rfl) arguments).seq fun _ =>
      Keeps.filterBlock_scope filter _ _)
  | .registerBlock _ _, _, _ => simply_scope (Keeps.of_forall fun _ => rfl)
  | .registerTemplate name, _, _ =>
    simply_scope ((Keeps.getTemplate isApart_scope config name).seq fun t =>
      Keeps.registerBlocks isApart_scope (fun _ _ _ => rfl) t)
  | .log x, _, _ => simply_scope ((evaluates_scope config depth x).seq fun _ =>
      Keeps.log isApart_scope _)
  | .context, _, _ => simply_scope (Keeps.log isApart_scope _)
  | .probe, _, _ => simply_scope ((Keeps.read _).seq fun _ => Keeps.log isApart_scope _)
  | .summarize, _, _ => simply_scope ((Keeps.read _).seq fun _ => Keeps.log isApart_scope _)
  | .attempt body, hc, loop => by
    refine (Stmt.execAll_scope body hc loop).caught.seq fun r => ?_
    cases r with
    | ok flow => exact Keeps.pure _
    | error error => exact (Keeps.log isApart_scope _).seq fun _ => Keeps.pure _

theorem Stmt.execAll_scope : ∀ body : List Stmt, Stmt.bindsAny body = false → ∀ loop,
    Keeps State.scope (Stmt.execAll config (invoke config depth) loop body)
  | [], _, _ => Keeps.pure _
  | c :: rest, hbody, loop => by
    rw [Stmt.bindsAny, Bool.or_eq_false_iff] at hbody
    refine (Stmt.exec_scope c hbody.1 loop).seq fun flow => ?_
    cases flow with
    | next => exact Stmt.execAll_scope rest hbody.2 loop
    | breakLoop | continueLoop => exact Keeps.pure _

end

/-! ## The law -/

variable {α : Type}

/-- Staying in the frame and leaving the scope alone is coming back. -/
theorem Restores.of_alike {m : Render α}
    (hframe : Course.sameFrame.pairing.Alike m m fun _ => True) (hscope : Keeps State.scope m) :
    Restores m := by
  intro s
  obtain ⟨hsame, -⟩ := Course.of_alike hframe (s := s) trivial
  exact ⟨hsame, hscope.apply s⟩

/-- Code in a frame ends in that frame. -/
theorem frames_of_alike {m : Render α}
    (hframe : Course.sameFrame.pairing.Alike m m fun _ => True) (s : State) :
    (m s.enterFrame).2.frames = s.frames + 1 := by
  obtain ⟨hsame, -⟩ := Course.of_alike hframe (s := s.enterFrame) trivial
  exact hsame.frames

/-- Every operation that runs other code comes back to where it was called,
however it ends. -/
theorem frameDiscipline : FrameDiscipline config depth := by
  have hC := (sound_sameFrame config).pairing
  have hV := Vocabulary.closed_full config
  have hruns := hC.runs hV depth
  have hcode (loop : Option LoopContext) (body : Body) :=
    hC.execAll hV hruns (Vocabulary.code_full body) loop
  have hiteration (body : Body) (context : LoopContext) :=
    Pairing.Sound.asIteration (hcode (some context) body)
  have hwhole (body : Body) := Pairing.Sound.asWhole (hcode none body)
  exact {
    code := fun loop body s => (Course.of_alike (hcode loop body) trivial).1
    withFrame := fun loop body =>
      .of_alike (hC.withFrame (hcode loop body)) (Keeps.bracket fun _ _ => rfl)
    forLoop := fun iterable binding body =>
      .of_alike (hC.forLoop hV trivial binding (hiteration body)) (Keeps.forLoop_scope _ _ _)
    forLoopElse := fun iterable binding body otherwise =>
      .of_alike (hC.forLoopElse hV trivial binding (hiteration body) (hwhole otherwise))
        (Keeps.forLoopElse_scope _ _ _ _)
    evaluateBlock := fun name levelsUp =>
      .of_alike (hC.evaluateBlock hruns name levelsUp) (Keeps.evaluateBlock_scope _ _)
    evaluateBlockLevel := fun name level =>
      .of_alike (hC.evaluateBlockLevel hruns name level) (Keeps.evaluateBlockLevel_scope _ _)
    superBlock := .of_alike (hC.superBlock hruns) Keeps.superBlock_scope
    extendTemplate := fun name =>
      .of_alike (hC.extendTemplate hruns name)
        (Keeps.extendTemplate isApart_scope (fun _ _ => rfl) _ _ _)
    includeTemplate := fun name ignoreMissing =>
      .of_alike (hC.includeTemplate hruns name ignoreMissing)
        (Keeps.includeTemplate isApart_scope (fun _ _ => rfl) _ _ _ _)
    includeFirstOf := fun names ignoreMissing =>
      .of_alike (hC.includeFirstOf hruns names ignoreMissing)
        (Keeps.includeFirstOf isApart_scope (fun _ _ => rfl) _ _ _ _)
    importTemplate := fun name =>
      .of_alike (hC.importTemplate hruns hV name)
        (Keeps.importTemplate isApart_scope (fun _ _ => rfl) _ _ _)
    filterBlock := fun filter arguments body =>
      .of_alike (hC.filterBlock hV (show Vocabulary.full.stmt (.filterBlock filter [] body) from
        trivial) (fun _ _ => trivial) (hwhole body)) (Keeps.filterBlock_scope _ _ _)
    eval := fun x =>
      .of_alike (((hC.evaluates hV hruns).eval hV (x.every_of_forall fun _ => trivial)).any)
        (evaluates_scope config depth x)
    openFrame := fun loop body => frames_of_alike (hcode loop body)
    openLoop := fun items parent binding body scope s => by
      -- Every scope is the scope of some state in which the loop may have begun.
      let begun : State := { s with scope := scope }
      have hbegun : Course.sameFrame.pairing.Rel begun begun := ⟨rfl, trivial⟩
      refine frames_of_alike (Pairing.Sound.visitFrom hV _ rfl binding
        (fun context values _ => ?_) items 0 fun _ _ => trivial) s
      exact (hC.beginIteration hV hbegun binding context fun _ _ => trivial).bind fun _ _ =>
        hiteration body context
    openFilter := fun body => frames_of_alike (hC.captureText (hwhole body)).any
    extendSession := fun name =>
      (Keeps.extendTemplate isApart_ownSession (fun _ _ => rfl) config _ name).apply
    includeSession := fun name ignoreMissing =>
      (Keeps.includeTemplate isApart_ownSession (fun _ _ => rfl) config _ name ignoreMissing).apply
    includeFirstSession := fun names ignoreMissing =>
      (Keeps.includeFirstOf isApart_ownSession (fun _ _ => rfl) config _ names ignoreMissing).apply
    importSession := fun name =>
      (Keeps.importTemplate isApart_ownSession (fun _ _ => rfl) config _ name).apply
    withAutoescape := fun enabled loop body s => rfl
    lookups := fun c hc loop => (Stmt.exec_scope config depth c hc loop).apply }

end

end Templating
