import Templating.Proofs.Keeping
import Templating.Proofs.Moment

/-!
# Stretches without registrations

The registry of a session changes only where a statement registers blocks or
hands over to the template that the running one extends.  So if a run comes to
no such statement while the registry is still the one it began with, then the
registry stays (`Moment.Undisturbed.inside`, and `Stmt.execAll_blocks` for the
whole run).

The condition speaks of the moments that the run really comes to.  A statement
that registers may well stand in the code, as long as it is not reached, or is
reached only when something else has changed the registry before.
-/
namespace Templating

/-- The registry of the session. -/
def State.blocks (s : State) : BlockRegistry Body := s.session.blocks

theorem isApart_blocks : IsApart State.blocks :=
  ⟨fun _ _ => rfl, fun _ _ => rfl, fun _ _ => rfl, fun _ _ _ => rfl⟩

/-- Whether a statement registers blocks, itself or through a template that
shares the registry. -/
def Stmt.registers : Stmt → Bool
  | .registerBlock .. | .registerTemplate _ | .extendTemplate _ => true
  | _ => false

/-- Whether a statement that registers blocks is about to be run. -/
def Moment.Registers (m : Moment) : Prop :=
  ∃ loop c rest, m.task = .code loop (c :: rest) ∧ c.registers = true

/-- The registry is `r`, and no statement that registers is reached while it still
is. -/
structure Moment.Undisturbed (config : Config) (r : BlockRegistry Body) (m : Moment) : Prop where
  blocks : m.state.blocks = r
  quiet : ∀ m', Moment.Inside config m m' → m'.Registers → m'.state.blocks ≠ r

/-! ## Operations that register nothing -/

section
variable {config : Config} {invoke : Invoke}

theorem eval_blocks (x : Expr) : Keeps State.blocks (x.eval config invoke) :=
  Keeps.eval isApart_blocks (fun _ _ => rfl) x

theorem evalAll_blocks (xs : List Expr) : Keeps State.blocks (Expr.evalAll config invoke xs) :=
  Keeps.evalAll isApart_blocks (fun _ _ => rfl) xs

theorem assign_blocks (name : String) (v : Value) : Keeps State.blocks (Render.assign name v) := by
  refine Keeps.of_forall fun s => ?_
  show (s.assign name v).session.blocks = s.session.blocks
  unfold State.assign
  split <;> rfl

theorem assignAll_blocks :
    ∀ bindings : List (String × Value), Keeps State.blocks (Render.assignAll bindings)
  | [] => Keeps.pure _
  | (name, v) :: rest => (assign_blocks name v).seq fun _ => assignAll_blocks rest

theorem importTemplate_blocks (name : String) :
    Keeps State.blocks (Render.importTemplate config invoke name) :=
  Keeps.importTemplate isApart_blocks (fun _ _ => rfl) config invoke name

theorem beginIteration_blocks {scope : Scope} {binding : Binding} {context : LoopContext}
    {values : List Value} {s t : State}
    (h : Render.beginIteration scope binding context values s = (.done (), t)) :
    t.blocks = s.blocks := by
  cases h
  rfl

theorem visitFrom_blocks (it : Iteration) (binding : Binding) (scope : Scope)
    (body : LoopContext → Render LoopStep) : ∀ (items : List Value) (index0 : Nat) (s : State),
    (∀ context t, it.Visits binding scope body index0 items s context t → t.blocks = s.blocks →
      KeepsAt State.blocks t (body context)) →
    KeepsAt State.blocks s (it.visitFrom binding (fun context values => do
      Render.beginIteration scope binding context values
      body context) index0 items)
  | [], _, _, _ => rfl
  | item :: rest, index0, s, h => by
    unfold Iteration.visitFrom
    refine KeepsAt.seq ((Keeps.ofExcept _).at s) fun values t hvalues => ?_
    obtain ⟨hparts, rfl⟩ := Action.ofExcept_eq_done_iff.mp hvalues
    -- The first iteration keeps the registry, so the next one begins with the same.
    have hfirst : KeepsAt State.blocks s (do
        Render.beginIteration scope binding (it.contextAt index0) values
        body (it.contextAt index0)) :=
      KeepsAt.seq rfl fun _ t ht => h _ t (.here hparts ht) (beginIteration_blocks ht)
    refine hfirst.seq fun step u hstep => ?_
    obtain ⟨_, t, ht, hbody⟩ := Action.bind_eq_done_iff.mp hstep
    cases step with
    | stop => rfl
    | goOn =>
      refine visitFrom_blocks it binding scope body rest (index0 + 1) u fun context v hv hkept => ?_
      exact h context v (.later hparts ht hbody hv) (hkept.trans (hfirst.of_run hstep))

/-- Iterations begin with the registry that the loop began with, if those before
them keep it. -/
theorem visits_blocks {it : Iteration} {binding : Binding} {scope : Scope}
    {body : LoopContext → Render LoopStep} {items : List Value} {index0 : Nat} {s t : State}
    {context : LoopContext} (hv : it.Visits binding scope body index0 items s context t)
    (h : ∀ context t, it.Visits binding scope body index0 items s context t →
      t.blocks = s.blocks → KeepsAt State.blocks t (body context)) : t.blocks = s.blocks := by
  induction hv with
  | here _ ht => exact beginIteration_blocks ht
  | later hparts ht hgo _ ih =>
    have ht' := beginIteration_blocks ht
    have hu := ((h _ _ (.here hparts ht) ht').of_run hgo).trans ht'
    refine (ih fun context w hw hkept => ?_).trans hu
    exact h context w (.later hparts ht hgo hw) (hkept.trans hu)

theorem iterates_blocks {iterable : Value} {binding : Binding}
    {body : LoopContext → Render LoopStep} {s t : State} {context : LoopContext}
    (hi : Render.Iterates config iterable binding body s context t)
    (h : ∀ context t, Render.Iterates config iterable binding body s context t →
      t.blocks = s.blocks → KeepsAt State.blocks t (body context)) : t.blocks = s.blocks := by
  obtain ⟨parent, u, items, hparent, hitems, hv⟩ := hi
  have hu : u.blocks = s.blocks := ((Keeps.copyEnclosing isApart_blocks).at s).of_run hparent
  refine (visits_blocks hv fun context v hv hkept => ?_).trans hu
  exact h context v ⟨parent, u, items, hparent, hitems, hv⟩ (hkept.trans hu)

/-- A loop keeps the registry if its iterations do. -/
theorem forLoop_blocks (iterable : Value) (binding : Binding)
    (body : LoopContext → Render LoopStep) (s : State)
    (h : ∀ context t, Render.refuseUndefined config iterable s = (.done (), s) →
      Render.Iterates config iterable binding body s context t → t.blocks = s.blocks →
      KeepsAt State.blocks t (body context)) :
    KeepsAt State.blocks s (Render.forLoop config iterable binding body) := by
  unfold Render.forLoop
  have hrefuse : (Render.refuseUndefined config iterable s).2 = s :=
    refuseUndefined_state iterable s
  refine KeepsAt.seq (congrArg _ hrefuse) fun _ t ht => ?_
  obtain rfl : t = s := by rwa [ht] at hrefuse
  have hcopy := (Keeps.copyEnclosing isApart_blocks).at t
  refine hcopy.seq fun parent u hparent => ?_
  refine ((Keeps.ofExcept _).at u).seq fun items w hw => ?_
  obtain ⟨hitems, rfl⟩ := Action.ofExcept_eq_done_iff.mp hw
  refine ((Keeps.read _).at u).seq fun scope w hscope => ?_
  cases hscope
  refine KeepsAt.seq ?_ fun _ _ _ => rfl
  have hu : u.blocks = t.blocks := hcopy.of_run hparent
  refine visitFrom_blocks _ binding _ body items 0 u.enterFrame fun context v hv hkept => ?_
  exact h context v ht ⟨parent, u, items, hparent, hitems, hv⟩ (hkept.trans hu)

end

namespace Moment.Undisturbed

variable {config : Config} {r : BlockRegistry Body} {m m' : Moment}

theorem after (h : m.Undisturbed config r) (hs : Leads config m m' ∨ Calls m m')
    (hblocks : m'.state.blocks = r) : m'.Undisturbed config r :=
  ⟨hblocks, fun m'' hin => h.quiet m'' (.head hs hin)⟩

/-- Evaluation registers nothing. -/
theorem of_eval {invoke : Invoke} (h : m.Undisturbed config r) {x : Expr} {v : Value} {t : State}
    (hv : x.eval config invoke m.state = (.done v, t)) : t.blocks = r :=
  (((eval_blocks x).at m.state).of_run hv).trans h.blocks

theorem of_evalAll {invoke : Invoke} (h : m.Undisturbed config r) {xs : List Expr}
    {values : List Value} {t : State}
    (hvalues : Expr.evalAll config invoke xs m.state = (.done values, t)) : t.blocks = r :=
  (((evalAll_blocks xs).at m.state).of_run hvalues).trans h.blocks

theorem not_registers {depth : Nat} {loop : Option LoopContext} {c : Stmt} {rest : List Stmt}
    {s : State} (h : Moment.Undisturbed config r ⟨depth, .code loop (c :: rest), s⟩) :
    c.registers ≠ true :=
  fun hc => h.quiet _ .refl ⟨loop, c, rest, rfl, hc⟩ h.blocks

end Moment.Undisturbed

/-! ## The run of a stretch -/

/-- Code that runs at this depth undisturbed keeps the registry. -/
def KeepsUndisturbed (config : Config) (r : BlockRegistry Body) (depth : Nat) : Prop :=
  ∀ (body : List Stmt) (loop : Option LoopContext) (s : State),
    Moment.Undisturbed config r ⟨depth, .code loop body, s⟩ →
    KeepsAt State.blocks s (Stmt.execAll config (invoke config depth) loop body)

/-- Every body that can be run from this depth keeps the registry. -/
def KeepsBelow (config : Config) (r : BlockRegistry Body) (depth : Nat) : Prop :=
  ∀ d, depth = d + 1 → KeepsUndisturbed config r d

section
variable {config : Config} {r : BlockRegistry Body} {depth : Nat}

/-- The definition that a statement asks for keeps the registry. -/
theorem evaluateBlock_blocks (below : KeepsBelow config r depth) {loop : Option LoopContext}
    {c : Stmt} {rest : List Stmt} {s : State} {name : String} {levelsUp : Nat}
    (hc : c.asksFor s = some ⟨name, levelsUp⟩)
    (h : Moment.Undisturbed config r ⟨depth, .code loop (c :: rest), s⟩) :
    KeepsAt State.blocks s (Render.evaluateBlock (invoke config depth) name levelsUp) := by
  have hresolve : KeepsAt State.blocks s (Render.resolveBlock name levelsUp) := by
    refine ((Keeps.read _).at s).seq fun blocks t _ => ?_
    cases blocks.resolve name levelsUp with
    | error _ => rfl
    | ok _ => rfl
  refine hresolve.seq fun body t ht => ?_
  -- A definition is only run if there is depth left; then it begins a moment of its own.
  cases depth with
  | zero => rfl
  | succ d =>
    obtain ⟨blocks, _, hread, ht⟩ := Action.bind_eq_done_iff.mp ht
    cases hread
    cases hbody : s.session.blocks.resolve name levelsUp with
    | error _ =>
      rw [hbody] at ht
      cases ht
    | ok found =>
      rw [hbody] at ht
      cases ht
      have hbegun := h.after (.inr (.definition hc hbody)) h.blocks
      exact (below d rfl body none _ hbegun).asWhole

/-- A loop keeps the registry if its body does wherever it is undisturbed. -/
theorem loop_blocks {loop : Option LoopContext} {c : Stmt} {rest : List Stmt} {s t : State}
    {iterable : Expr} {binding : Binding} {body : Body} {v : Value}
    (hloop : c.loop? = some (iterable, binding, body))
    (h : Moment.Undisturbed config r ⟨depth, .code loop (c :: rest), s⟩)
    (hv : iterable.eval config (invoke config depth) s = (.done v, t))
    (hbody : ∀ context u, Moment.Undisturbed config r ⟨depth, .code (some context) body, u⟩ →
      KeepsAt State.blocks u (Stmt.execAll config (invoke config depth) (some context) body)) :
    KeepsAt State.blocks t (Render.forLoop config v binding fun context =>
      asIteration (Stmt.execAll config (invoke config depth) (some context) body)) := by
  have hblocks : t.blocks = r := h.of_eval hv
  refine forLoop_blocks v binding _ t fun context u hdefined hi hkept => ?_
  have hbegun := h.after (.inl (.iteration hloop hv hdefined hi)) (hkept.trans hblocks)
  exact (hbody context u hbegun).asIteration

mutual

/-- The induction on code. -/
theorem Stmt.exec_blocks (below : KeepsBelow config r depth) :
    ∀ (c : Stmt) (rest : List Stmt) (loop : Option LoopContext) (s : State),
      Moment.Undisturbed config r ⟨depth, .code loop (c :: rest), s⟩ →
      KeepsAt State.blocks s (c.exec config (invoke config depth) loop)
  | .write _, _, _, s, _ => ((Keeps.write isApart_blocks _).at s).simply
  | .emit x, _, _, s, _ =>
    (((eval_blocks x).seq fun v => Keeps.emit isApart_blocks config v).at s).simply
  | .assign name x, _, _, s, _ =>
    (((eval_blocks x).seq fun v => assign_blocks name v).at s).simply
  | .assignBinding binding x, _, _, s, _ =>
    (((eval_blocks x).seq fun v => (Keeps.ofExcept _).seq fun values =>
      assignAll_blocks (binding.names.zip values)).at s).simply
  | .exportVar _ x, _, _, s, _ =>
    (((eval_blocks x).seq fun _ => Keeps.of_forall fun _ => rfl).at s).simply
  | .frame body, _, loop, s, h =>
    Stmt.execAll_blocks below body loop s.enterFrame (h.after (.inl .frame) h.blocks)
  | .escaping enabled body, _, loop, s, h =>
    Stmt.execAll_blocks below body loop (s.setAutoescape enabled)
      (h.after (.inl .escaping) h.blocks)
  | .setEscaping _, _, _, _, _ => rfl
  | .choose condition yes no, rest, loop, s, h => by
    refine ((eval_blocks condition).at s).seq fun v t hv => ?_
    have hbranch := h.after (.inl (.branch hv)) (h.of_eval hv)
    cases htrue : v.isTruthy with
    | true =>
      rw [htrue] at hbranch
      exact Stmt.execAll_blocks below yes loop t hbranch
    | false =>
      rw [htrue] at hbranch
      exact Stmt.execAll_blocks below no loop t hbranch
  | .forEach iterable binding body visited, rest, loop, s, h => by
    refine KeepsAt.simply (((eval_blocks iterable).at s).seq fun v t hv => ?_)
    have hbody := loop_blocks rfl h hv fun context u hu =>
      Stmt.execAll_blocks below body (some context) u hu
    refine hbody.seq fun any u _ => ?_
    cases visited with
    | some name => exact (assign_blocks name _).at u
    | none => rfl
  | .forElse iterable binding body otherwise, rest, loop, s, h => by
    refine KeepsAt.simply (((eval_blocks iterable).at s).seq fun v t hv => ?_)
    have hbody := loop_blocks rfl h hv fun context u hu =>
      Stmt.execAll_blocks below body (some context) u hu
    refine hbody.seq fun any u hany => ?_
    cases any with
    | true => rfl
    | false =>
      have hblocks : u.blocks = r := (hbody.of_run hany).trans (h.of_eval hv)
      have helse := h.after (.inl (.otherwise hv hany)) hblocks
      exact (Stmt.execAll_blocks below otherwise none u.enterFrame helse).asWhole
  | .breakLoop, _, _, _, _ => rfl
  | .continueLoop, _, _, _, _ => rfl
  | .block name levelsUp, _, _, s, h => (evaluateBlock_blocks below rfl h).simply
  | .blockLevel name level, _, _, s, h => by
    refine KeepsAt.simply ?_
    unfold Render.evaluateBlockLevel
    cases hlevel : levelsUpOfLevel level with
    | some levelsUp =>
      refine evaluateBlock_blocks below ?_ h
      rw [Stmt.asksFor, hlevel]
      rfl
    | none => rfl
  | .superBlock, _, _, s, h => by
    refine KeepsAt.simply (((Keeps.read _).at s).seq fun active t hread => ?_)
    cases hread
    cases hactive : s.block with
    | some active =>
      refine evaluateBlock_blocks below ?_ h
      rw [Stmt.asksFor, hactive]
      rfl
    | none => rfl
  | .includeTemplate name ignoreMissing, _, _, s, _ =>
    ((Keeps.includeTemplate isApart_blocks (fun _ _ => rfl) config _ name
      ignoreMissing).at s).simply
  | .includeFirstOf names ignoreMissing, _, _, s, _ =>
    ((Keeps.includeFirstOf isApart_blocks (fun _ _ => rfl) config _ names
      ignoreMissing).at s).simply
  | .importAs name target, _, _, s, _ =>
    (((importTemplate_blocks name).seq fun v => assign_blocks target v).at s).simply
  | .fromImport name items, _, _, s, _ =>
    (((importTemplate_blocks name).seq fun _ => assignAll_blocks _).at s).simply
  | .filterBlock filter arguments body, _, _, s, h => by
    refine KeepsAt.simply (((evalAll_blocks arguments).at s).seq fun given t hgiven => ?_)
    have hblocks : t.blocks = r := h.of_evalAll hgiven
    have hbegun := h.after (.inl (.filtered hgiven)) hblocks
    have hbody := (Stmt.execAll_blocks below body none _ hbegun).asWhole
    refine KeepsAt.seq ?_ fun text u _ =>
      ((Keeps.ofExcept _).seq fun _ => Keeps.write isApart_blocks _).at u
    show State.blocks (Render.withFrame (Render.capture _) t).2 = t.blocks
    rw [Render.withFrame, Action.bracket_apply, Pairing.Sound.capture_apply]
    exact hbody
  | .registerBlock _ _, _, _, _, h | .registerTemplate _, _, _, _, h
  | .extendTemplate _, _, _, _, h => absurd rfl h.not_registers
  | .log x, _, _, s, _ =>
    (((eval_blocks x).seq fun _ => Keeps.log isApart_blocks _).at s).simply
  | .context, _, _, _, _ | .probe, _, _, _, _ | .summarize, _, _, _, _ => rfl
  | .attempt body, _, loop, s, h => by
    have hbody := Stmt.execAll_blocks below body loop s (h.after (.inl .attempted) h.blocks)
    refine hbody.attempt.seq fun outcome t _ => ?_
    cases outcome <;> rfl

theorem Stmt.execAll_blocks (below : KeepsBelow config r depth) :
    ∀ (body : List Stmt) (loop : Option LoopContext) (s : State),
      Moment.Undisturbed config r ⟨depth, .code loop body, s⟩ →
      KeepsAt State.blocks s (Stmt.execAll config (invoke config depth) loop body)
  | [], _, _, _ => rfl
  | c :: rest, loop, s, h => by
    have hfirst := Stmt.exec_blocks below c rest loop s h
    refine hfirst.seq fun flow t ht => ?_
    cases flow with
    | next =>
      have hrest := h.after (.inl (.next ht)) ((hfirst.of_run ht).trans h.blocks)
      exact Stmt.execAll_blocks below rest loop t hrest
    | breakLoop | continueLoop => rfl

end

end

/-- The run lemma: code that runs undisturbed keeps the registry. -/
theorem keepsUndisturbed (config : Config) (r : BlockRegistry Body) :
    ∀ depth, KeepsUndisturbed config r depth
  | 0 => Stmt.execAll_blocks fun _ hd => by cases hd
  | depth + 1 => Stmt.execAll_blocks fun d hd => by
    cases hd
    exact keepsUndisturbed config r depth

namespace Moment.Undisturbed

variable {config : Config} {r : BlockRegistry Body} {m m' : Moment}

/-- The step lemma: what comes next is undisturbed too. -/
theorem leads (h : m.Undisturbed config r) (hs : Leads config m m') : m'.Undisturbed config r := by
  refine h.after (.inl hs) ?_
  cases hs with
  | @next depth loop c rest s t hrun =>
    have hkept := Stmt.exec_blocks (fun d _ => keepsUndisturbed config r d) c rest loop s h
    exact (hkept.of_run hrun).trans h.blocks
  | nextOperand hrun => exact h.of_eval hrun
  | branch hrun => exact h.of_eval hrun
  | @iteration depth _ _ _ iterable binding body s v t context u hloop hv hdefined hi =>
    have hblocks : t.blocks = r := h.of_eval hv
    refine (iterates_blocks hi fun context w hw hkept => ?_).trans hblocks
    have hbegun := h.after (.inl (.iteration hloop hv hdefined hw)) (hkept.trans hblocks)
    exact (keepsUndisturbed config r depth body (some context) w hbegun).asIteration
  | @otherwise depth _ iterable _ body _ _ s v t u hv hrun =>
    have hkept := loop_blocks rfl h hv fun context w hw =>
      keepsUndisturbed config r depth body (some context) w hw
    exact (hkept.of_run hrun).trans (h.of_eval hv)
  | @filtered _ _ _ _ _ _ _ _ t hrun =>
    have hblocks : t.blocks = r := h.of_evalAll hrun
    exact hblocks
  | operands | innerOperands | frame | escaping | attempted => exact h.blocks

theorem calls (h : m.Undisturbed config r) (hs : Calls m m') : m'.Undisturbed config r := by
  refine h.after (.inr hs) ?_
  cases hs
  exact h.blocks

/-- What comes later in the same session is undisturbed too. -/
theorem inside (h : m.Undisturbed config r) (hs : Inside config m m') :
    m'.Undisturbed config r := by
  induction hs with
  | refl => exact h
  | tail _ hs ih => exact hs.elim ih.leads ih.calls

end Moment.Undisturbed

/-- Up to the one statement that registers, the registry is the one from before. -/
theorem Moment.blocks_of_registers_once {config : Config} {m e : Moment} (he : Inside config m e)
    (honce : ∀ x, Inside config m x → x.Registers → x = e) :
    e.state.blocks = m.state.blocks := by
  -- Were it another one there, no statement that registers would find the old one.
  refine Classical.byContradiction fun hne => hne ?_
  have hundisturbed : m.Undisturbed config m.state.blocks := by
    refine ⟨rfl, fun x hx hregisters => ?_⟩
    rw [honce x hx hregisters]
    exact hne
  exact (hundisturbed.inside he).blocks

end Templating
