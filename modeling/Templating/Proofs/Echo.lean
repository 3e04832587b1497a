import Templating.Proofs.Growth
import Templating.Proofs.Renumbering
import Templating.Proofs.Standalone

/-!
# A run that echoes another one

Two runs of the same code are followed side by side.  The second may begin later:
new instances get higher numbers in it.  And it may work in a session that has
been used before: then the registry holds, above all that is registered now, the
definitions that were left in it, and something has been exported (`Reuse`).

Apart from that the second state shows what the first one does
(`State.EchoedBy`), and the second run writes the same chunks.  An operation
echoes if from such a pair of states it comes to the same end, with the same value
under the new numbers (`Pairing.AlikeAt`); each lemma here says so of one
operation.
-/
namespace Templating

/-! ## Pairs of actions with different values -/

@[simp] theorem Outcome.map_id {α : Type} (outcome : Outcome α) : outcome.map id = outcome := by
  cases outcome <;> rfl

namespace Pairing

variable (P : Pairing) {α β γ δ : Type}

/-- Begun in this state and in one that corresponds to it, the second action ends
like the first, with a value made of the value of the first. -/
def AlikeAt (f : α → β) (a : State) (m : Render α) (n : Render β) : Prop :=
  ∀ b, P.Rel a b → (n b).1 = (m a).1.map f ∧ P.To a b (m a).2 (n b).2

variable {P} {a : State} {m : Render α} {n : Render β} {f : α → β} {g : γ → δ}

theorem Alike.at {m n : Render α} {Q : α → Prop} (h : P.Alike m n Q) (a : State) :
    P.AlikeAt id a m n := by
  intro b hab
  obtain ⟨hout, hto, -⟩ := h a b hab
  rw [Outcome.map_id]
  exact ⟨hout.symm, hto⟩

theorem alikeAt_pure (f : α → β) (a : State) (x : α) : P.AlikeAt f a (pure x) (pure (f x)) :=
  fun _ hab => ⟨rfl, P.refl hab⟩

theorem alikeAt_fail (f : α → β) (a : State) (error : RenderError) :
    P.AlikeAt f a (Action.fail error) (Action.fail error) :=
  fun _ hab => ⟨rfl, P.refl hab⟩

theorem alikeAt_unfinished (f : α → β) (a : State) :
    P.AlikeAt f a Action.unfinished Action.unfinished :=
  fun _ hab => ⟨rfl, P.refl hab⟩

theorem alikeAt_read {p : State → α} {q : State → β} (h : ∀ b, P.Rel a b → q b = f (p a)) :
    P.AlikeAt f a (Action.read p) (Action.read q) :=
  fun b hab => ⟨congrArg Outcome.done (h b hab), P.refl hab⟩

theorem alikeAt_modify {p q : State → State} (h : ∀ b, P.Rel a b → P.To a b (p a) (q b)) :
    P.AlikeAt id a (Action.modify p) (Action.modify q) :=
  fun b hab => ⟨rfl, h b hab⟩

theorem alikeAt_ofExcept {e : Except RenderError α} {e' : Except RenderError β}
    (h : e' = e.map f) : P.AlikeAt f a (Action.ofExcept e) (Action.ofExcept e') := by
  subst h
  cases e with
  | ok x => exact alikeAt_pure f a x
  | error error => exact alikeAt_fail f a error

/-- One action after the other: the second is about the state in which the first
has ended. -/
theorem AlikeAt.bind {k : α → Render γ} {l : β → Render δ} (hm : P.AlikeAt f a m n)
    (hk : ∀ x t, m a = (.done x, t) → P.AlikeAt g t (k x) (l (f x))) :
    P.AlikeAt g a (m >>= k) (n >>= l) := by
  intro b hab
  obtain ⟨hout, hto⟩ := hm b hab
  rw [Action.bind_apply, Action.bind_apply]
  rcases hrun : m a with ⟨outcome, t⟩
  rcases hrun' : n b with ⟨outcome', t'⟩
  rw [hrun, hrun'] at hout hto
  obtain rfl : outcome' = outcome.map f := hout
  cases outcome with
  | done x =>
    obtain ⟨hout', hto'⟩ := hk x t hrun t' (P.rel hab hto)
    exact ⟨hout', P.trans hto hto'⟩
  | failed error => exact ⟨rfl, hto⟩
  | unfinished => exact ⟨rfl, hto⟩

/-- Reading a part of the state is no step; the parts read may differ. -/
theorem alikeAt_read_bind {ρ σ : Type} {p : State → ρ} {q : State → σ} {k : ρ → Render α}
    {l : σ → Render β} (h : ∀ b, P.Rel a b → P.AlikeAt f a (k (p a)) (l (q b))) :
    P.AlikeAt f a (Action.read p >>= k) (Action.read q >>= l) :=
  fun b hab => h b hab b hab

theorem AlikeAt.attempt (h : P.AlikeAt f a m n) :
    P.AlikeAt (Except.map f) a (Action.attempt m) (Action.attempt n) := by
  intro b hab
  obtain ⟨hout, hto⟩ := h b hab
  unfold Action.attempt
  rcases hrun : m a with ⟨outcome, t⟩
  rcases hrun' : n b with ⟨outcome', t'⟩
  rw [hrun, hrun'] at hout hto
  obtain rfl : outcome' = outcome.map f := hout
  cases outcome <;> exact ⟨rfl, hto⟩

/-- An action inside another situation, in which states may correspond in another
way. -/
theorem AlikeAt.bracket {P' : Pairing} {enter enter' : State → State}
    {leave leave' : State → State → State}
    (he : ∀ b, P.Rel a b → P'.Rel (enter a) (enter' b) ∧
      ∀ a' b', P'.To (enter a) (enter' b) a' b' → P.To a b (leave a a') (leave' b b'))
    (h : P'.AlikeAt f (enter a) m n) :
    P.AlikeAt f a (Action.bracket enter leave m) (Action.bracket enter' leave' n) := by
  intro b hab
  obtain ⟨hin, hleave⟩ := he b hab
  obtain ⟨hout, hto⟩ := h _ hin
  exact ⟨hout, hleave _ _ hto⟩

theorem AlikeAt.of_brackets {m n : Render α} {enter : State → State}
    {leave : State → State → State} (he : P.Brackets enter leave)
    (h : P.AlikeAt id (enter a) m n) :
    P.AlikeAt id a (Action.bracket enter leave m) (Action.bracket enter leave n) :=
  h.bracket (he a)

end Pairing

/-! ## The second run -/

/-- How the session of the second run stands to that of the first. -/
inductive Reuse where
  /-- Both have done the same so far. -/
  | fresh
  /-- The second one was used before, and these definitions were left in it. -/
  | used (left : BlockRegistry Body)

/-- What this means for the exports and the registries of the two sessions. -/
def Reuse.Holds (σ : Shift) (reuse : Reuse) (exports exports' : Table Value)
    (blocks blocks' : BlockRegistry Body) : Prop :=
  match reuse with
  | fresh => exports' = exports.map (Value.shifted σ) ∧ blocks' = blocks
  | used left => ∀ name, blocks'.chain name = blocks.chain name ++ left.chain name

/-- Apart from its session the second state shows what the first does, with later
instances under other numbers. -/
structure State.EchoedBy (config : Config) (σ : Shift) (reuse : Reuse) (a b : State) : Prop where
  scope : a.scope.ShowsShifted σ b.scope
  frames : b.frames = a.frames
  block : b.block = a.block
  template : b.session.template = a.session.template
  autoescape : b.session.autoescape = a.session.autoescape
  session : reuse.Holds σ a.session.exports b.session.exports a.session.blocks b.session.blocks
  first_le : σ.first ≤ a.world.nextInstance
  nextInstance : b.world.nextInstance = a.world.nextInstance + σ.distance
  faithful : a.session.Faithful config
  faithful' : b.session.Faithful config
  takesAll : a.sink.TakesAll
  takesAll' : b.sink.TakesAll

/-- Two runs of the same code, of which the second echoes the first and writes the
same chunks. -/
def Pairing.echo (config : Config) (σ : Shift) (reuse : Reuse) : Pairing where
  Rel a b := a.EchoedBy config σ reuse b
  To a b a' b' :=
    a'.EchoedBy config σ reuse b' ∧ ∃ chunks, a.Wrote chunks a' ∧ b.Wrote chunks b'
  refl {a b} hab := ⟨hab, [], .refl a, .refl b⟩
  trans h h' := by
    obtain ⟨-, first, ha, hb⟩ := h
    obtain ⟨hab, second, ha', hb'⟩ := h'
    exact ⟨hab, first ++ second, ha.trans ha', hb.trans hb'⟩
  rel _ h := h.1

namespace Reuse.Holds

variable {σ : Shift} {reuse : Reuse} {exports exports' : Table Value}
variable {blocks blocks' : BlockRegistry Body}

theorem insert (h : reuse.Holds σ exports exports' blocks blocks') (name : String) (v : Value) :
    reuse.Holds σ (exports.insert name v) (exports'.insert name (v.shifted σ)) blocks blocks' := by
  cases reuse with
  | fresh =>
    obtain ⟨rfl, hblocks⟩ := h
    exact ⟨Table.insert_map _ exports name v, hblocks⟩
  | used left => exact h

/-- A definition is registered below all that was left. -/
theorem register (h : reuse.Holds σ exports exports' blocks blocks') (name : String)
    (body : Body) :
    reuse.Holds σ exports exports' (blocks.register name body) (blocks'.register name body) := by
  cases reuse with
  | fresh => exact ⟨h.1, congrArg (·.register name body) h.2⟩
  | used left =>
    intro other
    rw [BlockRegistry.chain_register, BlockRegistry.chain_register]
    by_cases hname : other = name
    · subst hname
      rw [if_pos rfl, if_pos rfl, h other, List.cons_append]
    · rw [if_neg hname, if_neg hname, h other]

end Reuse.Holds

namespace State.EchoedBy

variable {config : Config} {σ : Shift} {reuse : Reuse} {a b a' b' : State}

/-- A step that writes nothing on either side. -/
theorem step (h : a'.EchoedBy config σ reuse b') (ha : a.Wrote [] a') (hb : b.Wrote [] b') :
    (Pairing.echo config σ reuse).To a b a' b' :=
  ⟨h, [], ha, hb⟩

theorem noted (h : a.EchoedBy config σ reuse b) {e e' : Event} (he : e.chunk? = none)
    (he' : e'.chunk? = none) :
    (Pairing.echo config σ reuse).To a b (a.logged e) (b.logged e') :=
  step { h with } (.logged a he) (.logged b he')

theorem assigned (h : a.EchoedBy config σ reuse b) (name : String) (v : Value) :
    (Pairing.echo config σ reuse).To a b (a.assign name v) (b.assign name (v.shifted σ)) := by
  have htop : b.isTopLevel = a.isTopLevel := by rw [State.isTopLevel, State.isTopLevel, h.frames]
  have hbound := h.scope.bind [(name, v)]
  unfold State.assign
  rw [htop]
  by_cases ha : a.isTopLevel = true
  · rw [if_pos ha, if_pos ha]
    exact step { h with scope := hbound, session := h.session.insert name v }
      (.nothing rfl rfl) (.nothing rfl rfl)
  · rw [if_neg ha, if_neg ha]
    exact step { h with scope := hbound } (.nothing rfl rfl) (.nothing rfl rfl)

/-- The counter moves on by as much on both sides. -/
theorem counted (h : a.EchoedBy config σ reuse b) {next : Nat}
    (hnext : a.world.nextInstance ≤ next) :
    (Pairing.echo config σ reuse).To a b (a.withNextInstance next)
      (b.withNextInstance (next + σ.distance)) :=
  step { h with first_le := Nat.le_trans h.first_le hnext, nextInstance := rfl }
    (.nothing rfl rfl) (.nothing rfl rfl)

end State.EchoedBy

/-! ## Operations -/

namespace Echo

open Pairing

variable {config : Config} {σ : Shift} {reuse : Reuse} {α β : Type} {f : α → β}

/-- What the second action does to a state that echoes another one is what the
first does to that one. -/
abbrev EchoesAt (config : Config) (σ : Shift) (reuse : Reuse) (f : α → β) (a : State)
    (m : Render α) (n : Render β) : Prop :=
  (Pairing.echo config σ reuse).AlikeAt f a m n

/-! ### Output -/

theorem log {e e' : Event} (he : e.chunk? = none) (he' : e'.chunk? = none) (a : State) :
    EchoesAt config σ reuse id a (Render.log e) (Render.log e') :=
  alikeAt_modify fun _ hab => hab.noted he he'

theorem write (text : String) (a : State) :
    EchoesAt config σ reuse id a (Render.write text) (Render.write text) := by
  intro b hab
  obtain ⟨sink, log, hwrote, hrun⟩ := write_of_takesAll hab.takesAll text
  obtain ⟨sink', log', hwrote', hrun'⟩ := write_of_takesAll hab.takesAll' text
  rw [hrun, hrun']
  have hechoed : (a.withOutput sink log).EchoedBy config σ reuse (b.withOutput sink' log') :=
    { hab with
      takesAll := hwrote.sink.takesAll hab.takesAll
      takesAll' := hwrote'.sink.takesAll hab.takesAll' }
  exact ⟨rfl, hechoed, [text], hwrote, hwrote'⟩

theorem refuseUndefined (v : Value) (a : State) :
    EchoesAt config σ reuse id a (Render.refuseUndefined config v)
      (Render.refuseUndefined config (v.shifted σ)) := by
  have hsame : Render.refuseUndefined config (v.shifted σ) = Render.refuseUndefined config v := by
    cases v <;> rfl
  rw [hsame]
  exact (Sound.refuseUndefined v).at a

theorem emit (v : Value) (a : State) :
    EchoesAt config σ reuse id a (Render.emit config v)
      (Render.emit config (v.shifted σ)) := by
  refine (refuseUndefined v a).bind fun _ t _ => alikeAt_read_bind fun b hab => ?_
  rw [hab.autoescape, Value.finalize_shifted]
  exact write _ t

/-! ### Names and instances -/

theorem lookup (name : String) (a : State) :
    EchoesAt config σ reuse (Value.shifted σ) a (Render.lookup name) (Render.lookup name) :=
  alikeAt_read fun _ hab => hab.scope.lookup name

theorem assign (name : String) (v : Value) (a : State) :
    EchoesAt config σ reuse id a (Render.assign name v) (Render.assign name (v.shifted σ)) :=
  alikeAt_modify fun _ hab => hab.assigned name v

theorem assignAll : ∀ (bindings : List (String × Value)) (a : State),
    EchoesAt config σ reuse id a (Render.assignAll bindings)
      (Render.assignAll (bindings.map σ.onBinding))
  | [], a => alikeAt_pure id a ()
  | (name, v) :: rest, a => (assign name v a).bind fun _ t _ => assignAll rest t

theorem zip_shifted (names : List String) (values : List Value) :
    names.zip (values.map (Value.shifted σ)) = (names.zip values).map σ.onBinding :=
  List.zip_map_right ..

theorem assignBinding (binding : Binding) (v : Value) (a : State) :
    EchoesAt config σ reuse id a (Render.assignBinding config binding v)
      (Render.assignBinding config binding (v.shifted σ)) := by
  have hunpacked := (binding.unpack config.unpacking v).toExcept_shifted σ
  rw [← Binding.unpack_shifted] at hunpacked
  refine (alikeAt_ofExcept hunpacked).bind fun values t _ => ?_
  rw [zip_shifted]
  exact assignAll _ t

theorem exportVar (name : String) (v : Value) (a : State) :
    EchoesAt config σ reuse id a (Render.exportVar name v)
      (Render.exportVar name (v.shifted σ)) :=
  alikeAt_modify fun _ hab => State.EchoedBy.step
    { hab with session := hab.session.insert name v } (.nothing rfl rfl) (.nothing rfl rfl)

theorem setAutoescape (enabled : Bool) (a : State) :
    EchoesAt config σ reuse id a (Render.setAutoescape enabled) (Render.setAutoescape enabled) :=
  alikeAt_modify fun _ hab => State.EchoedBy.step
    { hab with autoescape := rfl } (.nothing rfl rfl) (.nothing rfl rfl)

theorem instantiate (v : Value) (a : State) :
    EchoesAt config σ reuse (Value.shifted σ) a (Render.instantiate v)
      (Render.instantiate v) := by
  intro b hab
  obtain ⟨hrenewed, hle⟩ := v.renew_shifted σ hab.first_le
  have hcounted := hab.counted hle
  unfold Render.instantiate
  rw [hab.nextInstance, hrenewed]
  exact ⟨rfl, hcounted⟩

theorem newInstance (a : State) :
    EchoesAt config σ reuse σ.apply a Render.newInstance Render.newInstance := by
  intro b hab
  have hcounted := hab.counted (Nat.le_succ a.world.nextInstance)
  have hnext : b.world.nextInstance + 1 = a.world.nextInstance + 1 + σ.distance := by
    rw [hab.nextInstance, Nat.add_right_comm]
  unfold Render.newInstance
  rw [hnext, hab.nextInstance]
  exact ⟨congrArg Outcome.done (σ.apply_of_le hab.first_le).symm, hcounted⟩

/-! ### Situations -/

theorem frame : (Pairing.echo config σ reuse).Brackets State.enterFrame State.leaveFrame := by
  intro a b hab
  refine ⟨{ hab with frames := congrArg (· + 1) hab.frames }, ?_⟩
  rintro a' b' ⟨hab', chunks, ha, hb⟩
  have hechoed : (State.leaveFrame a a').EchoedBy config σ reuse (State.leaveFrame b b') :=
    { hab' with scope := hab.scope, frames := congrArg (· - 1) hab'.frames }
  exact ⟨hechoed, chunks, ha, hb⟩

theorem escaping (enabled : Bool) : (Pairing.echo config σ reuse).Brackets
    (fun s => s.setAutoescape enabled) State.leaveEscaping := by
  intro a b hab
  refine ⟨{ hab with autoescape := rfl }, ?_⟩
  rintro a' b' ⟨hab', chunks, ha, hb⟩
  have hechoed : (State.leaveEscaping a a').EchoedBy config σ reuse
      (State.leaveEscaping b b') :=
    { hab' with autoescape := hab.autoescape }
  exact ⟨hechoed, chunks, ha, hb⟩

theorem block (active : ActiveBlock) : (Pairing.echo config σ reuse).Brackets
    (State.enterBlock active) State.leaveBlock := by
  intro a b hab
  refine ⟨{ hab with frames := rfl, block := rfl }, ?_⟩
  rintro a' b' ⟨hab', chunks, ha, hb⟩
  have hechoed : (State.leaveBlock a a').EchoedBy config σ reuse (State.leaveBlock b b') :=
    { hab' with scope := hab.scope, frames := hab.frames, block := hab.block }
  exact ⟨hechoed, chunks, ha, hb⟩

theorem capture :
    (Pairing.echo config σ reuse).Brackets State.enterCapture State.leaveCapture := by
  intro a b hab
  refine ⟨{ hab with takesAll := trivial, takesAll' := trivial }, ?_⟩
  rintro a' b' ⟨hab', chunks, ha, hb⟩
  have hechoed : (State.leaveCapture a a').EchoedBy config σ reuse
      (State.leaveCapture b b') :=
    { hab' with takesAll := hab.takesAll, takesAll' := hab.takesAll' }
  -- The chunks were captured on both sides, so they are written on neither.
  exact hechoed.step ha.leaveCapture hb.leaveCapture

theorem captureText {a : State} {m n : Render Unit}
    (h : EchoesAt config σ reuse id a.enterCapture m n) :
    EchoesAt config σ reuse id a (Render.capture m) (Render.capture n) := by
  intro b hab
  obtain ⟨hin, hleave⟩ := capture a b hab
  obtain ⟨hout, hto⟩ := h _ hin
  have ⟨_, chunks, ha, hb⟩ := hto
  have htext : (n b.enterCapture).2.captured = (m a.enterCapture).2.captured :=
    hb.captured.trans ha.captured.symm
  rw [Sound.capture_apply, Sound.capture_apply, hout, htext, Outcome.map_id, Outcome.map_id]
  exact ⟨rfl, hleave _ _ hto⟩

/-! ### Loops -/

theorem copyEnclosing (a : State) :
    EchoesAt config σ reuse (Option.map σ.onLoop) a Render.copyEnclosing
      Render.copyEnclosing := by
  refine (lookup loopVariable a).bind fun v t _ => ?_
  cases v with
  | loop id context =>
    exact (newInstance t).bind fun id u _ =>
      alikeAt_pure (Option.map σ.onLoop) u (some (id, context))
  | _ => exact alikeAt_pure (Option.map σ.onLoop) t none

theorem beginIteration {scope scope' : Scope} (hscope : scope.ShowsShifted σ scope')
    (binding : Binding) (context : LoopContext) (values : List Value) (a : State) :
    EchoesAt config σ reuse id a (Render.beginIteration scope binding context values)
      (Render.beginIteration scope' binding (context.shifted σ)
        (values.map (Value.shifted σ))) := by
  refine (newInstance a).bind fun id t _ => alikeAt_modify fun b hab => ?_
  have hbound := hscope.bind ((loopVariable, .loop id context) :: binding.names.zip values)
  rw [List.map_cons, ← zip_shifted] at hbound
  exact State.EchoedBy.step { hab with scope := hbound } (.nothing rfl rfl) (.nothing rfl rfl)

/-- The induction on the elements: each iteration begins where the second run
echoes the first. -/
theorem visitFrom (it : Iteration) (binding : Binding) {scope scope' : Scope}
    (hscope : scope.ShowsShifted σ scope') {body body' : LoopContext → Render LoopStep} :
    ∀ (items : List Value) (index0 : Nat) (s : State),
    (∀ context t, it.Visits binding scope body index0 items s context t →
      EchoesAt config σ reuse id t (body context) (body' (context.shifted σ))) →
    EchoesAt config σ reuse id s
      (it.visitFrom binding (fun context values => do
        Render.beginIteration scope binding context values
        body context) index0 items)
      (Iteration.visitFrom ⟨it.length, it.parent.map σ.onLoop, it.unpacking⟩ binding
        (fun context values => do
          Render.beginIteration scope' binding context values
          body' context) index0 (items.map (Value.shifted σ)))
  | [], index0, s, _ => alikeAt_pure id s index0
  | item :: rest, index0, s, h => by
    have hcontext : Iteration.contextAt ⟨it.length, it.parent.map σ.onLoop, it.unpacking⟩ index0 =
        (it.contextAt index0).shifted σ := (LoopContext.ofPosition_shifted ..).symm
    have hunpacked := (binding.unpack it.unpacking item).toExcept_shifted σ
    rw [← Binding.unpack_shifted] at hunpacked
    rw [List.map_cons]
    unfold Iteration.visitFrom
    refine (alikeAt_ofExcept hunpacked).bind fun values t hvalues => ?_
    obtain ⟨hparts, rfl⟩ := Action.ofExcept_eq_done_iff.mp hvalues
    rw [hcontext]
    have hfirst : EchoesAt config σ reuse id s
        (Render.beginIteration scope binding (it.contextAt index0) values >>= fun _ =>
          body (it.contextAt index0))
        (Render.beginIteration scope' binding ((it.contextAt index0).shifted σ)
          (values.map (Value.shifted σ)) >>= fun _ => body' ((it.contextAt index0).shifted σ)) :=
      (beginIteration hscope binding _ values s).bind fun _ t ht => h _ t (.here hparts ht)
    refine hfirst.bind fun step u hstep => ?_
    obtain ⟨_, t, ht, hbody⟩ := Action.bind_eq_done_iff.mp hstep
    cases step with
    | stop => exact alikeAt_pure id u (index0 + 1)
    | goOn =>
      refine visitFrom it binding hscope rest (index0 + 1) u fun context v hv => ?_
      exact h context v (.later hparts ht hbody hv)

theorem forLoop (iterable : Value) (binding : Binding)
    {body body' : LoopContext → Render LoopStep} (s : State)
    (h : ∀ context t, Render.refuseUndefined config iterable s = (.done (), s) →
      Render.Iterates config iterable binding body s context t →
      EchoesAt config σ reuse id t (body context) (body' (context.shifted σ))) :
    EchoesAt config σ reuse id s (Render.forLoop config iterable binding body)
      (Render.forLoop config (iterable.shifted σ) binding body') := by
  refine (refuseUndefined iterable s).bind fun _ t ht => ?_
  obtain rfl : t = s := by
    have hrefuse : (Render.refuseUndefined config iterable s).2 = s :=
      refuseUndefined_state iterable s
    rwa [ht] at hrefuse
  refine (copyEnclosing t).bind fun parent u hparent => ?_
  refine (alikeAt_ofExcept (Iteration.itemsOf_shifted σ iterable)).bind fun items w hw => ?_
  obtain ⟨hitems, rfl⟩ := Action.ofExcept_eq_done_iff.mp hw
  refine alikeAt_read_bind fun b hab => ?_
  refine AlikeAt.bind (f := id) ?_ fun visited w _ => alikeAt_pure id w (decide (0 < visited))
  refine AlikeAt.of_brackets frame ?_
  unfold Iteration.run
  rw [List.length_map]
  refine visitFrom ⟨items.length, parent, config.unpacking⟩ binding hab.scope items 0
    u.enterFrame fun context v hv => ?_
  exact h context v ht ⟨parent, u, items, hparent, hitems, hv⟩

/-! ### Templates and definitions -/

theorem fetch (config : Config) (name : String) : (Pairing.echo config σ reuse).Alike
    (Render.getTemplate config name) (Render.getTemplate config name)
    Vocabulary.full.Template := by
  intro a b hab
  obtain ⟨cache, log, hfaithful, hwrote, hrun⟩ := getTemplate_of_faithful hab.faithful name
  obtain ⟨cache', log', hfaithful', hwrote', hrun'⟩ := getTemplate_of_faithful hab.faithful' name
  rw [hrun, hrun']
  have hechoed : (a.withFetched cache log).EchoedBy config σ reuse
      (b.withFetched cache' log') :=
    { hab with faithful := hfaithful, faithful' := hfaithful' }
  exact ⟨rfl, hechoed.step hwrote hwrote', fun t _ => Vocabulary.template_full t⟩

theorem alikeNotify (n : Notice) : (Pairing.echo config σ reuse).Alike (Render.notify n)
    (Render.notify n) fun _ => True :=
  alike_modify fun _ _ hab => hab.noted rfl rfl

theorem resolveName (name : String) (a : State) :
    EchoesAt config σ reuse id a (Render.resolveName config name)
      (Render.resolveName config name) :=
  alikeAt_read fun _ hab => congrArg (config.joinPath name) hab.template

theorem registerBlock (name : String) (body : Body) (a : State) :
    EchoesAt config σ reuse id a (Render.registerBlock name body)
      (Render.registerBlock name body) := by
  intro b hab
  have hregistered : (a.register name body).EchoedBy config σ reuse (b.register name body) :=
    { hab with session := hab.session.register name body }
  have hstep : (Pairing.echo config σ reuse).To a b (a.register name body)
      (b.register name body) := hregistered.step (.nothing rfl rfl) (.nothing rfl rfl)
  exact ⟨rfl, (Pairing.echo config σ reuse).trans hstep (hregistered.noted rfl rfl)⟩

theorem registerAll : ∀ (blocks : List (String × Body)) (a : State),
    EchoesAt config σ reuse id a (Render.registerAll blocks) (Render.registerAll blocks)
  | [], a => alikeAt_pure id a ()
  | (name, body) :: rest, a => (registerBlock name body a).bind fun _ t _ => registerAll rest t

theorem registerBlocks (t : Template) (a : State) :
    EchoesAt config σ reuse id a (Render.registerBlocks t) (Render.registerBlocks t) :=
  registerAll t.blocks.entries a

end Echo

end Templating
