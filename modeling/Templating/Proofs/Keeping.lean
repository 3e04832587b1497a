import Templating.Proofs.Course

/-!
# Parts of the state that an operation leaves alone

`Keeps f m` says that the action `m` leaves the part `f` of the state as it was,
however it ends.  Writing, counting instances, logging and caching concern parts
of the state that nothing else does; a part that is none of them (`IsApart`) is
kept by every operation that does nothing but these, and by the evaluation of
expressions if imports keep it.
-/
namespace Templating

variable {γ : Type}

/-- The course of a run that never changes a part of its state. -/
def Course.keeping (f : State → γ) : Course where
  Inv _ := True
  To s t := f t = f s
  refl _ := rfl
  trans h h' := h'.trans h
  inv _ _ := trivial

/-- An action leaves a part of the state as it was. -/
abbrev Keeps {α : Type} (f : State → γ) (m : Render α) : Prop :=
  (Course.keeping f).pairing.Alike m m fun _ => True

/-- A part of the state that output, counting, logging and caching do not
concern. -/
structure IsApart (f : State → γ) : Prop where
  logged : ∀ s e, f (s.logged e) = f s
  sink : ∀ (s : State) sink, f { s with sink := sink } = f s
  count : ∀ s next, f (s.withNextInstance next) = f s
  remember : ∀ s name t, f (s.remember name t) = f s

namespace Keeps

open Pairing

variable {f : State → γ} {α β : Type} {config : Config} {invoke : Invoke}

theorem of_forall {m : Render α} (h : ∀ s, f (m s).2 = f s) : Keeps f m :=
  Course.alike_of_forall fun s _ => ⟨h s, fun _ _ => trivial⟩

theorem apply {m : Render α} (h : Keeps f m) (s : State) : f (m s).2 = f s :=
  (Course.of_alike h (s := s) trivial).1

theorem pure (a : α) : Keeps f (pure a) := alike_pure trivial

theorem read (g : State → α) : Keeps f (Action.read g) := of_forall fun _ => rfl

theorem seq {m : Render α} {k : α → Render β} (hm : Keeps f m) (hk : ∀ a, Keeps f (k a)) :
    Keeps f (m >>= k) :=
  hm.bind fun a _ => hk a

theorem ofExcept (e : Except RenderError α) : Keeps f (Action.ofExcept e) :=
  alike_ofExcept fun _ _ => trivial

theorem caught {m : Render α} (hm : Keeps f m) : Keeps f (Action.attempt m) :=
  hm.attempt.any

/-- What a situation gives back at its end is kept, whatever happens inside. -/
theorem bracket {enter : State → State} {leave : State → State → State} {m : Render α}
    (h : ∀ s t, f (leave s t) = f s) : Keeps f (Action.bracket enter leave m) :=
  of_forall fun s => h s _

/-- Writing is nothing to a session. -/
theorem write_session (text : String) (s : State) :
    (Render.write text s).2.session = s.session := by
  unfold Render.write
  split <;> rfl

/-! ## Operations on nothing else -/

section
variable (hf : IsApart f)
include hf

theorem log (e : Event) : Keeps f (Render.log e) :=
  of_forall fun s => hf.logged s e

theorem write (text : String) : Keeps f (Render.write text) := by
  refine of_forall fun s => ?_
  unfold Render.write
  split
  · exact hf.sink s _
  · exact hf.logged s _
  · rfl
  · exact (hf.logged _ _).trans (hf.sink s _)

theorem emit (config : Config) (v : Value) : Keeps f (Render.emit config v) :=
  seq (Sound.refuseUndefined v) fun _ => (read _).seq fun _ => write hf _

theorem newInstance : Keeps f Render.newInstance := of_forall fun s => hf.count s _

theorem instantiate (v : Value) : Keeps f (Render.instantiate v) := of_forall fun s => hf.count s _

theorem copyEnclosing : Keeps f Render.copyEnclosing := by
  refine (read _).seq fun v => ?_
  split
  · exact (newInstance hf).seq fun _ => pure _
  · exact pure _

theorem getTemplate (config : Config) (name : String) :
    Keeps f (Render.getTemplate config name) := by
  have hnotify (n : Notice) : Keeps f (Render.notify n) := log hf _
  refine (read _).seq fun found => ?_
  cases found with
  | some t => exact (hnotify _).seq fun _ => pure t
  | none =>
    refine seq ?_ fun t => seq (of_forall fun s => hf.remember s name t) fun _ => pure t
    exact (hnotify _).seq fun _ => (log hf _).seq fun _ => ofExcept _

theorem fetch (config : Config) (name : String) :
    (Course.keeping f).pairing.Alike (Render.getTemplate config name)
      (Render.getTemplate config name) Vocabulary.full.Template :=
  (getTemplate hf config name).mono fun t _ => Vocabulary.template_full t

theorem getOptional (config : Config) (name : String) (ignoreMissing : Bool) :
    Keeps f (Render.getOptional config name ignoreMissing) :=
  (Sound.getOptional (fetch hf config) (fun _ => log hf _) name ignoreMissing).any

theorem selectOptional (config : Config) (names : List String) (ignoreMissing : Bool) :
    Keeps f (Render.selectOptional config names ignoreMissing) :=
  (Sound.selectOptional (fetch hf config) (fun _ => log hf _) names ignoreMissing).any

/-- Registering concerns the registry alone. -/
theorem registerBlocks (h : ∀ (s : State) name body, f (s.register name body) = f s)
    (t : Template) : Keeps f (Render.registerBlocks t) := by
  unfold Render.registerBlocks
  induction t.blocks.entries with
  | nil => exact pure _
  | cons entry rest ih =>
    exact seq (of_forall fun s => (hf.logged _ _).trans (h s _ _)) fun _ => ih

theorem asTemplate {name : String} {reach : Reach} {m : Render α}
    (h : ∀ s t, f (State.leaveTemplate reach s t) = f s) :
    Keeps f (Render.asTemplate config name reach m) := by
  refine seq ?_ fun _ => bracket h
  exact (read _).seq fun _ => (log hf _).seq fun _ => pure _

theorem extendTemplate (h : ∀ s t, f (State.leaveTemplate .extending s t) = f s)
    (config : Config) (invoke : Invoke) (name : String) :
    Keeps f (Render.extendTemplate config invoke name) :=
  (read _).seq fun _ => (getTemplate hf config _).seq fun _ => asTemplate hf h

theorem includeTemplate (h : ∀ s t, f (State.leaveTemplate .including s t) = f s)
    (config : Config) (invoke : Invoke) (name : String) (ignoreMissing : Bool) :
    Keeps f (Render.includeTemplate config invoke name ignoreMissing) := by
  refine (read _).seq fun resolved => (getOptional hf config _ _).seq fun found => ?_
  cases found with
  | some t => exact asTemplate hf h
  | none => exact pure _

theorem includeFirstOf (h : ∀ s t, f (State.leaveTemplate .including s t) = f s)
    (config : Config) (invoke : Invoke) (names : List String) (ignoreMissing : Bool) :
    Keeps f (Render.includeFirstOf config invoke names ignoreMissing) := by
  refine (read _).seq fun origin => (selectOptional hf config _ _).seq fun found => ?_
  cases found with
  | some t => exact asTemplate hf h
  | none => exact pure _

/-- Importing keeps what the end of an imported template gives back. -/
theorem importTemplate (h : ∀ s t, f (State.leaveTemplate .importing s t) = f s)
    (config : Config) (invoke : Invoke) (name : String) :
    Keeps f (Render.importTemplate config invoke name) :=
  (read _).seq fun _ => (getTemplate hf config _).seq fun _ => asTemplate hf h

theorem evaluates (h : ∀ s t, f (State.leaveTemplate .importing s t) = f s)
    (config : Config) (invoke : Invoke) :
    (Course.keeping f).pairing.Evaluates Vocabulary.full config invoke where
  autoescape := by
    rintro s _ ⟨rfl, -⟩
    rfl
  lookup _ := read _
  instantiate _ := instantiate hf _
  importTemplate _ := importTemplate hf h config invoke _

theorem eval (h : ∀ s t, f (State.leaveTemplate .importing s t) = f s) (x : Expr) :
    Keeps f (x.eval config invoke) :=
  ((evaluates hf h config invoke).eval (Vocabulary.closed_full config)
    (x.every_of_forall fun _ => trivial)).any

theorem evalAll (h : ∀ s t, f (State.leaveTemplate .importing s t) = f s) (xs : List Expr) :
    Keeps f (Expr.evalAll config invoke xs) :=
  ((evaluates hf h config invoke).evalAll (Vocabulary.closed_full config)
    (Expr.everyOf_of_forall (fun _ => trivial) xs)).any

end
end Keeps

theorem refuseUndefined_state {config : Config} (v : Value) (s : State) :
    (Render.refuseUndefined config v s).2 = s :=
  Keeps.apply (f := id) (Pairing.Sound.refuseUndefined v) s

/-! ## In one state -/

/-- An action, begun in this state, leaves a part of the state as it was. -/
def KeepsAt {γ α : Type} (f : State → γ) (s : State) (m : Render α) : Prop :=
  f (m s).2 = f s

section
variable {γ α β : Type} {f : State → γ} {s : State}

theorem Keeps.at {m : Render α} (h : Keeps f m) (s : State) : KeepsAt f s m := h.apply s

theorem KeepsAt.of_run {m : Render α} {outcome : Outcome α} {t : State} (h : KeepsAt f s m)
    (hrun : m s = (outcome, t)) : f t = f s := by
  unfold KeepsAt at h
  rwa [hrun] at h

theorem KeepsAt.seq {m : Render α} {k : α → Render β} (hm : KeepsAt f s m)
    (hk : ∀ a t, m s = (.done a, t) → KeepsAt f t (k a)) : KeepsAt f s (m >>= k) := by
  have hstate : f (m s).2 = f s := hm
  unfold KeepsAt
  rw [Action.bind_apply]
  rcases hrun : m s with ⟨outcome, t⟩
  rw [hrun] at hstate
  cases outcome with
  | done a => exact (hk a t hrun).trans hstate
  | failed _ | unfinished => exact hstate

theorem KeepsAt.attempt {m : Render α} (h : KeepsAt f s m) : KeepsAt f s (Action.attempt m) :=
  (congrArg f (Action.attempt_state m s)).trans h

theorem KeepsAt.simply {m : Render Unit} (h : KeepsAt f s m) : KeepsAt f s (Templating.simply m) :=
  h.seq fun _ _ _ => rfl

theorem KeepsAt.asWhole {m : Render Flow} (h : KeepsAt f s m) :
    KeepsAt f s (Templating.asWhole m) :=
  h.seq fun _ _ _ => rfl

theorem KeepsAt.asIteration {m : Render Flow} (h : KeepsAt f s m) :
    KeepsAt f s (Templating.asIteration m) :=
  h.seq fun _ _ _ => rfl

end

end Templating
