import Templating.Error

/-!
# Actions

An action works on a state.  It ends with a value, with an error, or not at all
within the depth it was given; whichever it is, the state it has reached by then
is kept, because output written before an error stays written.

`bracket` is the one way in which an action runs inside another situation: it
enters the situation, runs, and leaves it again however the inner action ended.
Everything that must be as it was after a frame, a block, a captured part or
another template is put back there and nowhere else.
-/
namespace Templating

/-- How an action ended. -/
inductive Outcome (α : Type) where
  | done (value : α)
  | failed (error : RenderError)
  /-- The action needs more depth than it was given. -/
  | unfinished
  deriving Repr

/-- A computation on a state that may fail and keeps the state either way. -/
def Action (σ α : Type) : Type := σ → Outcome α × σ

namespace Action

variable {σ α β : Type}

/-- End with a value. -/
protected def pure (a : α) : Action σ α := fun s => (.done a, s)

/-- Go on with the value, if there is one. -/
protected def bind (m : Action σ α) (f : α → Action σ β) : Action σ β := fun s =>
  match m s with
  | (.done a, t) => f a t
  | (.failed error, t) => (.failed error, t)
  | (.unfinished, t) => (.unfinished, t)

instance : Monad (Action σ) where
  pure := Action.pure
  bind := Action.bind

/-- End with an error. -/
def fail (error : RenderError) : Action σ α := fun s => (.failed error, s)

/-- End without an answer. -/
def unfinished : Action σ α := fun s => (.unfinished, s)

/-- Read the state. -/
def get : Action σ σ := fun s => (.done s, s)

/-- Read a part of the state. -/
def read (f : σ → α) : Action σ α := fun s => (.done (f s), s)

/-- Change the state. -/
def modify (f : σ → σ) : Action σ Unit := fun s => (.done (), f s)

/-- End with a value or an error that is there already. -/
def ofExcept : Except RenderError α → Action σ α
  | .ok a => Action.pure a
  | .error error => fail error

/-- Run an action and tell how it ended, unless it did not end. -/
def attempt (m : Action σ α) : Action σ (Except RenderError α) := fun s =>
  match m s with
  | (.done a, t) => (.done (.ok a), t)
  | (.failed error, t) => (.done (.error error), t)
  | (.unfinished, t) => (.unfinished, t)

/-- Run an action inside another situation.  `leave` is given the state before
the action and the state after it. -/
def bracket (enter : σ → σ) (leave : σ → σ → σ) (m : Action σ α) : Action σ α := fun s =>
  match m (enter s) with
  | (outcome, t) => (outcome, leave s t)

theorem bind_apply (m : Action σ α) (f : α → Action σ β) (s : σ) :
    (m >>= f) s =
      match m s with
      | (.done a, t) => f a t
      | (.failed error, t) => (.failed error, t)
      | (.unfinished, t) => (.unfinished, t) := rfl

theorem bracket_apply (enter : σ → σ) (leave : σ → σ → σ) (m : Action σ α) (s : σ) :
    bracket enter leave m s = ((m (enter s)).1, leave s (m (enter s)).2) := rfl

/-- What was done first decides what comes after. -/
theorem bind_of_done {m : Action σ α} {f : α → Action σ β} {s t : σ} {a : α}
    (h : m s = (.done a, t)) : (m >>= f) s = f a t := by
  rw [bind_apply, h]

/-- An error ends the whole action. -/
theorem bind_of_failed {m : Action σ α} {f : α → Action σ β} {s t : σ} {error : RenderError}
    (h : m s = (.failed error, t)) : (m >>= f) s = (.failed error, t) := by
  rw [bind_apply, h]

/-- So does a lack of depth. -/
theorem bind_of_unfinished {m : Action σ α} {f : α → Action σ β} {s t : σ}
    (h : m s = (.unfinished, t)) : (m >>= f) s = (.unfinished, t) := by
  rw [bind_apply, h]

/-- An action ends with a value only if all of its parts do. -/
theorem bind_eq_done_iff {m : Action σ α} {f : α → Action σ β} {s u : σ} {b : β} :
    (m >>= f) s = (.done b, u) ↔ ∃ a t, m s = (.done a, t) ∧ f a t = (.done b, u) := by
  constructor
  · intro h
    rw [bind_apply] at h
    rcases hm : m s with ⟨a | _ | _, t⟩ <;> rw [hm] at h
    · exact ⟨a, t, rfl, h⟩
    all_goals cases h
  · rintro ⟨a, t, hm, hf⟩
    rw [bind_of_done hm, hf]

theorem ofExcept_eq_done_iff {e : Except RenderError α} {s t : σ} {a : α} :
    ofExcept e s = (.done a, t) ↔ e = .ok a ∧ s = t := by
  cases e <;> simp [ofExcept, Action.pure, fail]

theorem ofExcept_of_ok {e : Except RenderError α} {a : α} (h : e = .ok a) (s : σ) :
    ofExcept e s = (.done a, s) :=
  ofExcept_eq_done_iff.mpr ⟨h, rfl⟩

/-- What comes after a reading is given the part that was read. -/
theorem bind_read (f : σ → α) (k : α → Action σ β) (s : σ) : (read f >>= k) s = k (f s) s := rfl

theorem attempt_of_done {m : Action σ α} {s t : σ} {a : α} (h : m s = (.done a, t)) :
    attempt m s = (.done (.ok a), t) := by
  rw [attempt, h]

theorem attempt_of_failed {m : Action σ α} {s t : σ} {error : RenderError}
    (h : m s = (.failed error, t)) : attempt m s = (.done (.error error), t) := by
  rw [attempt, h]

theorem attempt_state (m : Action σ α) (s : σ) : (attempt m s).2 = (m s).2 := by
  unfold attempt
  rcases m s with ⟨_ | _ | _, t⟩ <;> rfl

protected theorem bind_pure (m : Action σ α) : Action.bind m Action.pure = m := by
  funext s
  rcases h : m s with ⟨_ | _ | _, t⟩ <;> simp [Action.bind, Action.pure, h]

protected theorem bind_assoc {γ : Type} (m : Action σ α) (f : α → Action σ β)
    (g : β → Action σ γ) :
    Action.bind (Action.bind m f) g = Action.bind m fun a => Action.bind (f a) g := by
  funext s
  rcases h : m s with ⟨_ | _ | _, t⟩ <;> simp [Action.bind, h]

instance : LawfulMonad (Action σ) :=
  LawfulMonad.mk' (Action σ) Action.bind_pure (fun _ _ => rfl) Action.bind_assoc

end Action
end Templating
