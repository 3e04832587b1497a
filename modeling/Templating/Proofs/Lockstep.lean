import Templating.Proofs.Vocabulary

/-!
# Two runs in lockstep

A fact about all runs of all code is proved once for every operation and then
carried along the code.  This module does the carrying for a whole class of
facts at a time, stated for two runs of the same code side by side; a fact about
one run is the case in which both begin in the same state (`Course.pairing`).

A `Pairing` says which pairs of states correspond (`Rel`), and what a pair of
states may have become some time later (`To`).  Two actions are **alike**
(`Pairing.Alike`) if from corresponding states they end in the same way, with
the same value, and in states the first two may have become.  Being alike goes
through all the ways in which actions are put together.

What remains to be said of a pairing is what each elementary change of the state
does to it: a notice, a chunk written, a name bound, a frame opened and closed,
and so on.  `Pairing.Sound` lists exactly that, for the values, texts and code
of a vocabulary.  From a sound pairing every operation of a render is alike to
itself.
-/
namespace Templating

/-- Which pairs of states correspond, and what such a pair may have become. -/
structure Pairing where
  Rel : State → State → Prop
  To : State → State → State → State → Prop
  refl : ∀ {a b}, Rel a b → To a b a b
  trans : ∀ {a b a' b' a'' b''}, To a b a' b' → To a' b' a'' b'' → To a b a'' b''
  /-- What corresponding states may have become corresponds again. -/
  rel : ∀ {a b a' b'}, Rel a b → To a b a' b' → Rel a' b'

/-- What running code can tell of a state.  Where its scope binds a name, how
much is cached and what was logged is not part of it. -/
structure State.LooksLike (a b : State) : Prop where
  lookup : ∀ name, a.scope.lookup name = b.scope.lookup name
  frames : a.frames = b.frames
  block : a.block = b.block
  template : a.session.template = b.session.template
  autoescape : a.session.autoescape = b.session.autoescape
  exports : a.session.exports = b.session.exports
  blocks : a.session.blocks = b.session.blocks
  nextInstance : a.world.nextInstance = b.world.nextInstance

theorem State.LooksLike.refl (s : State) : s.LooksLike s :=
  ⟨fun _ => rfl, rfl, rfl, rfl, rfl, rfl, rfl, rfl⟩

/-- The state with another number for the next instance. -/
def State.withNextInstance (s : State) (next : InstanceId) : State :=
  { s with world := { s.world with nextInstance := next } }

/-- The state with another definition of a block. -/
def State.register (s : State) (name : String) (body : Body) : State :=
  { s with session := { s.session with blocks := s.session.blocks.register name body } }

/-- The state in which a template begins that is reached from this one. -/
def State.enterDerived (config : Config) (name : String) (reach : Reach) (s : State) : State :=
  s.enterTemplate (s.session.derive config name reach)

/-- The state in which an iteration begins: the targets are bound in the scope
in which the loop began. -/
def State.rebind (scope : Scope) (bindings : List (String × Value)) (s : State) : State :=
  { s with scope := scope.bind bindings }

namespace Pairing

variable (P : Pairing) {α β : Type}

/-- Two actions that end in the same way from corresponding states. -/
def Alike (m n : Render α) (Q : α → Prop) : Prop :=
  ∀ a b, P.Rel a b →
    (m a).1 = (n b).1 ∧ P.To a b (m a).2 (n b).2 ∧ ∀ x, (m a).1 = .done x → Q x

/-- A situation that corresponding states enter and leave together. -/
def Brackets (enter : State → State) (leave : State → State → State) : Prop :=
  ∀ a b, P.Rel a b → P.Rel (enter a) (enter b) ∧
    ∀ a' b', P.To (enter a) (enter b) a' b' → P.To a b (leave a a') (leave b b')

/-- What each elementary change of the state does to a pairing. -/
structure Sound (V : Vocabulary) (config : Config) : Prop where
  looks : ∀ {a b}, P.Rel a b → a.LooksLike b
  looked : ∀ {a b}, P.Rel a b → ∀ name, V.value (a.scope.lookup name)
  exported : ∀ {a b}, P.Rel a b → ∀ entry ∈ a.session.exports.entries, V.value entry.2
  defined : ∀ {a b}, P.Rel a b → ∀ {name levelsUp body},
    a.session.blocks.resolve name levelsUp = .ok body → V.Code body
  fetch : ∀ name, P.Alike (Render.getTemplate config name) (Render.getTemplate config name)
    V.Template
  /-- What is noted may depend on more of a state than code can tell. -/
  note : ∀ {a b}, P.Rel a b → ∀ {e : State → Event}, (∀ s, (e s).chunk? = none) →
    P.To a b (a.logged (e a)) (b.logged (e b))
  write : ∀ {text}, V.text text →
    P.Alike (Render.write text) (Render.write text) fun _ => True
  emitted : ∀ {a b}, P.Rel a b → ∀ {v}, V.value v → V.text (v.finalize a.session.autoescape)
  count : ∀ {a b}, P.Rel a b → ∀ next, P.To a b (a.withNextInstance next) (b.withNextInstance next)
  assign : ∀ {a b}, P.Rel a b → ∀ {v}, V.value v → ∀ name,
    P.To a b (a.assign name v) (b.assign name v)
  exportVar : ∀ {a b}, P.Rel a b → ∀ {v}, V.value v → ∀ name,
    P.To a b (a.exportVar name v) (b.exportVar name v)
  setEscaping : ∀ {a b}, P.Rel a b → ∀ {enabled}, V.stmt (.setEscaping enabled) →
    P.To a b (a.setAutoescape enabled) (b.setAutoescape enabled)
  register : ∀ {a b}, P.Rel a b → ∀ {body}, V.Code body → ∀ name,
    P.To a b (a.register name body) (b.register name body)
  /-- The scopes of corresponding states correspond for as long as someone holds
  them. -/
  rebind : ∀ {a₀ b₀ a b}, P.Rel a₀ b₀ → P.Rel a b → ∀ {bindings},
    (∀ entry ∈ bindings, V.value entry.2) →
    P.To a b (a.rebind a₀.scope bindings) (b.rebind b₀.scope bindings)
  frame : P.Brackets State.enterFrame State.leaveFrame
  escaping : ∀ {enabled body}, V.stmt (.escaping enabled body) →
    P.Brackets (fun s => s.setAutoescape enabled) State.leaveEscaping
  block : ∀ block, P.Brackets (State.enterBlock block) State.leaveBlock
  template : ∀ name reach,
    P.Brackets (State.enterDerived config name reach) (State.leaveTemplate reach)
  capture : P.Brackets State.enterCapture State.leaveCapture
  captured : ∀ {a b}, P.Rel a b → ∀ {a' b'}, P.To a.enterCapture b.enterCapture a' b' →
    a'.captured = b'.captured ∧ V.text a'.captured

/-! ## Putting actions together -/

variable {P} {m n : Render α} {Q : α → Prop}

/-- Two such actions end with one outcome. -/
theorem Alike.run (h : P.Alike m n Q) {a b : State} (hab : P.Rel a b) :
    ∃ outcome a' b', m a = (outcome, a') ∧ n b = (outcome, b') ∧ P.To a b a' b' ∧
      ∀ x, outcome = .done x → Q x := by
  obtain ⟨hout, hto, hval⟩ := h a b hab
  exact ⟨(m a).1, (m a).2, (n b).2, rfl, by rw [hout], hto, hval⟩

theorem Alike.mono {S : α → Prop} (h : P.Alike m n Q) (hQ : ∀ x, Q x → S x) : P.Alike m n S := by
  intro a b hab
  obtain ⟨hout, hto, hval⟩ := h a b hab
  exact ⟨hout, hto, fun x hx => hQ x (hval x hx)⟩

theorem Alike.any (h : P.Alike m n Q) : P.Alike m n fun _ => True :=
  h.mono fun _ _ => trivial

theorem alike_pure {x : α} (hx : Q x) : P.Alike (pure x) (pure x) Q := by
  intro a b hab
  refine ⟨rfl, P.refl hab, fun y hy => ?_⟩
  cases hy
  exact hx

theorem alike_fail (error : RenderError) : P.Alike (Action.fail error) (Action.fail error) Q :=
  fun _ _ hab => ⟨rfl, P.refl hab, fun _ hx => by cases hx⟩

theorem alike_unfinished : P.Alike Action.unfinished Action.unfinished Q :=
  fun _ _ hab => ⟨rfl, P.refl hab, fun _ hx => by cases hx⟩

theorem alike_ofExcept {e : Except RenderError α} (h : ∀ x, e = .ok x → Q x) :
    P.Alike (Action.ofExcept e) (Action.ofExcept e) Q := by
  cases e with
  | ok x => exact alike_pure (h x rfl)
  | error error => exact alike_fail error

/-- One action after the other: the second may count on what the first yields. -/
theorem Alike.bind {f g : α → Render β} {S : β → Prop} (h : P.Alike m n Q)
    (hf : ∀ x, Q x → P.Alike (f x) (g x) S) : P.Alike (m >>= f) (n >>= g) S := by
  intro a b hab
  obtain ⟨outcome, a', b', hm, hn, hto, hval⟩ := h.run hab
  rw [Action.bind_apply, Action.bind_apply, hm, hn]
  cases outcome with
  | done x =>
    obtain ⟨hout', hto', hval'⟩ := hf x (hval x rfl) a' b' (P.rel hab hto)
    exact ⟨hout', P.trans hto hto', hval'⟩
  | failed error => exact ⟨rfl, hto, fun _ hx => by cases hx⟩
  | unfinished => exact ⟨rfl, hto, fun _ hx => by cases hx⟩

/-- Reading a part of the state is no step; the parts read may differ. -/
theorem alike_read_bind {γ : Type} {f : State → γ} {k l : γ → Render α}
    (h : ∀ a b, P.Rel a b → P.Alike (k (f a)) (l (f b)) Q) :
    P.Alike (Action.read f >>= k) (Action.read f >>= l) Q :=
  fun a b hab => h a b hab a b hab

theorem alike_read {f : State → α} (h : ∀ a b, P.Rel a b → f a = f b ∧ Q (f a)) :
    P.Alike (Action.read f) (Action.read f) Q := by
  intro a b hab
  obtain ⟨heq, hQ⟩ := h a b hab
  refine ⟨congrArg Outcome.done heq, P.refl hab, fun x hx => ?_⟩
  cases hx
  exact hQ

theorem alike_modify {f g : State → State} (h : ∀ a b, P.Rel a b → P.To a b (f a) (g b)) :
    P.Alike (Action.modify f) (Action.modify g) fun _ => True :=
  fun a b hab => ⟨rfl, h a b hab, fun _ _ => trivial⟩

/-- An error that is caught leaves the states as the failed actions left them. -/
theorem Alike.attempt (h : P.Alike m n Q) :
    P.Alike (Action.attempt m) (Action.attempt n) fun r => ∀ x, r = .ok x → Q x := by
  intro a b hab
  obtain ⟨outcome, a', b', hm, hn, hto, hval⟩ := h.run hab
  rw [Action.attempt, Action.attempt, hm, hn]
  cases outcome with
  | done x =>
    refine ⟨rfl, hto, fun r hr y hy => ?_⟩
    cases hr
    cases hy
    exact hval x rfl
  | failed error =>
    refine ⟨rfl, hto, fun r hr y hy => ?_⟩
    cases hr
    cases hy
  | unfinished => exact ⟨rfl, hto, fun _ hx => by cases hx⟩

theorem Alike.bracket {enter : State → State} {leave : State → State → State}
    (he : P.Brackets enter leave) (h : P.Alike m n Q) :
    P.Alike (Action.bracket enter leave m) (Action.bracket enter leave n) Q := by
  intro a b hab
  obtain ⟨hin, hleave⟩ := he a b hab
  obtain ⟨hout, hto, hval⟩ := h _ _ hin
  exact ⟨hout, hleave _ _ hto, hval⟩

end Pairing
end Templating
