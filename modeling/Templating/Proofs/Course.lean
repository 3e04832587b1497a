import Templating.Proofs.LockstepCode

/-!
# The course of one run

A fact about a single run is a fact about two runs that begin in the same state.
A `Course` says what holds of the states of a run (`Inv`) and what a state may
have become some time later (`To`); `Course.Sound` lists what each elementary
change of the state does to it, and `Course.Sound.exec` says that then it holds
of every run of code of the vocabulary, however the run ends.
-/
namespace Templating

/-- What holds of the states of a run, and what such a state may have become. -/
structure Course where
  Inv : State → Prop
  To : State → State → Prop
  refl : ∀ {s}, Inv s → To s s
  trans : ∀ {s t u}, To s t → To t u → To s u
  inv : ∀ {s t}, Inv s → To s t → Inv t

/-- The state with a template in its cache. -/
def State.remember (s : State) (name : String) (t : Template) : State :=
  { s with session := { s.session with cache := s.session.cache.insert name t } }

/-- The state after the loader was asked for a template. -/
def State.loading (s : State) (name : String) : State :=
  (s.logged (.notice (.loadingTemplate name))).logged (.load name)

theorem getTemplate_of_cached (config : Config) {name : String} {s : State} {t : Template}
    (h : s.session.cache.get? name = some t) :
    Render.getTemplate config name s =
      (.done t, s.logged (.notice (.templateCacheHit name))) := by
  simp only [Render.getTemplate, Action.bind_apply, Action.read, h]
  rfl

theorem getTemplate_of_loaded {config : Config} {name : String} {s : State} {t : Template}
    (h : s.session.cache.get? name = none) (ht : config.loader name = .ok t) :
    Render.getTemplate config name s = (.done t, (s.loading name).remember name t) := by
  simp only [Render.getTemplate, Render.load, Action.bind_apply, Action.read, h, ht]
  rfl

theorem getTemplate_of_failed {config : Config} {name : String} {s : State}
    {error : RenderError} (h : s.session.cache.get? name = none)
    (he : config.loader name = .error error) :
    Render.getTemplate config name s = (.failed error, s.loading name) := by
  simp only [Render.getTemplate, Render.load, Action.bind_apply, Action.read, h, he]
  rfl

namespace Course

variable (C : Course) {α : Type}

/-- A situation that a run may enter and leave. -/
def Brackets (enter : State → State) (leave : State → State → State) : Prop :=
  ∀ s, C.Inv s → C.Inv (enter s) ∧ ∀ t, C.To (enter s) t → C.To s (leave s t)

/-- What each elementary change of the state does to a course. -/
structure Sound (V : Vocabulary) (config : Config) : Prop where
  looked : ∀ {s}, C.Inv s → ∀ name, V.value (s.scope.lookup name)
  exported : ∀ {s}, C.Inv s → ∀ entry ∈ s.session.exports.entries, V.value entry.2
  defined : ∀ {s}, C.Inv s → ∀ {name levelsUp body},
    s.session.blocks.resolve name levelsUp = .ok body → V.Code body
  cached : ∀ {s}, C.Inv s → ∀ {name t}, s.session.cache.get? name = some t → V.Template t
  loaded : ∀ {name t}, config.loader name = .ok t → V.Template t
  remember : ∀ {s}, C.Inv s → ∀ {name t}, s.session.cache.get? name = none →
    config.loader name = .ok t → C.To s (s.remember name t)
  note : ∀ {s}, C.Inv s → ∀ {e : Event}, e.chunk? = none → C.To s (s.logged e)
  write : ∀ {s}, C.Inv s → ∀ {text}, V.text text → C.To s (Render.write text s).2
  emitted : ∀ {s}, C.Inv s → ∀ {v}, V.value v → V.text (v.finalize s.session.autoescape)
  count : ∀ {s}, C.Inv s → ∀ next, C.To s (s.withNextInstance next)
  assign : ∀ {s}, C.Inv s → ∀ {v}, V.value v → ∀ name, C.To s (s.assign name v)
  exportVar : ∀ {s}, C.Inv s → ∀ {v}, V.value v → ∀ name, C.To s (s.exportVar name v)
  setEscaping : ∀ {s}, C.Inv s → ∀ {enabled}, V.stmt (.setEscaping enabled) →
    C.To s (s.setAutoescape enabled)
  register : ∀ {s}, C.Inv s → ∀ {body}, V.Code body → ∀ name, C.To s (s.register name body)
  rebind : ∀ {s₀ s}, C.Inv s₀ → C.Inv s → ∀ {bindings}, (∀ entry ∈ bindings, V.value entry.2) →
    C.To s (s.rebind s₀.scope bindings)
  frame : C.Brackets State.enterFrame State.leaveFrame
  escaping : ∀ {enabled body}, V.stmt (.escaping enabled body) →
    C.Brackets (fun s => s.setAutoescape enabled) State.leaveEscaping
  block : ∀ block, C.Brackets (State.enterBlock block) State.leaveBlock
  template : ∀ name reach,
    C.Brackets (State.enterDerived config name reach) (State.leaveTemplate reach)
  capture : C.Brackets State.enterCapture State.leaveCapture
  captured : ∀ {s}, C.Inv s → ∀ {t}, C.To s.enterCapture t → V.text t.captured

/-- A course as a pairing of two runs that are the same. -/
def pairing : Pairing where
  Rel a b := a = b ∧ C.Inv a
  To a _ a' b' := a' = b' ∧ C.To a a'
  refl h := ⟨h.1, C.refl h.2⟩
  trans h h' := ⟨h'.1, C.trans h.2 h'.2⟩
  rel h h' := ⟨h'.1, C.inv h.2 h'.2⟩

variable {C}

theorem Brackets.pairing {enter : State → State} {leave : State → State → State}
    (h : C.Brackets enter leave) : C.pairing.Brackets enter leave := by
  rintro s _ ⟨rfl, hs⟩
  obtain ⟨hin, hleave⟩ := h s hs
  refine ⟨⟨rfl, hin⟩, ?_⟩
  rintro t _ ⟨rfl, ht⟩
  exact ⟨rfl, hleave t ht⟩

/-- Two runs that are the same end alike if the one does as it should. -/
theorem alike_of_forall {m : Render α} {Q : α → Prop}
    (h : ∀ s, C.Inv s → C.To s (m s).2 ∧ ∀ x, (m s).1 = .done x → Q x) :
    C.pairing.Alike m m Q := by
  rintro s _ ⟨rfl, hs⟩
  exact ⟨rfl, ⟨rfl, (h s hs).1⟩, (h s hs).2⟩

theorem of_alike {m n : Render α} {Q : α → Prop} (h : C.pairing.Alike m n Q) {s : State}
    (hs : C.Inv s) : C.To s (m s).2 ∧ ∀ x, (m s).1 = .done x → Q x :=
  ⟨(h s s ⟨rfl, hs⟩).2.1.2, (h s s ⟨rfl, hs⟩).2.2⟩

/-- A run that has ended well has kept its course and yields what it should. -/
theorem done_of_alike {m n : Render α} {Q : α → Prop} (h : C.pairing.Alike m n Q) {s t : State}
    {x : α} (hs : C.Inv s) (hrun : m s = (.done x, t)) : C.To s t ∧ Q x := by
  obtain ⟨hto, hQ⟩ := of_alike h hs
  rw [hrun] at hto hQ
  exact ⟨hto, hQ x rfl⟩

namespace Sound

variable {V : Vocabulary} {config : Config}

theorem fetch (h : C.Sound V config) (name : String) :
    C.pairing.Alike (Render.getTemplate config name) (Render.getTemplate config name)
      V.Template := by
  refine alike_of_forall fun s hs => ?_
  have hnote {t : State} (ht : C.To s t) {e : Event} (he : e.chunk? = none) :
      C.To s (t.logged e) := C.trans ht (h.note (C.inv hs ht) he)
  have hload : C.To s (s.loading name) := hnote (hnote (C.refl hs) rfl) rfl
  cases hcache : s.session.cache.get? name with
  | some t =>
    rw [getTemplate_of_cached config hcache]
    refine ⟨hnote (C.refl hs) rfl, fun t' ht' => ?_⟩
    cases ht'
    exact h.cached hs hcache
  | none =>
    cases hloader : config.loader name with
    | ok t =>
      rw [getTemplate_of_loaded hcache hloader]
      refine ⟨C.trans hload (h.remember (C.inv hs hload) hcache hloader), fun t' ht' => ?_⟩
      cases ht'
      exact h.loaded hloader
    | error error =>
      rw [getTemplate_of_failed hcache hloader]
      exact ⟨hload, fun _ ht' => by cases ht'⟩

/-- A sound course is sound as a pairing. -/
theorem pairing (h : C.Sound V config) : C.pairing.Sound V config where
  looks := by
    rintro s _ ⟨rfl, hs⟩
    exact State.LooksLike.refl s
  looked hs := h.looked hs.2
  exported hs := h.exported hs.2
  defined hs := h.defined hs.2
  fetch := h.fetch
  note := by
    rintro s _ ⟨rfl, hs⟩ e he
    exact ⟨rfl, h.note hs (he s)⟩
  write htext := alike_of_forall fun s hs => ⟨h.write hs htext, fun _ _ => trivial⟩
  emitted hs := h.emitted hs.2
  count := by
    rintro s _ ⟨rfl, hs⟩ next
    exact ⟨rfl, h.count hs next⟩
  assign := by
    rintro s _ ⟨rfl, hs⟩ v hv name
    exact ⟨rfl, h.assign hs hv name⟩
  exportVar := by
    rintro s _ ⟨rfl, hs⟩ v hv name
    exact ⟨rfl, h.exportVar hs hv name⟩
  setEscaping := by
    rintro s _ ⟨rfl, hs⟩ enabled henabled
    exact ⟨rfl, h.setEscaping hs henabled⟩
  register := by
    rintro s _ ⟨rfl, hs⟩ body hbody name
    exact ⟨rfl, h.register hs hbody name⟩
  rebind := by
    rintro s₀ _ s _ ⟨rfl, hs₀⟩ ⟨rfl, hs⟩ bindings hbindings
    exact ⟨rfl, h.rebind hs₀ hs hbindings⟩
  frame := h.frame.pairing
  escaping hs := (h.escaping hs).pairing
  block block := (h.block block).pairing
  template name reach := (h.template name reach).pairing
  capture := h.capture.pairing
  captured := by
    rintro s _ ⟨rfl, hs⟩ t _ ⟨rfl, ht⟩
    exact ⟨rfl, h.captured hs ht⟩

/-! ## What holds of every run -/

variable (h : C.Sound V config) (hV : V.Closed config)
include h hV

theorem eval {x : Expr} (hx : x.Every V.expr) (depth : Nat) :
    C.pairing.Alike (x.eval config (invoke config depth)) (x.eval config (invoke config depth))
      V.value :=
  (h.pairing.evaluates hV (h.pairing.runs hV depth)).eval hV hx

theorem evalAll {xs : List Expr} (hxs : Expr.EveryOf V.expr xs) (depth : Nat) :
    C.pairing.Alike (Expr.evalAll config (invoke config depth) xs)
      (Expr.evalAll config (invoke config depth) xs) fun values => ∀ v ∈ values, V.value v :=
  (h.pairing.evaluates hV (h.pairing.runs hV depth)).evalAll hV hxs

theorem exec {c : Stmt} (hc : c.Every V.stmt V.expr) (depth : Nat) (loop : Option LoopContext) :
    C.pairing.Alike (c.exec config (invoke config depth) loop)
      (c.exec config (invoke config depth) loop) fun _ => True :=
  h.pairing.exec hV (h.pairing.runs hV depth) hc loop

theorem execAll {body : Body} (hbody : V.Code body) (depth : Nat) (loop : Option LoopContext) :
    C.pairing.Alike (Stmt.execAll config (invoke config depth) loop body)
      (Stmt.execAll config (invoke config depth) loop body) fun _ => True :=
  h.pairing.execAll hV (h.pairing.runs hV depth) hbody loop

end Sound
end Course
end Templating
