import Templating.Proofs.Growth

/-!
# Code that catches no error

An error that nobody catches ends everything around it.  So if a template is
rendered to its end and no code on the way catches errors, then all code that was
run on the way has ended well, and in particular every definition was found that
was asked for (`findsAll_of_uncaught`).

Which code is run is known only as the run goes on.  But code comes from the
registry and from templates, and those come from the code that registers blocks,
the cache and the loader: if all of these have statements of some kind only, it
stays so (`sound_holdingCode`).
-/
namespace Templating

/-! ## Actions that end well -/

namespace Action

variable {σ α β : Type} {m : Action σ α} {f : α → Action σ β} {s t : σ} {a : α}

/-- An action ends with a value. -/
def Succeeds (m : Action σ α) (s : σ) : Prop :=
  ∃ a t, m s = (.done a, t)

/-- The first of two actions ends well if both do. -/
theorem Succeeds.first (h : (m >>= f).Succeeds s) : m.Succeeds s := by
  obtain ⟨b, u, h⟩ := h
  obtain ⟨a, t, hm, -⟩ := bind_eq_done_iff.mp h
  exact ⟨a, t, hm⟩

/-- The second of two actions ends well, in the state the first one has left. -/
theorem Succeeds.second (h : (m >>= f).Succeeds s) (hm : m s = (.done a, t)) :
    (f a).Succeeds t := by
  obtain ⟨b, u, h⟩ := h
  rw [bind_of_done hm] at h
  exact ⟨b, u, h⟩

theorem Succeeds.inside {enter : σ → σ} {leave : σ → σ → σ}
    (h : (bracket enter leave m).Succeeds s) : m.Succeeds (enter s) := by
  obtain ⟨a, t, h⟩ := h
  rw [bracket_apply] at h
  exact ⟨a, _, Prod.ext (Prod.mk.inj h).1 rfl⟩

end Action

/-! ## Code with statements of some kind -/

/-- The vocabulary of the code that has no statements but these. -/
def Vocabulary.ofStatements (p : Stmt → Prop) : Vocabulary :=
  { Vocabulary.full with stmt := p }

theorem Vocabulary.closed_ofStatements (p : Stmt → Prop) (config : Config) :
    (Vocabulary.ofStatements p).Closed config := by
  constructor <;> intros <;> trivial

/-- The code that a session holds is of a vocabulary. -/
structure Session.HoldsCode (V : Vocabulary) (s : Session) : Prop where
  blocks : ∀ name, ∀ body ∈ s.blocks.chain name, V.Code body
  cache : ∀ name t, s.cache.get? name = some t → V.Template t

/-- A new session holds no code. -/
theorem Session.holdsCode_start (V : Vocabulary) (config : Config) (name : Option String) :
    (Session.start config name).HoldsCode V where
  blocks _ _ hbody := absurd hbody List.not_mem_nil
  cache _ _ ht := by cases ht

theorem Session.HoldsCode.derive {V : Vocabulary} {s : Session} (hs : s.HoldsCode V)
    (config : Config) (name : String) (reach : Reach) :
    (s.derive config name reach).HoldsCode V where
  blocks b body hbody := by
    cases reach with
    | extending => exact hs.blocks b body hbody
    | including | importing => exact absurd hbody List.not_mem_nil
  cache := hs.cache

theorem Session.HoldsCode.rejoin {V : Vocabulary} {s t : Session} (hs : s.HoldsCode V)
    (ht : t.HoldsCode V) (reach : Reach) : (s.rejoin reach t).HoldsCode V where
  blocks b body hbody := by
    cases reach with
    | extending => exact ht.blocks b body hbody
    | including | importing => exact hs.blocks b body hbody
  cache := ht.cache

/-- The course of a run in whose sessions all code is of a vocabulary. -/
def Course.holdingCode (V : Vocabulary) : Course where
  Inv s := s.session.HoldsCode V
  To _ t := t.session.HoldsCode V
  refl h := h
  trans _ h := h
  inv _ h := h

/-- The step lemma: what a session holds was registered or loaded. -/
theorem sound_holdingCode {p : Stmt → Prop} {config : Config}
    (hloader : ∀ name t, config.loader name = .ok t → (Vocabulary.ofStatements p).Template t) :
    (Course.holdingCode (.ofStatements p)).Sound (.ofStatements p) config where
  looked _ _ := trivial
  exported _ _ _ := trivial
  defined hs _ _ body hbody := hs.blocks _ body (BlockRegistry.mem_chain_of_resolve hbody)
  cached hs _ _ ht := hs.cache _ _ ht
  loaded ht := hloader _ _ ht
  remember {s} hs name t _ ht :=
    ⟨hs.blocks, Table.forall_get?_insert hs.cache (hloader name t ht)⟩
  note hs _ _ := hs
  write {s} hs text _ :=
    (congrArg (Session.HoldsCode (.ofStatements p)) (Keeps.write_session text s)).mpr hs
  emitted _ _ _ := trivial
  count hs _ := hs
  assign {s} hs v _ name := by
    show (s.assign name v).session.HoldsCode _
    unfold State.assign
    split <;> exact ⟨hs.blocks, hs.cache⟩
  exportVar hs _ _ _ := ⟨hs.blocks, hs.cache⟩
  setEscaping hs _ _ := ⟨hs.blocks, hs.cache⟩
  register {s} hs body hbody name :=
    ⟨BlockRegistry.forall_mem_chain_register hs.blocks hbody, hs.cache⟩
  rebind _ hs _ _ := hs
  frame _ hs := ⟨hs, fun _ ht => ht⟩
  escaping _ _ hs := ⟨⟨hs.blocks, hs.cache⟩, fun _ ht => ⟨ht.blocks, ht.cache⟩⟩
  block _ _ hs := ⟨hs, fun _ ht => ht⟩
  template name reach _ hs := ⟨hs.derive config name reach, fun _ ht => hs.rejoin ht reach⟩
  capture _ hs := ⟨hs, fun _ ht => ht⟩
  captured _ _ _ := trivial

/-! ## Moments that end well -/

/-- A statement lets errors through. -/
def Stmt.LetsThrough : Stmt → Prop
  | .attempt _ => False
  | _ => True

/-- The code that catches no error. -/
def Vocabulary.uncaught : Vocabulary :=
  .ofStatements Stmt.LetsThrough

section
variable {config : Config} {depth : Nat}

/-- A loop ends well only if its iterations do. -/
theorem succeeds_visits {it : Iteration} {binding : Binding} {scope : Scope}
    {body : LoopContext → Render LoopStep} {index0 : Nat} {items : List Value} {s t : State}
    {context : LoopContext} (h : it.Visits binding scope body index0 items s context t)
    (hrun : (it.visitFrom binding (fun context values => do
      Render.beginIteration scope binding context values
      body context) index0 items).Succeeds s) : (body context).Succeeds t := by
  induction h with
  | here hparts ht =>
    rw [Iteration.visitFrom] at hrun
    exact (hrun.second (Action.ofExcept_of_ok hparts _)).first.second ht
  | @later index0 item rest values s t u context v hparts ht hgo _ ih =>
    rw [Iteration.visitFrom] at hrun
    have hfirst : (do
        Render.beginIteration scope binding (it.contextAt index0) values
        body (it.contextAt index0)) s = (.done .goOn, u) := by
      rw [Action.bind_of_done ht, hgo]
    exact ih ((hrun.second (Action.ofExcept_of_ok hparts s)).second hfirst)

theorem succeeds_iterates {iterable : Value} {binding : Binding}
    {body : LoopContext → Render LoopStep} {s t : State} {context : LoopContext}
    (hrefuse : Render.refuseUndefined config iterable s = (.done (), s))
    (h : Render.Iterates config iterable binding body s context t)
    (hrun : (Render.forLoop config iterable binding body).Succeeds s) :
    (body context).Succeeds t := by
  obtain ⟨parent, u, items, hparent, hitems, hvisits⟩ := h
  have hread := Action.ofExcept_of_ok hitems u
  have hbegun := ((hrun.second hrefuse).second hparent).second hread
  exact succeeds_visits hvisits (hbegun.second rfl).first.inside

/-- A statement with a loop ends well only if its loop does. -/
theorem succeeds_loop {c : Stmt} {iterable : Expr} {binding : Binding} {body : Body}
    (hloop : c.loop? = some (iterable, binding, body)) {loop : Option LoopContext} {s t : State}
    {v : Value} (hv : iterable.eval config (invoke config depth) s = (.done v, t))
    (hrun : (c.exec config (invoke config depth) loop).Succeeds s) :
    (Render.forLoop config v binding (fun context =>
      asIteration (Stmt.execAll config (invoke config depth) (some context) body))).Succeeds t := by
  cases c with
  | forEach iterable binding body visited =>
    cases hloop
    exact (hrun.first.second hv).first
  | forElse iterable binding body otherwise =>
    cases hloop
    exact (hrun.first.second hv).first
  | _ => cases hloop

end

namespace Moment

variable {config : Config} {m m' : Moment}

variable (config) in
/-- What is about to be run ends well. -/
def Succeeds (m : Moment) : Prop :=
  match m.task with
  | .code loop body => (Stmt.execAll config (invoke config m.depth) loop body).Succeeds m.state
  | .operands _ => True

/-- Code ends well only if its first statement does. -/
theorem Succeeds.head {depth : Nat} {loop : Option LoopContext} {c : Stmt} {rest : List Stmt}
    {s : State} (h : Moment.Succeeds config ⟨depth, .code loop (c :: rest), s⟩) :
    (c.exec config (invoke config depth) loop).Succeeds s := by
  have hcode : (Stmt.execAll config (invoke config depth) loop (c :: rest)).Succeeds s := h
  rw [Stmt.execAll] at hcode
  exact hcode.first

/-- A definition that is asked for has ended well. -/
theorem Succeeds.asked {depth : Nat} {loop : Option LoopContext} {c : Stmt} {rest : List Stmt}
    {s : State} {active : ActiveBlock} (hc : c.asksFor s = some active)
    (h : Moment.Succeeds config ⟨depth, .code loop (c :: rest), s⟩) :
    (Render.evaluateBlock (invoke config depth) active.name active.levelsUp).Succeeds s := by
  obtain ⟨flow, t, hrun⟩ := h.head
  rw [exec_of_asksFor hc] at hrun
  exact Action.Succeeds.first ⟨flow, t, hrun⟩

theorem Leads.succeeds (hs : Leads config m m') (hm : m.Succeeds config)
    (htask : m.task.Of .uncaught) : m'.Succeeds config := by
  cases hs with
  | @next depth loop c rest s t hrun =>
    have hcode : (Stmt.execAll config (invoke config depth) loop (c :: rest)).Succeeds s := hm
    rw [Stmt.execAll] at hcode
    exact hcode.second hrun
  | operands | nextOperand _ | innerOperands => trivial
  | frame => exact hm.head.inside
  | escaping => exact hm.head.inside
  | @branch depth loop condition yes no rest s v t hrun =>
    have hbranch := hm.head.second hrun
    by_cases htrue : v.isTruthy = true
    · rw [if_pos htrue] at hbranch ⊢
      exact hbranch
    · rw [if_neg htrue] at hbranch ⊢
      exact hbranch
  | iteration hloop hrun hrefuse hi =>
    exact (succeeds_iterates hrefuse hi (succeeds_loop hloop hrun hm.head)).first
  | otherwise hrun hloop =>
    have helse := (hm.head.first.second hrun).second hloop
    rw [if_neg Bool.false_ne_true] at helse
    exact helse.inside.first
  | filtered hrun =>
    have hwhole := (hm.head.first.second hrun).first.inside.inside
    exact hwhole.first.first
  | attempted => exact htask.1.1.elim

theorem Calls.succeeds (hs : Calls m m') (hm : m.Succeeds config) : m'.Succeeds config := by
  cases hs with
  | @definition depth loop c rest active body s hc hbody =>
    have hblock := hm.asked hc
    rw [Action.Succeeds, evaluateBlock_of_ok hbody] at hblock
    exact (Action.Succeeds.inside hblock).first

theorem Starts.succeeds {depth : Nat} {t : Template} {s : State} (hs : Starts config depth t s m)
    (hrun : (Render.runTemplate (invoke config depth) t).Succeeds s) : m.Succeeds config := by
  cases hs with
  | setup hsetup =>
    have hwhole := hrun.first
    rw [Render.runSetup, hsetup] at hwhole
    exact hwhole.first
  | root hsetup => exact (hrun.second hsetup).first

theorem Extends.succeeds (hs : Extends config m m') (hm : m.Succeeds config) :
    m'.Succeeds config := by
  obtain ⟨name, t, u, hfetch, hstart⟩ := hs
  cases hfetch with
  | extending hrun =>
    have hextended := (hm.head.first.second rfl).second hrun
    exact hstart.succeeds (hextended.second rfl).inside

/-- The step lemma. -/
theorem SharesNext.succeeds (hs : SharesNext config m m') (hm : m.Succeeds config)
    (htask : m.task.Of .uncaught) : m'.Succeeds config := by
  rcases hs with hleads | hcalls | hextends
  · exact hleads.succeeds hm htask
  · exact hcalls.succeeds hm
  · exact hextends.succeeds hm

/-- A definition that is asked for where all ends well is found. -/
theorem Succeeds.finds (hm : m.Succeeds config) {active : ActiveBlock}
    (hasks : m.AsksFor active) :
    ∃ body, m.state.blocks.resolve active.name active.levelsUp = .ok body := by
  obtain ⟨depth, task, s⟩ := m
  obtain ⟨loop, c, rest, rfl, hc⟩ := hasks
  obtain ⟨_, t, hblock⟩ := hm.asked hc
  cases hbody : s.blocks.resolve active.name active.levelsUp with
  | ok body => exact ⟨body, rfl⟩
  | error cause =>
    rw [evaluateBlock_of_error hbody] at hblock
    cases hblock

/-- The run lemma: all that is run on the way ends well. -/
theorem Shares.succeeds (hs : Shares config m m')
    (hloader : ∀ name t, config.loader name = .ok t → Vocabulary.uncaught.Template t)
    (hm : m.Succeeds config) (hcode : m.Holds (.holdingCode .uncaught) .uncaught) :
    m'.Succeeds config := by
  have hC := sound_holdingCode hloader
  have hV := Vocabulary.closed_ofStatements Stmt.LetsThrough config
  suffices h : m'.Succeeds config ∧ m'.Holds (.holdingCode .uncaught) .uncaught from h.1
  induction hs with
  | refl => exact ⟨hm, hcode⟩
  | tail _ hnext ih => exact ⟨hnext.succeeds ih.1 ih.2.task, hC.step hV ih.2 hnext.step⟩

end Moment

/-- Every definition that is asked for in the sessions that share the registry of
this render is found. -/
def State.FindsAll (config : Config) (depth : Nat) (t : Template) (begun : State) : Prop :=
  ∀ first m active, Moment.Starts config depth t begun first → Moment.Shares config first m →
    m.AsksFor active → ∃ body, m.state.blocks.resolve active.name active.levelsUp = .ok body

/-- A render that comes to its end finds all definitions it asks for, if no code
catches errors. -/
theorem findsAll_of_uncaught {config : Config} {depth : Nat} {t : Template} {begun ended : State}
    (hloader : ∀ name t, config.loader name = .ok t → Vocabulary.uncaught.Template t)
    (ht : Vocabulary.uncaught.Template t) (hbegun : begun.session.HoldsCode .uncaught)
    (hrun : Render.runTemplate (invoke config depth) t begun = (.done (), ended)) :
    begun.FindsAll config depth t := by
  intro first m active hstart hshares hasks
  have hcode := (sound_holdingCode hloader).starts
    (Vocabulary.closed_ofStatements Stmt.LetsThrough config) hbegun ht hstart
  have hfirst := hstart.succeeds ⟨(), ended, hrun⟩
  exact (hshares.succeeds hloader hfirst hcode).finds hasks

end Templating
