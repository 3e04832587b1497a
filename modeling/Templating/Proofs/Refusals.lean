import Templating.Proofs.ActiveBlock
import Templating.Proofs.Isolation
import Templating.Proofs.Likeness

/-!
# Where refusals come from

An action that ends with the refusal of an undefined value (`Action.Refuses`) is
put together from others, one of which ends with it.  So the error can be followed
back through the run: there is a moment at which that other action began, and in
the end one at which a statement was given an undefined value of that name to write
out or to loop over (`Moment.Blames`, `tracesBodies`).

Everything else is innocent of such errors (`Action.Innocent`).  Filters, tests and
loaders are code of the host and are taken to be so
(`Config.RaisesNoUndefined`).
-/
namespace Templating

/-! ## Actions that end with a refusal -/

namespace Action

variable {σ α β : Type} {m : Action σ α} {f : α → Action σ β} {name : String} {s t : σ} {a : α}

/-- An action ends with the refusal of an undefined value of this name. -/
def Refuses (m : Action σ α) (name : String) (s : σ) : Prop :=
  (m s).1 = .failed (.undefined name)

/-- An action that never does. -/
def Innocent (m : Action σ α) : Prop := ∀ name s, ¬ m.Refuses name s

namespace Refuses

/-- One of two actions refuses if both together do. -/
theorem of_bind (h : (m >>= f).Refuses name s) :
    m.Refuses name s ∨ ∃ a t, m s = (.done a, t) ∧ (f a).Refuses name t := by
  rw [Refuses, bind_apply] at h
  rw [Refuses]
  rcases hm : m s with ⟨a | error | _, t⟩ <;> rw [hm] at h
  · exact .inr ⟨a, t, rfl, h⟩
  · cases h
    exact .inl rfl
  · cases h

theorem first (h : (m >>= f).Refuses name s) (hf : ∀ a, (f a).Innocent) : m.Refuses name s := by
  rcases h.of_bind with hm | ⟨a, t, -, hrest⟩
  · exact hm
  · exact (hf a name t hrest).elim

theorem second (h : (m >>= f).Refuses name s) (hm : m.Innocent) :
    ∃ a t, m s = (.done a, t) ∧ (f a).Refuses name t :=
  h.of_bind.resolve_left (hm name s)

theorem inside {enter : σ → σ} {leave : σ → σ → σ}
    (h : (bracket enter leave m).Refuses name s) : m.Refuses name (enter s) := h

end Refuses

namespace Innocent

theorem of_done (h : ∀ s, ∃ a t, m s = (.done a, t)) : m.Innocent := by
  intro name s hrefuses
  obtain ⟨a, t, hrun⟩ := h s
  rw [Refuses, hrun] at hrefuses
  cases hrefuses

theorem pure (a : α) : (pure a : Action σ α).Innocent := of_done fun s => ⟨a, s, rfl⟩

theorem read (f : σ → α) : (Action.read f).Innocent := of_done fun s => ⟨f s, s, rfl⟩

theorem modify (f : σ → σ) : (Action.modify f).Innocent := of_done fun s => ⟨(), f s, rfl⟩

theorem fail {error : RenderError} (h : ∀ name, error ≠ .undefined name) :
    (fail error : Action σ α).Innocent := by
  intro name s hrefuses
  cases hrefuses
  exact h name rfl

theorem ofExcept {e : Except RenderError α} (h : ∀ name, e ≠ .error (.undefined name)) :
    (ofExcept e : Action σ α).Innocent := by
  cases e with
  | ok a => exact pure a
  | error error => exact fail fun name heq => h name (congrArg _ heq)

theorem bind (hm : m.Innocent) (hf : ∀ a, (f a).Innocent) : (m >>= f).Innocent :=
  fun name s h => hm name s (h.first hf)

/-- What is made of an error that is no refusal. -/
theorem attempt {g : Except RenderError α → Action σ β} (hm : m.Innocent)
    (hok : ∀ a, (g (.ok a)).Innocent)
    (herror : ∀ error, (∀ name, error ≠ .undefined name) → (g (.error error)).Innocent) :
    (attempt m >>= g).Innocent := by
  intro name s h
  rw [Refuses, bind_apply, Action.attempt] at h
  rcases hrun : m s with ⟨a | error | _, t⟩ <;> rw [hrun] at h
  · exact hok a name t h
  · refine herror error (fun other heq => hm other s ?_) name t h
    rw [Refuses, hrun, heq]
  · cases h

end Innocent
end Action

/-- The host's own code does not complain about undefined values. -/
structure Config.RaisesNoUndefined (config : Config) : Prop where
  filters : ∀ word filter, config.filters.get? word = some filter →
    ∀ v arguments name, filter v arguments ≠ .error (.undefined name)
  tests : ∀ word test, config.tests.get? word = some test →
    ∀ v arguments name, test v arguments ≠ .error (.undefined name)
  loader : ∀ word name, config.loader word ≠ .error (.undefined name)

namespace Config.RaisesNoUndefined

variable {config : Config}

/-- The policy does not matter. -/
theorem under (h : config.RaisesNoUndefined) (policy : UndefinedPolicy) :
    (config.under policy).RaisesNoUndefined :=
  ⟨h.filters, h.tests, h.loader⟩

theorem callFilter (h : config.RaisesNoUndefined) (word : String) (v : Value)
    (arguments : List Value) (name : String) :
    config.callFilter word v arguments ≠ .error (.undefined name) := by
  unfold Config.callFilter
  split
  case h_1 filter hfilter => exact h.filters word filter hfilter v arguments name
  case h_2 => nofun

theorem callTest (h : config.RaisesNoUndefined) (word : String) (v : Value)
    (arguments : List Value) (name : String) :
    config.callTest word v arguments ≠ .error (.undefined name) := by
  unfold Config.callTest
  split
  case h_1 test htest => exact h.tests word test htest v arguments name
  case h_2 => nofun

end Config.RaisesNoUndefined

namespace Render

open Templating.Action (Innocent Refuses)

theorem innocent_write (text : String) : (write text).Innocent := by
  intro name s h
  rcases write_cases text s with ⟨sink, log, -, hrun⟩ | ⟨-, hrun⟩
  all_goals
    rw [Refuses, hrun] at h
    cases h

theorem innocent_log (e : Event) : (log e).Innocent := .modify _

theorem innocent_assign (name : String) (v : Value) : (assign name v).Innocent := .modify _

theorem innocent_assignAll : ∀ bindings : List (String × Value), (assignAll bindings).Innocent
  | [] => .pure ()
  | (name, v) :: rest => .bind (innocent_assign name v) fun _ => innocent_assignAll rest

theorem innocent_registerBlock (name : String) (body : Body) :
    (registerBlock name body).Innocent :=
  .of_done fun _ => ⟨_, _, rfl⟩

theorem innocent_registerBlocks (t : Template) : (registerBlocks t).Innocent := by
  unfold registerBlocks
  induction t.blocks.entries with
  | nil => exact .pure ()
  | cons entry rest ih => exact .bind (innocent_registerBlock entry.1 entry.2) fun _ => ih

theorem innocent_newInstance : newInstance.Innocent := .of_done fun _ => ⟨_, _, rfl⟩

theorem innocent_copyEnclosing : copyEnclosing.Innocent := by
  refine .bind (.read _) fun v => ?_
  split
  · exact .bind innocent_newInstance fun _ => .pure _
  · exact .pure _

theorem innocent_beginIteration (scope : Scope) (binding : Binding) (context : LoopContext)
    (values : List Value) : (beginIteration scope binding context values).Innocent :=
  .bind innocent_newInstance fun _ => .modify _

section
variable {config : Config} (hpure : config.RaisesNoUndefined)
include hpure

theorem innocent_getTemplate (name : String) : (getTemplate config name).Innocent := by
  refine .bind (.read _) fun found => ?_
  cases found with
  | some t => exact .bind (innocent_log _) fun _ => .pure _
  | none =>
    have hload : (load config name).Innocent :=
      .bind (innocent_log _) fun _ => .bind (innocent_log _) fun _ =>
        .ofExcept (hpure.loader name)
    exact .bind hload fun _ => .bind (.modify _) fun _ => .pure _

theorem innocent_selectFrom (all : List String) : ∀ names : List String,
    (selectFrom config all names).Innocent
  | [] => .fail nofun
  | name :: rest => by
    refine .attempt (innocent_getTemplate hpure name) (fun t => .pure (name, t))
      fun error herror => ?_
    dsimp only
    split
    · exact innocent_selectFrom all rest
    · exact .fail herror

theorem innocent_getOptional (name : String) (ignoreMissing : Bool) :
    (getOptional config name ignoreMissing).Innocent := by
  refine .attempt (innocent_getTemplate hpure name) (fun t => .pure (some t))
    fun error herror => ?_
  dsimp only
  split
  · exact .bind (innocent_log _) fun _ => .pure _
  · exact .fail herror

theorem innocent_selectOptional (names : List String) (ignoreMissing : Bool) :
    (selectOptional config names ignoreMissing).Innocent := by
  refine .attempt (innocent_selectFrom hpure names names) (fun found => .pure (some found))
    fun error herror => ?_
  dsimp only
  split
  · exact .bind (innocent_log _) fun _ => .pure _
  · exact .fail herror

end
end Render

theorem Unpacked.andThen_error_ne {first second : Unpacked} {error : RenderError}
    (h : first.error ≠ some error) (h' : second.error ≠ some error) :
    (first.andThen second).error ≠ some error := by
  unfold andThen
  split
  · exact h
  · exact h'

mutual

/-- That a value cannot be taken apart is no matter of its being undefined. -/
theorem Binding.unpack_error_ne (settings : Unpacking) (name : String) :
    ∀ (binding : Binding) (v : Value),
      (binding.unpack settings v).error ≠ some (.undefined name)
  | .name _, _ => nofun
  | .tuple targets, v => by
    unfold unpack
    split
    · split <;> nofun
    · split
      · nofun
      · exact unpackAll_error_ne settings name targets _

theorem Binding.unpackAll_error_ne (settings : Unpacking) (name : String) :
    ∀ (targets : List Binding) (items : List Value),
      (Binding.unpackAll settings targets items).error ≠ some (.undefined name)
  | [], _ => nofun
  | _ :: rest, [] => Unpacked.andThen_error_ne nofun (unpackAll_error_ne settings name rest [])
  | target :: rest, item :: items =>
    Unpacked.andThen_error_ne (unpack_error_ne settings name target item)
      (unpackAll_error_ne settings name rest items)

end

section
variable {σ : Type}

theorem innocent_unpack (settings : Unpacking) (binding : Binding) (v : Value) :
    (Action.ofExcept (binding.unpack settings v).toExcept :
      Action σ (List Value)).Innocent := by
  refine .ofExcept fun name h => ?_
  unfold Unpacked.toExcept at h
  split at h
  case h_1 error herror =>
    cases h
    exact Binding.unpack_error_ne settings name binding v herror
  case h_2 => cases h

theorem innocent_itemsOf (iterable : Value) :
    (Action.ofExcept (Iteration.itemsOf iterable) : Action σ (List Value)).Innocent := by
  refine .ofExcept fun name h => ?_
  unfold Iteration.itemsOf at h
  split at h
  · cases h
  · split at h <;> cases h

theorem innocent_callMethod (v : Value) (method : String) (arguments : List Value) :
    (Action.ofExcept (v.callMethod method arguments) : Action σ Value).Innocent := by
  refine .ofExcept fun name h => ?_
  unfold Value.callMethod at h
  split at h
  · unfold LoopContext.cycle at h
    split at h <;> cases h
  · cases h

end

/-! ## Following a refusal back -/

/-- The expression whose value a statement writes out or loops over. -/
def Stmt.needs? : Stmt → Option Expr
  | .emit x => some x
  | .forEach iterable _ _ _ | .forElse iterable _ _ _ => some iterable
  | _ => none

namespace Moment

variable {config : Config} {m m' : Moment} {name : String}

variable (config) in
/-- At this moment a statement is given an undefined value of this name to write
out or to loop over. -/
def Gives (m : Moment) (name : String) : Prop :=
  ∃ loop c rest x t, m.task = .code loop (c :: rest) ∧ c.needs? = some x ∧
    x.eval config (invoke config m.depth) m.state = (.done (.undefined name), t)

variable (config) in
/-- At some later moment this happens. -/
def Blames (m : Moment) (name : String) : Prop :=
  ∃ m', Later config m m' ∧ m'.Gives config name

theorem Blames.step (h : m'.Blames config name) (hs : Step config m m') :
    m.Blames config name := by
  obtain ⟨last, hlater, hgives⟩ := h
  exact ⟨last, .head hs hlater, hgives⟩

theorem Blames.leads (h : m'.Blames config name) (hs : Leads config m m') :
    m.Blames config name :=
  h.step (.inl hs)

end Moment

/-- The refusals of bodies that are run down to a depth can be followed back. -/
def TracesBodies (config : Config) (depth : Nat) : Prop :=
  ∀ body s name, (invoke config depth body).Refuses name s →
    ∃ below, depth = below + 1 ∧ Moment.Blames config ⟨below, .code none body, s⟩ name

open Templating.Action (Innocent Refuses)

section
variable {config : Config} {depth : Nat}

/-- Only an undefined value is refused, and by its name. -/
theorem undefined_of_refuses {v : Value} {name : String} {s : State}
    (h : (Render.refuseUndefined config v).Refuses name s) : v = .undefined name := by
  unfold Render.refuseUndefined at h
  split at h
  · cases h
    rfl
  · exact (Innocent.pure _ _ _ h).elim

/-- Of what emitting does, only the refusal is one. -/
theorem undefined_of_refuses_emit {v : Value} {name : String} {s : State}
    (h : (Render.emit config v).Refuses name s) : v = .undefined name :=
  undefined_of_refuses (h.first fun _ => .bind (.read _) fun _ => Render.innocent_write _)

/-- A loop ends with a refusal only if one of its iterations does. -/
theorem visits_of_refuses {it : Iteration} {binding : Binding} {scope : Scope}
    {body : LoopContext → Render LoopStep} {name : String} : ∀ {items : List Value} {index0 : Nat}
    {s : State}, (it.visitFrom binding (fun context values => do
      Render.beginIteration scope binding context values
      body context) index0 items).Refuses name s →
    ∃ context t, it.Visits binding scope body index0 items s context t ∧
      (body context).Refuses name t
  | [], _, _, h => (Innocent.pure _ _ _ h).elim
  | item :: rest, index0, s, h => by
    unfold Iteration.visitFrom at h
    obtain ⟨values, t, hread, h⟩ := h.second (innocent_unpack _ _ _)
    obtain ⟨hvalues, rfl⟩ := Action.ofExcept_eq_done_iff.mp hread
    rcases h.of_bind with hbody | ⟨step, u, hstep, hrest⟩
    · obtain ⟨_, t, ht, hbody⟩ := hbody.second (Render.innocent_beginIteration _ _ _ _)
      exact ⟨_, t, .here hvalues ht, hbody⟩
    · cases step with
      | stop => exact (Innocent.pure _ _ _ hrest).elim
      | goOn =>
        obtain ⟨_, t, ht, hgo⟩ := Action.bind_eq_done_iff.mp hstep
        obtain ⟨context, v, hvisits, hbody⟩ := visits_of_refuses hrest
        exact ⟨context, v, .later hvalues ht hgo hvisits, hbody⟩

/-- What is captured ends with a refusal if the action inside does. -/
theorem refuses_of_capture {m : Render Unit} {name : String} {s : State}
    (h : (Render.capture m).Refuses name s) : m.Refuses name s.enterCapture :=
  Refuses.first h.inside fun _ => .read _

/-- What runs as another template begins in a session derived for it. -/
theorem refuses_of_asTemplate {α : Type} {reached name : String} {reach : Reach} {m : Render α}
    {u : State} (h : (Render.asTemplate config reached reach m).Refuses name u) :
    m.Refuses name ((u.logged (.notice (.derivingSession u.session.template reached
      reach))).enterDerived config reached reach) := by
  obtain ⟨_, _, hderived, h⟩ := h.second (.of_done fun _ => ⟨_, _, rfl⟩)
  cases hderived
  exact h.inside

/-- If a template ends with a refusal, so does its setup or its root. -/
theorem blames_of_runTemplate (ih : TracesBodies config depth) {t : Template} {name : String}
    {s : State}
    (h : (Render.runTemplate (invoke config depth) t).Refuses name s) :
    ∃ first, Moment.Starts config depth t s first ∧ first.Blames config name := by
  rcases h.of_bind with hsetup | ⟨_, u, hsetup, hroot⟩
  · rw [Render.runSetup] at hsetup
    cases hown : t.setup with
    | some setup =>
      rw [hown] at hsetup
      obtain ⟨below, rfl, hblames⟩ := ih setup s name hsetup
      exact ⟨_, .setup hown, hblames⟩
    | none =>
      rw [hown] at hsetup
      exact (Render.innocent_registerBlocks t name s hsetup).elim
  · obtain ⟨below, rfl, hblames⟩ := ih t.root u name hroot
    exact ⟨_, .root hsetup, hblames⟩

/-- The same for a template that was fetched. -/
theorem blames_of_fetched (ih : TracesBodies config depth) {m : Moment} {reach : Reach}
    {reached name : String} {t : Template} {u : State} (hdepth : m.depth = depth)
    (hfetches : Moment.Fetches config m reach reached t u)
    (h : (Render.runTemplate (invoke config depth) t).Refuses name
      (u.beginFetched config reached reach)) : m.Blames config name := by
  obtain ⟨first, hstarts, hblames⟩ := blames_of_runTemplate ih h
  rw [← hdepth] at hstarts
  exact hblames.step (.inr (.inr ⟨reach, reached, t, u, hfetches, hstarts⟩))

theorem refuses_of_importTemplate (hpure : config.RaisesNoUndefined) {reference name : String}
    {s : State}
    (h : (Render.importTemplate config (invoke config depth) reference).Refuses name s) :
    ∃ t u, Render.getTemplate config (config.joinPath reference s.session.template) s =
        (.done t, u) ∧
      (Render.runTemplate (invoke config depth) t).Refuses name (u.beginFetched config
        (config.joinPath reference s.session.template) .importing) := by
  obtain ⟨resolved, _, hresolved, h⟩ := h.second (.read _)
  cases hresolved
  obtain ⟨t, u, hfetched, h⟩ := h.second (Render.innocent_getTemplate hpure _)
  have hcaptured := (refuses_of_asTemplate h).first fun _ => .read _
  exact ⟨t, u, hfetched, refuses_of_capture hcaptured⟩

mutual

/-- The induction on expressions. -/
theorem blames_of_eval (hpure : config.RaisesNoUndefined) (ih : TracesBodies config depth) :
    ∀ (x : Expr) {rest : List Expr} {s : State} {name : String},
      (x.eval config (invoke config depth)).Refuses name s →
      Moment.Blames config ⟨depth, .operands (x :: rest), s⟩ name
  | .var _, _, _, _, h => (Innocent.read _ _ _ h).elim
  | .literal _, _, _, _, h => (Innocent.of_done (fun _ => ⟨_, _, rfl⟩) _ _ h).elim
  | .unary _ operand, _, _, _, h =>
    (blames_of_eval hpure ih operand (h.first fun _ => .bind (.read _) fun _ => .pure _)).leads
      .innerOperands
  | .binary _ first second, _, _, _, h => by
    rcases h.of_bind with hfirst | ⟨v, t, hv, h⟩
    · exact (blames_of_eval hpure ih first hfirst).leads .innerOperands
    · have hsecond := h.first fun _ => .pure _
      exact ((blames_of_eval hpure ih second hsecond).leads (.nextOperand hv)).leads .innerOperands
  | .call receiver method arguments, _, _, _, h => by
    rcases h.of_bind with hreceiver | ⟨v, t, hv, h⟩
    · exact (blames_of_eval hpure ih receiver hreceiver).leads .innerOperands
    · have harguments := h.first fun given => innocent_callMethod v method given
      have hblames := (blames_of_evalAll hpure ih arguments harguments).leads (.nextOperand hv)
      exact hblames.leads .innerOperands
  | .filter word operand arguments, _, _, _, h => by
    rcases h.of_bind with hoperand | ⟨v, t, hv, h⟩
    · exact (blames_of_eval hpure ih operand hoperand).leads .innerOperands
    · have harguments := h.first fun given => .ofExcept (hpure.callFilter word v given)
      have hblames := (blames_of_evalAll hpure ih arguments harguments).leads (.nextOperand hv)
      exact hblames.leads .innerOperands
  | .test word operand arguments, _, _, _, h => by
    rcases h.of_bind with hoperand | ⟨v, t, hv, h⟩
    · exact (blames_of_eval hpure ih operand hoperand).leads .innerOperands
    · have harguments := h.first fun given =>
        .bind (.ofExcept (hpure.callTest word v given)) fun _ => .pure _
      have hblames := (blames_of_evalAll hpure ih arguments harguments).leads (.nextOperand hv)
      exact hblames.leads .innerOperands
  | .list items, _, _, _, h =>
    (blames_of_evalAll hpure ih items (h.first fun _ => .pure _)).leads .innerOperands
  | .importTemplate _, _, _, _, h => by
    obtain ⟨t, u, hfetched, hrun⟩ := refuses_of_importTemplate hpure h
    exact blames_of_fetched ih rfl (.importing hfetched) hrun

theorem blames_of_evalAll (hpure : config.RaisesNoUndefined) (ih : TracesBodies config depth) :
    ∀ (xs : List Expr) {s : State} {name : String},
      (Expr.evalAll config (invoke config depth) xs).Refuses name s →
      Moment.Blames config ⟨depth, .operands xs, s⟩ name
  | [], _, _, h => (Innocent.pure _ _ _ h).elim
  | x :: rest, _, _, h => by
    rcases h.of_bind with hx | ⟨v, t, hv, h⟩
    · exact blames_of_eval hpure ih x hx
    · exact (blames_of_evalAll hpure ih rest (h.first fun _ => .pure _)).leads (.nextOperand hv)

end

/-- A loop that ends with a refusal was given an undefined value, or one of its
iterations ends with it. -/
theorem blames_of_forLoop {c : Stmt} {iterable : Expr} {binding : Binding} {body : Body}
    (hloop : c.loop? = some (iterable, binding, body)) {loop : Option LoopContext}
    {rest : List Stmt} {s t : State} {v : Value} {name : String}
    (hv : iterable.eval config (invoke config depth) s = (.done v, t))
    (hbody : ∀ {context u},
      (Stmt.execAll config (invoke config depth) (some context) body).Refuses name u →
      Moment.Blames config ⟨depth, .code (some context) body, u⟩ name)
    (h : (Render.forLoop config v binding fun context =>
      asIteration (Stmt.execAll config (invoke config depth) (some context) body)).Refuses name t) :
    Moment.Blames config ⟨depth, .code loop (c :: rest), s⟩ name := by
  rcases h.of_bind with hrefused | ⟨_, u, hrefuse, hrest⟩
  · have hneeds : c.needs? = some iterable := by
      cases c <;> cases hloop <;> rfl
    rw [undefined_of_refuses hrefused] at hv
    exact ⟨_, .refl, loop, c, rest, iterable, t, rfl, hneeds, hv⟩
  · have hsame : (Render.refuseUndefined config v t).2 = t := refuseUndefined_state v t
    rw [hrefuse] at hsame
    obtain rfl : u = t := hsame
    obtain ⟨parent, u, hparent, hrest⟩ := hrest.second Render.innocent_copyEnclosing
    obtain ⟨items, _, hread, hrest⟩ := hrest.second (innocent_itemsOf v)
    obtain ⟨hitems, rfl⟩ := Action.ofExcept_eq_done_iff.mp hread
    obtain ⟨scope, _, hscope, hrest⟩ := hrest.second (.read _)
    cases hscope
    obtain ⟨context, w, hvisits, hiteration⟩ :=
      visits_of_refuses (hrest.first fun _ => .pure _).inside
    exact (hbody (hiteration.first fun _ => .pure _)).leads
      (.iteration hloop hv hrefuse ⟨parent, u, items, hparent, hitems, hvisits⟩)

/-- A definition that is asked for. -/
theorem blames_of_asked (ih : TracesBodies config depth) {c : Stmt} {s : State}
    {active : ActiveBlock} (hc : c.asksFor s = some active) {loop : Option LoopContext}
    {rest : List Stmt} {name : String}
    (h : (c.exec config (invoke config depth) loop).Refuses name s) :
    Moment.Blames config ⟨depth, .code loop (c :: rest), s⟩ name := by
  rw [Refuses, exec_of_asksFor hc] at h
  have hblock : (Render.evaluateBlock (invoke config depth) active.name active.levelsUp).Refuses
      name s := Refuses.first h fun _ => .pure _
  cases hbody : s.session.blocks.resolve active.name active.levelsUp with
  | error cause =>
    rw [Refuses, evaluateBlock_of_error hbody] at hblock
    cases hblock
  | ok body =>
    rw [Refuses, evaluateBlock_of_ok hbody] at hblock
    obtain ⟨below, rfl, hblames⟩ := ih body _ name (Refuses.inside hblock)
    exact hblames.step (.inr (.inl (.definition hc hbody)))

mutual

/-- The induction on code. -/
theorem blames_of_exec (hpure : config.RaisesNoUndefined) (ih : TracesBodies config depth) :
    ∀ (c : Stmt) {loop : Option LoopContext} {rest : List Stmt} {s : State} {name : String},
      (c.exec config (invoke config depth) loop).Refuses name s →
      Moment.Blames config ⟨depth, .code loop (c :: rest), s⟩ name
  | .write text, _, _, _, _, h =>
    (Render.innocent_write text _ _ (h.first fun _ => .pure _)).elim
  | .emit x, loop, rest, _, _, h => by
    rcases (h.first fun _ => .pure _).of_bind with hx | ⟨v, t, hv, h⟩
    · exact (blames_of_eval hpure ih x hx).leads .operands
    · rw [undefined_of_refuses_emit h] at hv
      exact ⟨_, .refl, loop, _, rest, x, t, rfl, rfl, hv⟩
  | .assign name x, _, _, _, _, h => by
    have hx := (h.first fun _ => .pure _).first fun v => Render.innocent_assign name v
    exact (blames_of_eval hpure ih x hx).leads .operands
  | .assignBinding binding x, _, _, _, _, h => by
    have hx := (h.first fun _ => .pure _).first fun v =>
      .bind (innocent_unpack _ binding v) fun _ => Render.innocent_assignAll _
    exact (blames_of_eval hpure ih x hx).leads .operands
  | .exportVar _ x, _, _, _, _, h => by
    have hx := (h.first fun _ => .pure _).first fun _ => .modify _
    exact (blames_of_eval hpure ih x hx).leads .operands
  | .log x, _, _, _, _, h => by
    have hx := (h.first fun _ => .pure _).first fun _ => Render.innocent_log _
    exact (blames_of_eval hpure ih x hx).leads .operands
  | .frame body, _, _, _, _, h => (blames_of_execAll hpure ih body h.inside).leads .frame
  | .escaping _ body, _, _, _, _, h => (blames_of_execAll hpure ih body h.inside).leads .escaping
  | .choose condition yes no, _, _, _, _, h => by
    rcases h.of_bind with hcondition | ⟨v, t, hv, h⟩
    · exact (blames_of_eval hpure ih condition hcondition).leads .operands
    · refine Moment.Blames.leads ?_ (.branch hv)
      split at h
      case isTrue htrue =>
        rw [if_pos htrue]
        exact blames_of_execAll hpure ih yes h
      case isFalse hfalse =>
        rw [if_neg hfalse]
        exact blames_of_execAll hpure ih no h
  | .forEach iterable binding body visited, _, _, _, _, h => by
    rcases (h.first fun _ => .pure _).of_bind with hiterable | ⟨v, t, hv, h⟩
    · exact (blames_of_eval hpure ih iterable hiterable).leads .operands
    · have hloop := h.first fun any => by
        cases visited with
        | some name => exact Render.innocent_assign name _
        | none => exact .pure _
      exact blames_of_forLoop rfl hv (blames_of_execAll hpure ih body) hloop
  | .forElse iterable binding body otherwise, _, _, _, _, h => by
    rcases (h.first fun _ => .pure _).of_bind with hiterable | ⟨v, t, hv, h⟩
    · exact (blames_of_eval hpure ih iterable hiterable).leads .operands
    · rcases h.of_bind with hloop | ⟨visited, u, hvisited, h⟩
      · exact blames_of_forLoop rfl hv (blames_of_execAll hpure ih body) hloop
      · cases visited with
        | true => exact (Innocent.pure _ _ _ h).elim
        | false =>
          have hotherwise : (asWhole _).Refuses _ u.enterFrame := Refuses.inside h
          exact (blames_of_execAll hpure ih otherwise (hotherwise.first fun _ => .pure _)).leads
            (.otherwise hv hvisited)
  | .breakLoop, _, _, _, _, h => (Innocent.pure _ _ _ h).elim
  | .continueLoop, _, _, _, _, h => (Innocent.pure _ _ _ h).elim
  | .block .., _, _, _, _, h => blames_of_asked ih rfl h
  | .blockLevel name level, _, _, s, _, h => by
    cases hasks : (Stmt.blockLevel name level).asksFor s with
    | some active => exact blames_of_asked ih hasks h
    | none =>
      have hlevel : levelsUpOfLevel level = none := Option.map_eq_none_iff.mp hasks
      have hfails := h.first fun _ => .pure _
      rw [Refuses, Render.evaluateBlockLevel, hlevel] at hfails
      cases hfails
  | .superBlock, _, _, s, _, h => by
    cases hasks : Stmt.superBlock.asksFor s with
    | some active => exact blames_of_asked ih hasks h
    | none =>
      have hnone : s.block = none := Option.map_eq_none_iff.mp hasks
      have hfails := h.first fun _ => .pure _
      rw [Refuses, superBlock_of_none hnone] at hfails
      cases hfails
  | .extendTemplate _, _, _, _, _, h => by
    obtain ⟨_, _, hresolved, h⟩ := (h.first fun _ => .pure _).second (.read _)
    cases hresolved
    obtain ⟨t, u, hfetched, h⟩ := h.second (Render.innocent_getTemplate hpure _)
    exact blames_of_fetched ih rfl (.extending hfetched) (refuses_of_asTemplate h)
  | .includeTemplate _ _, _, _, _, _, h => by
    obtain ⟨_, _, hresolved, h⟩ := (h.first fun _ => .pure _).second (.read _)
    cases hresolved
    obtain ⟨found, u, hfetched, h⟩ := h.second (Render.innocent_getOptional hpure _ _)
    cases found with
    | none => exact (Innocent.pure _ _ _ h).elim
    | some t => exact blames_of_fetched ih rfl (.including hfetched) (refuses_of_asTemplate h)
  | .includeFirstOf _ _, _, _, _, _, h => by
    obtain ⟨_, _, horigin, h⟩ := (h.first fun _ => .pure _).second (.read _)
    cases horigin
    obtain ⟨found, u, hfetched, h⟩ := h.second (Render.innocent_selectOptional hpure _ _)
    match found with
    | none => exact (Innocent.pure _ _ _ h).elim
    | some (resolved, t) =>
      exact blames_of_fetched ih rfl (.includingFirst hfetched) (refuses_of_asTemplate h)
  | .importAs _ target, _, _, _, _, h => by
    have himport := (h.first fun _ => .pure _).first fun v => Render.innocent_assign target v
    obtain ⟨t, u, hfetched, hrun⟩ := refuses_of_importTemplate hpure himport
    exact blames_of_fetched ih rfl (.importingAs hfetched) hrun
  | .fromImport _ _, _, _, _, _, h => by
    have himport := (h.first fun _ => .pure _).first fun _ => Render.innocent_assignAll _
    obtain ⟨t, u, hfetched, hrun⟩ := refuses_of_importTemplate hpure himport
    exact blames_of_fetched ih rfl (.importingFrom hfetched) hrun
  | .filterBlock filter arguments body, _, _, _, _, h => by
    rcases (h.first fun _ => .pure _).of_bind with harguments | ⟨given, t, hgiven, h⟩
    · exact (blames_of_evalAll hpure ih arguments harguments).leads .operands
    · have hcaptured := h.first fun captured =>
        .bind (.ofExcept (hpure.callFilter filter _ given)) fun _ => Render.innocent_write _
      have hwhole := refuses_of_capture hcaptured.inside
      exact (blames_of_execAll hpure ih body (hwhole.first fun _ => .pure _)).leads
        (.filtered hgiven)
  | .registerBlock name body, _, _, _, _, h =>
    (Render.innocent_registerBlock name body _ _ (h.first fun _ => .pure _)).elim
  | .registerTemplate name, _, _, _, _, h =>
    (Innocent.bind (Render.innocent_getTemplate hpure name) Render.innocent_registerBlocks _ _
      (h.first fun _ => .pure _)).elim
  | .setEscaping _, _, _, _, _, h => (Innocent.modify _ _ _ (h.first fun _ => .pure _)).elim
  | .context, _, _, _, _, h => (Innocent.modify _ _ _ (h.first fun _ => .pure _)).elim
  | .probe, _, _, _, _, h =>
    (Innocent.bind (.read _) (fun _ => .modify _) _ _ (h.first fun _ => .pure _)).elim
  | .summarize, _, _, _, _, h =>
    (Innocent.bind (.read _) (fun _ => .modify _) _ _ (h.first fun _ => .pure _)).elim
  | .attempt body, loop, _, s, _, h => by
    -- Every error of the body is caught.
    rw [Refuses, Stmt.exec, Action.bind_apply, Action.attempt] at h
    rcases hrun : Stmt.execAll config (invoke config depth) loop body s with
      ⟨flow | error | _, t⟩ <;> rw [hrun] at h <;> cases h

theorem blames_of_execAll (hpure : config.RaisesNoUndefined) (ih : TracesBodies config depth) :
    ∀ (body : Body) {loop : Option LoopContext} {s : State} {name : String},
      (Stmt.execAll config (invoke config depth) loop body).Refuses name s →
      Moment.Blames config ⟨depth, .code loop body, s⟩ name
  | [], _, _, _, h => (Innocent.pure _ _ _ h).elim
  | c :: rest, _, _, _, h => by
    rcases h.of_bind with hc | ⟨flow, t, hflow, h⟩
    · exact blames_of_exec hpure ih c hc
    · cases flow with
      | next => exact (blames_of_execAll hpure ih rest h).leads (.next hflow)
      | breakLoop | continueLoop => exact (Innocent.pure _ _ _ h).elim

end

end

/-- The induction on the depth to which bodies run others. -/
theorem tracesBodies {config : Config} (hpure : config.RaisesNoUndefined) :
    ∀ depth : Nat, TracesBodies config depth
  | 0, _, _, _, h => by cases h
  | depth + 1, body, s, name, h =>
    ⟨depth, rfl, blames_of_execAll hpure (tracesBodies hpure depth) body (h.first fun _ => .pure _)⟩

end Templating
