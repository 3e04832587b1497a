import Templating.Proofs.Chains
import Templating.Proofs.Frames
import Templating.Proofs.Quiet

/-!
# Registries only grow

A definition is registered at the least specific end of its chain and addressed
from the other end.  So a registry only ever grows in front (`BlockRegistry.Grows`),
and what was found at an address is found there for good
(`BlockRegistry.Grows.resolve`).

`Moment.Shares` relates a moment to those that come out of it and work with the
same registry: in the same body, in the definitions of blocks, and in the
templates that are extended.  From each of them to the next the registry grows
(`Moment.SharesNext.grows`), and the registry that the first leaves behind when its
run is over (`Moment.ended`) has grown out of theirs: whatever happens between a
moment and the end of its run, nothing is taken back on the way
(`Moment.Shares.grows_ended`).
-/
namespace Templating

open Relation (ReflTransGen)

/-! ## Chains that grow in front -/

namespace BlockRegistry

variable {α : Type} {r r' r'' : BlockRegistry α} {name : String} {levelsUp : Nat} {body : α}

/-- The chains of the first registry are the ends of the chains of the second. -/
def Grows (r r' : BlockRegistry α) : Prop :=
  ∀ name, r.chain name <:+ r'.chain name

theorem Grows.refl (r : BlockRegistry α) : r.Grows r :=
  fun name => List.suffix_refl (r.chain name)

theorem Grows.of_eq (h : r' = r) : r.Grows r' := by
  subst h
  exact .refl r'

theorem Grows.trans (h : r.Grows r') (h' : r'.Grows r'') : r.Grows r'' :=
  fun name => (h name).trans (h' name)

theorem Grows.depth_le (h : r.Grows r') (name : String) : r.depth name ≤ r'.depth name :=
  (h name).length_le

theorem Grows.chain?_ne_none (h : r.Grows r') (hname : r.chain? name ≠ none) :
    r'.chain? name ≠ none := by
  rw [Ne, ← chain_eq_nil_iff] at hname ⊢
  exact fun hnil => hname (List.suffix_nil.mp (hnil ▸ h name))

theorem Grows.names_subset (h : r.Grows r') : r.names ⊆ r'.names := by
  intro name hname
  rw [mem_names_iff, ← Bool.not_eq_false, contains_eq_false_iff] at hname ⊢
  exact h.chain?_ne_none hname

/-- What is found stays found, however the registry grows. -/
theorem Grows.resolve (h : r.Grows r') (hbody : r.resolve name levelsUp = .ok body) :
    r'.resolve name levelsUp = .ok body := by
  obtain ⟨below, above, hchain, habove⟩ := resolve_eq_ok_iff.mp hbody
  obtain ⟨front, hfront⟩ := h name
  refine resolve_eq_ok_iff.mpr ⟨front ++ below, above, ?_, habove⟩
  rw [← hfront, hchain, List.append_assoc]

end BlockRegistry

theorem Session.Continues.grows {s t : Session} (h : s.Continues t) : s.blocks.Grows t.blocks :=
  h.blocks

/-! ## Actions that add at most -/

/-- An action that, however it ends, has at most added definitions. -/
def AddsOnly {α : Type} (m : Render α) : Prop :=
  ∀ s : State, s.blocks.Grows (m s).2.blocks

section
variable {α β : Type} {m : Render α} {f : α → Render β}

theorem AddsOnly.of_alike {Q : α → Prop} (h : Course.sameFrame.pairing.Alike m m Q) :
    AddsOnly m :=
  fun _ => (Course.of_alike h trivial).1.session.grows

theorem AddsOnly.of_keeps (h : Keeps State.blocks m) : AddsOnly m :=
  fun s => .of_eq (h.apply s)

/-- What comes first leaves a registry that what comes after adds to. -/
theorem grows_bind (hf : ∀ a, AddsOnly (f a)) (s : State) :
    (m s).2.blocks.Grows ((m >>= f) s).2.blocks := by
  rw [Action.bind_apply]
  rcases m s with ⟨a | _ | _, t⟩
  · exact hf a t
  · exact .refl _
  · exact .refl _

theorem AddsOnly.bind (hm : AddsOnly m) (hf : ∀ a, AddsOnly (f a)) : AddsOnly (m >>= f) :=
  fun s => (hm s).trans (grows_bind hf s)

theorem addsOnly_pure (a : α) : AddsOnly (pure a) := fun _ => .refl _

theorem grows_simply (m : Render Unit) (s : State) :
    (m s).2.blocks.Grows (simply m s).2.blocks :=
  grows_bind (fun _ => addsOnly_pure _) s

theorem grows_asWhole (m : Render Flow) (s : State) :
    (m s).2.blocks.Grows (asWhole m s).2.blocks :=
  grows_bind (fun _ => addsOnly_pure _) s

theorem grows_asIteration (m : Render Flow) (s : State) :
    (m s).2.blocks.Grows (asIteration m s).2.blocks :=
  grows_bind (fun _ => addsOnly_pure _) s

end

section
variable (config : Config) (depth : Nat)

theorem addsOnly_execAll (loop : Option LoopContext) (body : Body) :
    AddsOnly (Stmt.execAll config (invoke config depth) loop body) :=
  .of_alike ((sound_sameFrame config).execAll (Vocabulary.closed_full config)
    (Vocabulary.code_full body) depth loop)

theorem addsOnly_invoke (body : Body) : AddsOnly (invoke config depth body) :=
  .of_alike ((sound_sameFrame config).pairing.runs (Vocabulary.closed_full config) depth body
    (Vocabulary.code_full body))

theorem sameFrame_evaluateTemplate (t : Template) (context : Context) (sink : Sink)
    (session : Option Session) (world : World) :
    (State.begin config t context sink session world).SameFrame
      (config.evaluateTemplate depth t context sink session world).2 :=
  (sound_sameFrame config).evaluateTemplate (Vocabulary.closed_full config)
    (Vocabulary.template_full t) depth trivial

theorem addsOnly_runSetup (t : Template) : AddsOnly (Render.runSetup (invoke config depth) t) :=
  have hruns := (sound_sameFrame config).pairing.runs (Vocabulary.closed_full config) depth
  .of_alike ((sound_sameFrame config).pairing.runSetup hruns (Vocabulary.template_full t))

end

/-- A loop adds at most what its iterations add. -/
theorem addsOnly_visitFrom (it : Iteration) (binding : Binding) (scope : Scope)
    {body : LoopContext → Render LoopStep} (hbody : ∀ context, AddsOnly (body context)) :
    ∀ (items : List Value) (index0 : Nat),
      AddsOnly (it.visitFrom binding (fun context values => do
        Render.beginIteration scope binding context values
        body context) index0 items)
  | [], _ => addsOnly_pure _
  | item :: rest, index0 => by
    unfold Iteration.visitFrom
    have hbegin (context : LoopContext) (values : List Value) :
        AddsOnly (Render.beginIteration scope binding context values) := fun _ => .refl _
    refine (AddsOnly.of_keeps (Keeps.ofExcept _)).bind fun values => ?_
    refine ((hbegin _ values).bind fun _ => hbody _).bind fun step => ?_
    cases step with
    | stop => exact addsOnly_pure _
    | goOn => exact addsOnly_visitFrom it binding scope hbody rest (index0 + 1)

/-! ## Moments with the same registry -/

/-- The state may be a later one of the same session, in the same definition. -/
structure State.GoesOn (s t : State) : Prop where
  block : t.block = s.block
  session : s.session.Continues t.session

theorem State.SameFrame.goesOn {s t : State} (h : s.SameFrame t) : s.GoesOn t :=
  ⟨h.block, h.session⟩

theorem State.GoesOn.trans {s t u : State} (h : s.GoesOn t) (h' : t.GoesOn u) : s.GoesOn u :=
  ⟨h'.block.trans h.block, h.session.trans h'.session⟩

namespace Moment

variable {config : Config} {m m' : Moment}

/-- Code stays in its session and in the definition in which it began. -/
theorem Leads.goesOn (h : Leads config m m') : m.state.GoesOn m'.state := by
  have hC := sound_sameFrame config
  have hV := Vocabulary.closed_full config
  have heval {x : Expr} {depth : Nat} {s t : State} {v : Value}
      (hrun : x.eval config (invoke config depth) s = (.done v, t)) : s.GoesOn t :=
    (Course.done_of_alike (hC.eval hV (x.every_of_forall fun _ => trivial) depth) trivial
      hrun).1.goesOn
  have hbody (depth : Nat) (body : Body) (context : LoopContext) := Pairing.Sound.asIteration
    (hC.execAll hV (Vocabulary.code_full body) depth (some context))
  cases h with
  | @next depth loop c _ _ _ hrun =>
    have hc := hC.exec hV (c.every_of_forall (fun _ => trivial) fun _ => trivial) depth loop
    exact (Course.done_of_alike hc trivial hrun).1.goesOn
  | nextOperand hrun => exact heval hrun
  | branch hrun => exact heval hrun
  | @iteration depth _ _ _ _ _ body _ _ _ _ _ _ hrun _ hi =>
    obtain ⟨w, hw, hbegun⟩ := hC.iterates hV trivial
      (fun context s _ => (Course.of_alike (hbody depth body context) trivial).1) hi trivial
    exact (heval hrun).trans (hw.goesOn.trans ⟨hbegun.block, hbegun.session⟩)
  | @otherwise depth _ _ binding body _ _ _ v _ _ hrun hloop =>
    have hforLoop := hC.pairing.forLoop hV (show Vocabulary.full.value v from trivial) binding
      (hbody depth body)
    have hlooped := (Course.done_of_alike hforLoop trivial hloop).1
    exact (heval hrun).trans ⟨hlooped.block, hlooped.session⟩
  | @filtered depth _ _ arguments _ _ _ _ _ hrun =>
    have harguments := hC.evalAll hV (Expr.everyOf_of_forall (fun _ => trivial) arguments) depth
    have hgiven := (Course.done_of_alike harguments trivial hrun).1
    exact ⟨hgiven.block, hgiven.session⟩
  | escaping => exact ⟨rfl, .setAutoescape _ _⟩
  | operands | innerOperands | frame | attempted => exact ⟨rfl, .refl _⟩

variable (config) in
/-- The template that a statement extends begins. -/
def Extends (m m' : Moment) : Prop :=
  ∃ name t u, Fetches config m .extending name t u ∧
    Starts config m.depth t (u.beginFetched config name .extending) m'

variable (config) in
/-- The next moment that works with the same registry. -/
def SharesNext (m m' : Moment) : Prop :=
  Leads config m m' ∨ Calls m m' ∨ Extends config m m'

variable (config) in
/-- A moment later on that works with the same registry. -/
abbrev Shares (m m' : Moment) : Prop := ReflTransGen (SharesNext config) m m'

theorem grows_ended (m : Moment) : m.state.blocks.Grows (m.ended config).blocks := by
  obtain ⟨depth, task, s⟩ := m
  cases task with
  | code loop body => exact addsOnly_execAll config depth loop body s
  | operands xs => exact .of_eq ((evalAll_blocks xs).apply s)

/-! ### The step lemma forwards -/

theorem Calls.blocks (h : Calls m m') : m'.state.blocks = m.state.blocks := by
  cases h
  rfl

/-- A template that is extended begins with the registry of the one that extends
it. -/
theorem Fetches.blocks {name : String} {t : Template} {u : State}
    (h : Fetches config m .extending name t u) :
    (u.beginFetched config name .extending).blocks = m.state.blocks := by
  cases h with
  | extending hrun =>
    have hu : u.blocks = _ := ((Keeps.getTemplate isApart_blocks config _).at _).of_run hrun
    exact hu

theorem Starts.grows {depth : Nat} {t : Template} {s : State} (h : Starts config depth t s m) :
    s.blocks.Grows m.state.blocks := by
  cases h with
  | setup _ => exact .refl _
  | @root depth _ _ u hrun =>
    have hsetup := addsOnly_runSetup config (depth + 1) t s
    rwa [hrun] at hsetup

theorem SharesNext.grows (h : SharesNext config m m') : m.state.blocks.Grows m'.state.blocks := by
  rcases h with hleads | hcalls | ⟨name, t, u, hfetch, hstart⟩
  · exact hleads.goesOn.session.grows
  · exact .of_eq hcalls.blocks
  · exact (BlockRegistry.Grows.of_eq hfetch.blocks).trans hstart.grows

theorem SharesNext.step (h : SharesNext config m m') : Step config m m' := by
  rcases h with hleads | hcalls | ⟨name, t, u, hfetch, hstart⟩
  · exact .inl hleads
  · exact .inr (.inl hcalls)
  · exact .inr (.inr ⟨.extending, name, t, u, hfetch, hstart⟩)

end Moment

/-! ### The step lemma backwards -/

section
variable {config : Config} {depth : Nat}

/-- The first statement of several leaves a registry that the others add to. -/
theorem grows_head (config : Config) (depth : Nat) (c : Stmt) (rest : List Stmt)
    (loop : Option LoopContext) (s : State) :
    (c.exec config (invoke config depth) loop s).2.blocks.Grows
      (Stmt.execAll config (invoke config depth) loop (c :: rest) s).2.blocks := by
  rw [Stmt.execAll]
  refine grows_bind (fun flow => ?_) s
  cases flow with
  | next => exact addsOnly_execAll config depth loop rest
  | breakLoop | continueLoop => exact addsOnly_pure _

/-- An iteration leaves a registry that those after it add to. -/
theorem grows_visits {it : Iteration} {binding : Binding} {scope : Scope}
    {body : LoopContext → Render LoopStep} (hbody : ∀ context, AddsOnly (body context))
    {index0 : Nat} {items : List Value} {s t : State} {context : LoopContext}
    (h : it.Visits binding scope body index0 items s context t) :
    (body context t).2.blocks.Grows (it.visitFrom binding (fun context values => do
      Render.beginIteration scope binding context values
      body context) index0 items s).2.blocks := by
  induction h with
  | @here index0 item rest values s t hparts ht =>
    rw [Iteration.visitFrom, Action.bind_of_done (Action.ofExcept_of_ok hparts s)]
    have hfirst : (do
        Render.beginIteration scope binding (it.contextAt index0) values
        body (it.contextAt index0)) s = body (it.contextAt index0) t := Action.bind_of_done ht
    rw [← hfirst]
    refine grows_bind (fun step => ?_) s
    cases step with
    | stop => exact addsOnly_pure _
    | goOn => exact addsOnly_visitFrom it binding scope hbody rest (index0 + 1)
  | @later index0 item rest values s t u context v hparts ht hgo _ ih =>
    rw [Iteration.visitFrom, Action.bind_of_done (Action.ofExcept_of_ok hparts s)]
    have hfirst : (do
        Render.beginIteration scope binding (it.contextAt index0) values
        body (it.contextAt index0)) s = (.done .goOn, u) := by
      rw [Action.bind_of_done ht, hgo]
    rw [Action.bind_of_done hfirst]
    exact ih

/-- An iteration leaves a registry that the rest of its loop adds to. -/
theorem grows_iterates {iterable : Value} {binding : Binding}
    {body : LoopContext → Render LoopStep} (hbody : ∀ context, AddsOnly (body context))
    {s t : State} {context : LoopContext}
    (hrefuse : Render.refuseUndefined config iterable s = (.done (), s))
    (h : Render.Iterates config iterable binding body s context t) :
    (body context t).2.blocks.Grows
      (Render.forLoop config iterable binding body s).2.blocks := by
  obtain ⟨parent, u, items, hparent, hitems, hvisits⟩ := h
  have hread := Action.ofExcept_of_ok hitems u
  rw [Render.forLoop, Action.bind_of_done hrefuse, Action.bind_of_done hparent,
    Action.bind_of_done hread]
  have hframe := grows_bind (m := Render.withFrame <|
    Iteration.run items parent config.unpacking binding fun context values => do
      Render.beginIteration u.scope binding context values
      body context) (f := fun visited => pure (decide (0 < visited))) (fun _ => addsOnly_pure _) u
  exact (grows_visits hbody hvisits).trans hframe

/-- A loop leaves a registry that the rest of its statement adds to. -/
theorem grows_loop {c : Stmt} {iterable : Expr} {binding : Binding} {body : Body}
    (hloop : c.loop? = some (iterable, binding, body)) {loop : Option LoopContext} {s t : State}
    {v : Value} (hv : iterable.eval config (invoke config depth) s = (.done v, t)) :
    (Render.forLoop config v binding (fun context => asIteration
        (Stmt.execAll config (invoke config depth) (some context) body)) t).2.blocks.Grows
      (c.exec config (invoke config depth) loop s).2.blocks := by
  cases c with
  | forEach iterable binding body visited =>
    cases hloop
    rw [Stmt.exec]
    refine .trans ?_ (grows_simply _ s)
    rw [Action.bind_of_done hv]
    refine grows_bind (fun any => ?_) t
    cases visited with
    | some name => exact .of_keeps (assign_blocks name _)
    | none => exact addsOnly_pure _
  | forElse iterable binding body otherwise =>
    cases hloop
    rw [Stmt.exec]
    refine .trans ?_ (grows_simply _ s)
    rw [Action.bind_of_done hv]
    refine grows_bind (fun any => ?_) t
    cases any with
    | true => exact addsOnly_pure _
    | false =>
      intro u
      exact (addsOnly_execAll config depth none otherwise u.enterFrame).trans
        (grows_asWhole _ u.enterFrame)
  | _ => cases hloop

/-- A definition is about to be asked for. -/
def Moment.AsksFor (m : Moment) (active : ActiveBlock) : Prop :=
  ∃ loop c rest, m.task = .code loop (c :: rest) ∧ c.asksFor m.state = some active

/-- A statement that asks for a definition does nothing else. -/
theorem exec_of_asksFor {c : Stmt} {s : State} {active : ActiveBlock}
    (h : c.asksFor s = some active) (invoke : Invoke) (loop : Option LoopContext) :
    c.exec config invoke loop s =
      simply (Render.evaluateBlock invoke active.name active.levelsUp) s := by
  cases c with
  | block name levelsUp =>
    cases h
    rfl
  | blockLevel name level =>
    obtain ⟨levelsUp, hlevel, rfl⟩ := Option.map_eq_some_iff.mp h
    simp only [Stmt.exec, Render.evaluateBlockLevel, hlevel]
  | superBlock =>
    obtain ⟨running, hrunning, rfl⟩ := Option.map_eq_some_iff.mp h
    have hsuper := superBlock_of_block hrunning invoke
    simp only [Stmt.exec, simply, Action.bind_apply, hsuper]
  | _ => cases h

/-- Extending a template that was fetched is running it in a session derived for
it. -/
theorem extendTemplate_of_done {invoke : Invoke} {name r : String} {s u : State} {t : Template}
    (hr : config.joinPath name s.session.template = r)
    (h : Render.getTemplate config r s = (.done t, u)) :
    Render.extendTemplate config invoke name s =
      ((Render.runTemplate invoke t (u.beginFetched config r .extending)).1,
        State.leaveTemplate .extending
          (u.logged (.notice (.derivingSession u.session.template r .extending)))
          (Render.runTemplate invoke t (u.beginFetched config r .extending)).2) := by
  rw [Render.extendTemplate, Action.bind_of_done (Render.resolveName_of_joinPath hr),
    Action.bind_of_done h]
  rfl

end

namespace Moment

variable {config : Config} {m m' : Moment}

theorem Leads.grows_ended (h : Leads config m m') :
    (m'.ended config).blocks.Grows (m.ended config).blocks := by
  -- Operands register nothing, so their run leaves the registry it began with.
  have hoperands {depth : Nat} {xs : List Expr} {s : State} {u : State}
      (h : s.blocks.Grows u.blocks) :
      (Moment.ended config ⟨depth, .operands xs, s⟩).blocks.Grows u.blocks :=
    (BlockRegistry.Grows.of_eq ((evalAll_blocks xs).apply s).symm).trans h
  cases h with
  | @next depth loop c rest s t hrun =>
    refine .of_eq ?_
    simp only [ended, Stmt.execAll, Action.bind_of_done hrun]
  | @operands depth loop c rest s =>
    exact hoperands (Moment.grows_ended ⟨depth, .code loop (c :: rest), s⟩)
  | @innerOperands depth x rest s =>
    exact hoperands (Moment.grows_ended ⟨depth, .operands (x :: rest), s⟩)
  | @nextOperand depth x rest s v t hrun =>
    have ht : s.blocks = t.blocks := (((eval_blocks x).at s).of_run hrun).symm
    exact hoperands (ht ▸ Moment.grows_ended ⟨depth, .operands (x :: rest), s⟩)
  | @frame depth loop body rest s => exact grows_head config depth (.frame body) rest loop s
  | @escaping depth loop enabled body rest s =>
    exact grows_head config depth (.escaping enabled body) rest loop s
  | @branch depth loop condition yes no rest s v t hrun =>
    have hhead := grows_head config depth (.choose condition yes no) rest
      loop s
    rw [Stmt.exec, Action.bind_of_done hrun] at hhead
    split
    · next htrue =>
      rw [if_pos htrue] at hhead
      exact hhead
    · next hfalse =>
      rw [if_neg hfalse] at hhead
      exact hhead
  | @iteration depth loop c rest iterable binding body s v t context u hloop hrun hrefuse hi =>
    have hbody (context : LoopContext) :
        AddsOnly (asIteration (Stmt.execAll config (invoke config depth) (some context) body)) :=
      (addsOnly_execAll config depth (some context) body).bind fun _ => addsOnly_pure _
    have hiterates := grows_iterates hbody hrefuse hi
    have hstatement := (grows_loop hloop hrun).trans (grows_head config depth c rest loop s)
    exact (grows_asIteration _ u).trans (hiterates.trans hstatement)
  | @otherwise depth loop iterable binding body otherwise rest s v t u hrun hloop =>
    have hwhole := grows_asWhole (Stmt.execAll config (invoke config depth) none otherwise)
      u.enterFrame
    have hsimply := grows_simply (do
      let v ← iterable.eval config (invoke config depth)
      Render.forLoopElse config v binding
        (fun context => asIteration (Stmt.execAll config (invoke config depth) (some context) body))
        (asWhole (Stmt.execAll config (invoke config depth) none otherwise))) s
    rw [Action.bind_of_done hrun, Render.forLoopElse, Action.bind_of_done hloop] at hsimply
    have hhead := grows_head config depth (.forElse iterable binding body otherwise) rest loop s
    exact hwhole.trans (hsimply.trans hhead)
  | @filtered depth loop filter arguments body rest s given t hrun =>
    have hwhole := grows_asWhole (Stmt.execAll config (invoke config depth) none body)
      t.enterFrame.enterCapture
    have hfilter : (asWhole (Stmt.execAll config (invoke config depth) none body)
        t.enterFrame.enterCapture).2.blocks.Grows
        (Render.filterBlock config filter given
          (asWhole (Stmt.execAll config (invoke config depth) none body)) t).2.blocks := by
      have hframe := grows_bind (m := Render.withFrame (Render.capture
        (asWhole (Stmt.execAll config (invoke config depth) none body)))) (f := fun captured => do
          let filtered ← Action.ofExcept (config.callFilter filter (.markup ⟨captured⟩) given)
          Render.write filtered.toText) (fun _ => .of_keeps ((Keeps.ofExcept _).seq fun _ =>
            Keeps.write isApart_blocks _)) t
      rw [Render.withFrame, Action.bracket_apply, Pairing.Sound.capture_apply] at hframe
      exact hframe
    have hsimply := grows_simply (do
      let given ← Expr.evalAll config (invoke config depth) arguments
      Render.filterBlock config filter given
        (asWhole (Stmt.execAll config (invoke config depth) none body))) s
    rw [Action.bind_of_done hrun] at hsimply
    have hhead := grows_head config depth (.filterBlock filter arguments body) rest loop s
    exact hwhole.trans (hfilter.trans (hsimply.trans hhead))
  | @attempted depth loop body rest s =>
    have hattempt : (Stmt.execAll config (invoke config depth) loop body s).2.blocks.Grows
        ((Stmt.attempt body).exec config (invoke config depth) loop s).2.blocks := by
      rw [Stmt.exec, ← Action.attempt_state]
      refine grows_bind (fun r => ?_) s
      cases r with
      | ok flow => exact addsOnly_pure _
      | error error => exact .of_keeps ((Keeps.log isApart_blocks _).seq fun _ => Keeps.pure _)
    exact hattempt.trans (grows_head config depth (.attempt body) rest loop s)

theorem Calls.grows_ended (h : Calls m m') :
    (m'.ended config).blocks.Grows (m.ended config).blocks := by
  cases h with
  | @definition depth loop c rest active body s hc hbody =>
    have hwhole := grows_asWhole (Stmt.execAll config (invoke config depth) none body)
      (State.enterBlock active (s.logged (.notice (.resolvedBlock active.name active.levelsUp
        (s.session.blocks.depth active.name)))))
    have hsimply := grows_simply
      (Render.evaluateBlock (invoke config (depth + 1)) active.name active.levelsUp) s
    rw [evaluateBlock_of_ok hbody, Action.bracket_apply] at hsimply
    have hhead := grows_head config (depth + 1) c rest loop s
    rw [exec_of_asksFor hc] at hhead
    exact hwhole.trans (hsimply.trans hhead)

theorem Starts.grows_ended {depth : Nat} {t : Template} {s : State}
    (h : Starts config depth t s m) : (m.ended config).blocks.Grows
      (Render.runTemplate (invoke config depth) t s).2.blocks := by
  cases h with
  | @setup depth t setup s hsetup =>
    have hwhole := grows_asWhole (Stmt.execAll config (invoke config depth) none setup) s
    have hroot := grows_bind (m := Render.runSetup (invoke config (depth + 1)) t)
      (f := fun _ => invoke config (depth + 1) t.root)
      (fun _ => addsOnly_invoke config (depth + 1) t.root) s
    rw [Render.runSetup, hsetup] at hroot
    rw [Render.runTemplate, Render.runSetup, hsetup]
    exact hwhole.trans hroot
  | @root depth t s u hrun =>
    rw [Render.runTemplate, Action.bind_of_done hrun]
    exact grows_asWhole (Stmt.execAll config (invoke config depth) none t.root) u

theorem Extends.grows_ended (h : Extends config m m') :
    (m'.ended config).blocks.Grows (m.ended config).blocks := by
  obtain ⟨name, t, u, hfetch, hstart⟩ := h
  cases hfetch with
  | @extending depth loop name rest s t u hrun =>
    have hsimply := grows_simply (Render.extendTemplate config (invoke config depth) name) s
    rw [extendTemplate_of_done rfl hrun] at hsimply
    exact hstart.grows_ended.trans
      (hsimply.trans (grows_head config depth (.extendTemplate name) rest loop s))

theorem SharesNext.grows_ended (h : SharesNext config m m') :
    (m'.ended config).blocks.Grows (m.ended config).blocks := by
  rcases h with hleads | hcalls | hextends
  · exact hleads.grows_ended
  · exact hcalls.grows_ended
  · exact hextends.grows_ended

/-- What a run leaves behind has grown out of the registry at each of its
moments. -/
theorem Shares.grows_ended (h : Shares config m m') :
    m'.state.blocks.Grows (m.ended config).blocks := by
  have hended : (m'.ended config).blocks.Grows (m.ended config).blocks := by
    induction h with
    | refl => exact .refl _
    | tail _ hs ih => exact hs.grows_ended.trans ih
  exact m'.grows_ended.trans hended

end Moment

end Templating
