import Templating.Proofs.Exports
import Templating.Proofs.Nesting

/-!
# The loop variable shows the open loops

Nobody hands a loop the context of the loop around it.  When a loop begins it looks
its own variable up in whatever scope it finds itself in, and takes what it finds
for the loop around it.

That is right in every program that binds the variable by loops alone.  A scope is
then a record of the loops that are open: blocks, captured parts and other
templates inherit it, iterations put one more node on top of the scope in which
their loop began, and all of them give it back.  So the variable is undefined
outside of every loop; inside, it holds the position of the innermost open loop,
and its parent, the parent's parent and so on hold those of the loops around it,
up to the outermost one, which has none (`Moment.LoopLaw`).
-/
namespace Templating

/-- The positions of the open loops, innermost first. -/
def Opening.loops : List Opening → List LoopPosition
  | [] => []
  | .iteration position :: outer => position :: loops outer
  | .escaping _ :: outer | .template _ :: outer => loops outer

/-- A value that shows these loops to a template: it is the innermost one and its
parent shows the others.  Where there is no loop left there is no parent. -/
inductive Value.ShowsLoops : Value → List LoopPosition → Prop
  | outermost : ShowsLoops .null []
  | loop {id context positions} : ((Value.loop id context).attr "parent").ShowsLoops positions →
      ShowsLoops (.loop id context) (context.position :: positions)

theorem Value.attr_parent_loop (id : InstanceId) (context : LoopContext) :
    (Value.loop id context).attr "parent" =
      match context.parent? with
      | some (id, outer) => .loop id outer
      | none => .null := rfl

/-- What a name is bound to while these loops are open, if it is bound by loops
alone. -/
inductive Value.BoundByLoops : List LoopPosition → Option Value → Prop
  | outside : BoundByLoops [] none
  | inside {v position positions} : v.ShowsLoops (position :: positions) →
      BoundByLoops (position :: positions) (some v)

namespace Value.BoundByLoops

variable {found : Option Value}

theorem eq_none (h : BoundByLoops [] found) : found = none := by
  cases h
  rfl

theorem eq_some {position : LoopPosition} {positions : List LoopPosition}
    (h : BoundByLoops (position :: positions) found) :
    ∃ id context, found = some (.loop id context) ∧
      ((Value.loop id context).attr "parent").ShowsLoops positions ∧
      context.position = position := by
  cases h with
  | inside hshows =>
    cases hshows with
    | loop houter => exact ⟨_, _, rfl, houter, rfl⟩

end Value.BoundByLoops

/-! ## Programs that leave the variable to the loops -/

/-- A statement binds the loop variable by looping only. -/
def Stmt.SparesLoop : Stmt → Prop
  | .assign name _ => name ≠ loopVariable
  | .assignBinding binding _ => loopVariable ∉ binding.names
  | .forEach _ binding _ visited => loopVariable ∉ binding.names ∧ visited ≠ some loopVariable
  | .forElse _ binding _ _ => loopVariable ∉ binding.names
  | .importAs _ target => target ≠ loopVariable
  | .fromImport _ items => ∀ item ∈ items, item.2 ≠ loopVariable
  | _ => True

/-- The code in which the loop variable is bound by loops alone. -/
def Vocabulary.sparingLoop : Vocabulary :=
  .ofStatements Stmt.SparesLoop

/-- What the loop variable is bound to. -/
def State.loopBinding (s : State) : Option Value :=
  s.scope.get? loopVariable

theorem isApart_loopBinding : IsApart State.loopBinding :=
  ⟨fun _ _ => rfl, fun _ _ => rfl, fun _ _ => rfl, fun _ _ _ => rfl⟩

/-- Names that are bound in a scope hide no other name. -/
theorem Scope.get?_bind_of_forall_ne {scope : Scope} {bindings : List (String × Value)}
    {name : String} (h : ∀ entry ∈ bindings, entry.1 ≠ name) :
    (scope.bind bindings).get? name = scope.get? name := by
  have hnone : bindings.reverse.lookup name = none := by
    rw [List.lookup_eq_none_iff]
    intro entry hentry
    have hne := h entry (List.mem_reverse.mp hentry)
    simpa using hne.symm
  rw [Scope.get?_bind, Table.get?_ofList, hnone, Option.none_or]

theorem fst_ne_of_mem_zip {binding : Binding} (h : loopVariable ∉ binding.names)
    (values : List Value) : ∀ entry ∈ binding.names.zip values, entry.1 ≠ loopVariable := by
  rintro ⟨name, v⟩ hentry rfl
  exact h (List.of_mem_zip hentry).1

namespace Keeps

variable {α : Type} {config : Config} {invoke : Invoke}

theorem loopBinding_of_scope {m : Render α} (h : Keeps State.scope m) :
    Keeps State.loopBinding m :=
  of_forall fun s => congrArg (fun scope : Scope => scope.get? loopVariable) (h.apply s)

theorem assign_loopBinding {name : String} (h : name ≠ loopVariable) (v : Value) :
    Keeps State.loopBinding (Render.assign name v) := by
  refine of_forall fun s => Scope.get?_bind_of_forall_ne fun entry hentry => ?_
  rw [List.mem_singleton.mp hentry]
  exact h

theorem assignAll_loopBinding : ∀ {bindings : List (String × Value)},
    (∀ entry ∈ bindings, entry.1 ≠ loopVariable) →
    Keeps State.loopBinding (Render.assignAll bindings)
  | [], _ => Keeps.pure _
  | (_, v) :: _, h =>
    (assign_loopBinding (h _ (List.mem_cons_self ..)) v).seq fun _ =>
      assignAll_loopBinding fun entry hentry => h entry (List.mem_cons_of_mem _ hentry)

theorem assignBinding_loopBinding {binding : Binding} (h : loopVariable ∉ binding.names)
    (v : Value) : Keeps State.loopBinding (Render.assignBinding config binding v) :=
  (ofExcept _).seq fun values => assignAll_loopBinding (fst_ne_of_mem_zip h values)

theorem importTemplate_loopBinding (name : String) :
    Keeps State.loopBinding (Render.importTemplate config invoke name) :=
  importTemplate isApart_loopBinding (fun _ _ => rfl) config invoke name

theorem fromImport_loopBinding {items : List (String × String)}
    (h : ∀ item ∈ items, item.2 ≠ loopVariable) (name : String) :
    Keeps State.loopBinding (Render.fromImport config invoke name items) := by
  refine (importTemplate_loopBinding name).seq fun v => assignAll_loopBinding fun entry hentry => ?_
  obtain ⟨item, hitem, rfl⟩ := List.mem_map.mp hentry
  exact h item hitem

theorem forLoop_loopBinding (iterable : Value) (binding : Binding)
    (body : LoopContext → Render LoopStep) :
    Keeps State.loopBinding (Render.forLoop config iterable binding body) :=
  loopBinding_of_scope (forLoop_scope iterable binding body)

theorem simply_loopBinding {m : Render Unit} (h : Keeps State.loopBinding m) :
    Keeps State.loopBinding (simply m) :=
  h.seq fun _ => Keeps.pure _

end Keeps

section
variable (config : Config) (depth : Nat)

theorem evaluates_loopBinding (x : Expr) :
    Keeps State.loopBinding (x.eval config (invoke config depth)) :=
  .loopBinding_of_scope (evaluates_scope config depth x)

mutual

/-- The induction on code: whatever a statement binds for those after it, it is not
the loop variable. -/
theorem Stmt.exec_loopBinding : ∀ {c : Stmt}, c.Every Stmt.SparesLoop (fun _ => True) →
    ∀ loop, Keeps State.loopBinding (c.exec config (invoke config depth) loop)
  | .assign _ x, hc, _ =>
    .simply_loopBinding ((evaluates_loopBinding config depth x).seq fun v =>
      .assign_loopBinding hc.1 v)
  | .assignBinding _ x, hc, _ =>
    .simply_loopBinding ((evaluates_loopBinding config depth x).seq fun v =>
      .assignBinding_loopBinding hc.1 v)
  | .escaping enabled _, hc, loop => by
    -- The scope is the one that the body ends in.
    refine .of_forall fun s => ?_
    exact (Stmt.execAll_loopBinding hc.2 loop).apply (s.setAutoescape enabled)
  | .choose condition _ _, hc, loop => by
    refine (evaluates_loopBinding config depth condition).seq fun v => ?_
    cases v.isTruthy with
    | true => exact Stmt.execAll_loopBinding hc.2.2.1 loop
    | false => exact Stmt.execAll_loopBinding hc.2.2.2 loop
  | .forEach iterable binding _ visited, hc, _ => by
    refine .simply_loopBinding ((evaluates_loopBinding config depth iterable).seq fun v =>
      (Keeps.forLoop_loopBinding v binding _).seq fun any => ?_)
    cases visited with
    | none => exact .pure _
    | some name =>
      refine .assign_loopBinding (fun hname => ?_) _
      exact hc.1.2 (congrArg some hname)
  | .importAs name _, hc, _ =>
    .simply_loopBinding ((Keeps.importTemplate_loopBinding name).seq fun v =>
      .assign_loopBinding hc v)
  | .fromImport name _, hc, _ => .simply_loopBinding (.fromImport_loopBinding hc name)
  | .attempt _, hc, loop => by
    refine (Stmt.execAll_loopBinding hc.2 loop).caught.seq fun r => ?_
    cases r with
    | ok flow => exact .pure _
    | error error => exact (Keeps.log isApart_loopBinding _).seq fun _ => .pure _
  -- The others leave the scope as it was.
  | .write _, _, loop | .emit _, _, loop | .exportVar _ _, _, loop | .frame _, _, loop
  | .setEscaping _, _, loop | .forElse _ _ _ _, _, loop | .breakLoop, _, loop
  | .continueLoop, _, loop | .block _ _, _, loop | .blockLevel _ _, _, loop
  | .superBlock, _, loop | .extendTemplate _, _, loop | .includeTemplate _ _, _, loop
  | .includeFirstOf _ _, _, loop | .filterBlock _ _ _, _, loop | .registerBlock _ _, _, loop
  | .registerTemplate _, _, loop | .log _, _, loop | .context, _, loop | .probe, _, loop
  | .summarize, _, loop => .loopBinding_of_scope (Stmt.exec_scope config depth _ rfl loop)

theorem Stmt.execAll_loopBinding : ∀ {body : List Stmt},
    Stmt.EveryOf Stmt.SparesLoop (fun _ => True) body →
    ∀ loop, Keeps State.loopBinding (Stmt.execAll config (invoke config depth) loop body)
  | [], _, _ => .pure _
  | _ :: _, hbody, loop => by
    refine (Stmt.exec_loopBinding hbody.1 loop).seq fun flow => ?_
    cases flow with
    | next => exact Stmt.execAll_loopBinding hbody.2 loop
    | breakLoop | continueLoop => exact .pure _

end

end

/-- Only iterations bind the loop variable. -/
theorem steady_loopBinding (config : Config) :
    Steady config Stmt.SparesLoop State.loopBinding where
  apart := isApart_loopBinding
  frame _ := rfl
  block _ _ := rfl
  register _ _ _ := rfl
  template _ _ _ := rfl
  exec hc depth loop s _ := (Stmt.exec_loopBinding config depth hc loop).apply s
  forLoop _ v binding _ s _ := (Keeps.forLoop_loopBinding v binding _).apply s

/-! ## Iterations -/

/-- Where an iteration stands, and what it begins with: one node on top of the scope
in which the loop began, with its context and the parts of its element. -/
theorem Iteration.Visits.begun {it : Iteration} {binding : Binding} {scope : Scope}
    {body : LoopContext → Render LoopStep} {index0 : Nat} {items : List Value} {s t : State}
    {context : LoopContext} (h : it.Visits binding scope body index0 items s context t) :
    ∃ k item values id, items[k]? = some item ∧ context = it.contextAt (index0 + k) ∧
      (binding.unpack it.unpacking item).toExcept = .ok values ∧
      t.scope = scope.bind ((loopVariable, .loop id context) :: binding.names.zip values) := by
  induction h with
  | here hvalues hbegin =>
    cases hbegin
    exact ⟨0, _, _, _, rfl, rfl, hvalues, rfl⟩
  | @later index0 _ _ _ _ _ _ _ _ _ _ _ _ ih =>
    obtain ⟨k, item, values, id, hitem, hcontext, hvalues, hscope⟩ := ih
    refine ⟨k + 1, item, values, id, hitem, ?_, hvalues, hscope⟩
    rw [hcontext, Nat.add_right_comm, Nat.add_assoc]

/-- No target hides the context if none is called like it. -/
theorem get?_loopVariable_iteration {binding : Binding} (h : loopVariable ∉ binding.names)
    (scope : Scope) (v : Value) (values : List Value) :
    (scope.bind ((loopVariable, v) :: binding.names.zip values)).get? loopVariable = some v := by
  have hnode : (scope.bind ((loopVariable, v) :: binding.names.zip values)).get? loopVariable =
      ((scope.bind [(loopVariable, v)]).bind (binding.names.zip values)).get? loopVariable :=
    scope.get?_bind_append [(loopVariable, v)] _ _
  rw [hnode, Scope.get?_bind_of_forall_ne (fst_ne_of_mem_zip h values)]
  rfl

section
variable {config : Config} {v : Value} {binding : Binding} {body : LoopContext → Render LoopStep}
variable {s t : State} {context : LoopContext}

/-- An iteration begins on top of the scope in which its loop began, and its context
has for a parent what the loop has found there. -/
theorem Render.Iterates.begun (h : Render.Iterates config v binding body s context t) :
    ∃ parent u items k item values id, Render.copyEnclosing s = (.done parent, u) ∧
      Iteration.itemsOf v = .ok items ∧ items[k]? = some item ∧
      context = .ofPosition k items.length parent ∧
      (binding.unpack config.unpacking item).toExcept = .ok values ∧
      t.scope = s.scope.bind ((loopVariable, .loop id context) :: binding.names.zip values) := by
  obtain ⟨parent, u, items, hparent, hitems, hvisits⟩ := h
  obtain ⟨k, item, values, id, hitem, hcontext, hvalues, hscope⟩ := hvisits.begun
  have hkept : u.scope = s.scope :=
    ((Keeps.copyEnclosing isApart_scope).at s).of_run hparent
  refine ⟨parent, u, items, k, item, values, id, hparent, hitems, hitem, ?_, hvalues, ?_⟩
  · rw [hcontext, Nat.zero_add]
    rfl
  · rw [hscope, hkept]

/-- An iteration adds its loop to those that the variable shows. -/
theorem boundByLoops_iterates {positions : List LoopPosition}
    (hbinding : loopVariable ∉ binding.names) (hs : Value.BoundByLoops positions s.loopBinding)
    (hi : Render.Iterates config v binding body s context t) :
    Value.BoundByLoops (context.position :: positions) t.loopBinding := by
  obtain ⟨parent, u, items, k, item, values, id, hparent, -, -, hcontext, -, hscope⟩ := hi.begun
  rw [State.loopBinding, hscope, get?_loopVariable_iteration hbinding]
  refine .inside (.loop ?_)
  rw [hcontext, Value.attr_parent_loop, LoopContext.parent?_ofPosition]
  rw [Render.copyEnclosing_apply, Scope.lookup] at hparent
  -- The parent is a copy of what the variable held when the loop began.
  cases positions with
  | nil =>
    have hfound : s.scope.get? loopVariable = none := hs.eq_none
    rw [hfound] at hparent
    cases hparent
    exact .outermost
  | cons position positions =>
    obtain ⟨_, outer, hfound, houter, rfl⟩ := hs.eq_some
    rw [State.loopBinding] at hfound
    rw [hfound] at hparent
    cases hparent
    exact .loop houter

end

/-- The targets of a loop are other names. -/
theorem Stmt.SparesLoop.target {c : Stmt} {iterable : Expr} {binding : Binding} {body : Body}
    (hc : c.Every Stmt.SparesLoop fun _ => True)
    (hloop : c.loop? = some (iterable, binding, body)) : loopVariable ∉ binding.names := by
  cases c with
  | forEach =>
    cases hloop
    exact hc.1.1
  | forElse =>
    cases hloop
    exact hc.1
  | _ => cases hloop

/-! ## Moments -/

namespace Moment

variable {config : Config} {own : Session} {scope : Scope} {first m m' : Moment}
variable {openings : List Opening}

/-- A template that was fetched begins in the scope of the reference. -/
theorem Fetches.loopBinding {reach : Reach} {name : String} {t : Template} {u : State}
    (h : Fetches config m reach name t u) : u.loopBinding = m.state.loopBinding := by
  cases h with
  | extending hrun | importingAs hrun | importingFrom hrun | importing hrun =>
    exact ((Keeps.getTemplate isApart_loopBinding config _).at _).of_run hrun
  | including hrun =>
    exact ((Keeps.getOptional isApart_loopBinding config _ _).at _).of_run hrun
  | includingFirst hrun =>
    exact ((Keeps.selectOptional isApart_loopBinding config _ _).at _).of_run hrun

theorem loopBinding_beginFetched (name : String) (reach : Reach) (s : State) :
    (s.beginFetched config name reach).loopBinding = s.loopBinding := by
  cases reach <;> rfl

section
variable (hloader : ∀ name t, config.loader name = .ok t → Vocabulary.sparingLoop.Template t)
include hloader

theorem Fetches.loopBinding_starts {reach : Reach} {name : String} {t : Template} {u : State}
    (hm : m.KeepsTo Stmt.SparesLoop) (hfetch : Fetches config m reach name t u)
    (hstart : Starts config m.depth t (u.beginFetched config name reach) m') :
    m'.state.loopBinding = m.state.loopBinding := by
  have hheld := sound_holdingCode hloader
  obtain ⟨hu, ht⟩ := hheld.fetches hm hfetch
  rw [(steady_loopBinding config).starts hloader ht (hheld.beginFetched hu name reach) hstart,
    loopBinding_beginFetched, hfetch.loopBinding]

theorem Begins.loopBinding (hown : own.Made config .sparingLoop)
    (h : Begins config .sparingLoop own scope first) :
    first.state.loopBinding = scope.get? loopVariable := by
  cases h with
  | @template _ t context sink world _ ht hstart =>
    have hheld : (State.begin config t context sink (some own) world).session.HoldsCode
      .sparingLoop := hown.holdsCode hloader
    exact (steady_loopBinding config).starts hloader ht hheld hstart
  | code => rfl

/-- The run lemma: the variable is bound to the loops that are open. -/
theorem Opens.boundByLoops (hown : own.Made config .sparingLoop)
    (hscope : scope.get? loopVariable = none)
    (hfirst : Begins config .sparingLoop own scope first)
    (h : Opens config first openings m) :
    Value.BoundByLoops (Opening.loops openings) m.state.loopBinding := by
  refine (steady_loopBinding config).opens hloader (hfirst.holds hloader hown)
    (R := fun openings found => Value.BoundByLoops (Opening.loops openings) found)
    ?_ (fun {openings opening m m'} hm ih hnests => ?_) h
  · rw [hfirst.loopBinding hloader hown, hscope]
    exact .outside
  · cases hnests with
    | @iteration depth _ c _ iterable binding body s v t context u hloop hrun _ hi =>
      have hoperand : t.loopBinding = s.loopBinding :=
        (((steady_loopBinding config).eval iterable depth).at s).of_run hrun
      exact boundByLoops_iterates (Stmt.SparesLoop.target hm.task.1 hloop) (hoperand ▸ ih) hi
    | escaping => exact ih
    | enters hfetch hstart =>
      rw [hfetch.loopBinding_starts hloader hm hstart]
      exact ih

end

variable (config) in
/-- What the loop variable is at a moment of a run, and what follows for the steps
that inherit a scope or give one back. -/
structure LoopLaw (first m : Moment) : Prop where
  /-- It can be told what is open. -/
  counted : ∃ openings, Opens config first openings m
  outside : ∀ {openings}, Opens config first openings m → Opening.loops openings = [] →
    m.state.scope.lookup loopVariable = .undefined loopVariable
  /-- Inside of a loop the variable shows the innermost loop, its parent the loop
  around that one, and so on to the outermost one, which has no parent. -/
  inside : ∀ {openings position outer}, Opens config first openings m →
    Opening.loops openings = position :: outer →
    ∃ id context, m.state.scope.lookup loopVariable = .loop id context ∧
      (Value.loop id context).ShowsLoops (position :: outer)
  /-- An iteration is opened at the position of its element, with the length of its
  loop.  It begins in the scope in which the loop began, with the parts of that
  element bound to the targets, and the variable is the context that its code is
  given. -/
  iteration : ∀ {loop c rest iterable binding body v t context u},
    m.task = .code loop (c :: rest) → c.loop? = some (iterable, binding, body) →
    iterable.eval config (invoke config m.depth) m.state = (.done v, t) →
    Render.Iterates config v binding (fun context =>
      asIteration (Stmt.execAll config (invoke config m.depth) (some context) body)) t context u →
    ∃ items k item values id, Iteration.itemsOf v = .ok items ∧ items[k]? = some item ∧
      context.position = ⟨k, items.length⟩ ∧
      (binding.unpack config.unpacking item).toExcept = .ok values ∧
      u.scope = t.scope.bind ((loopVariable, .loop id context) :: binding.names.zip values) ∧
      u.scope.lookup loopVariable = .loop id context
  /-- Whatever else begins sees the same loops: a frame, a branch, the other body of
  a loop, a captured part, a definition of a block, another template. -/
  inherits : ∀ {o m'}, Nests config m o m' → (∀ position, o ≠ some (.iteration position)) →
    m'.state.scope.lookup loopVariable = m.state.scope.lookup loopVariable
  /-- When a statement ends, and be it with an error, the variable is what it
  was. -/
  statement : ∀ {loop c rest}, m.task = .code loop (c :: rest) →
    (c.exec config (invoke config m.depth) loop m.state).2.scope.lookup loopVariable =
      m.state.scope.lookup loopVariable

end Moment

/-- At every moment of every run in which the loop variable is bound by loops
alone, it shows the loops that are open. -/
theorem loopLaw {config : Config} {own : Session} {scope : Scope} {first m : Moment}
    (hloader : ∀ name t, config.loader name = .ok t → Vocabulary.sparingLoop.Template t)
    (hown : own.Made config .sparingLoop) (hscope : scope.get? loopVariable = none)
    (hfirst : Moment.Begins config .sparingLoop own scope first)
    (hm : Moment.Later config first m) : Moment.LoopLaw config first m := by
  have hsteady := steady_loopBinding config
  obtain ⟨_, hopened⟩ := hm.opens
  have hkeeps := hopened.holds hloader (hfirst.holds hloader hown)
  have hbound {openings : List Opening} (h : Moment.Opens config first openings m) :=
    h.boundByLoops hloader hown hscope hfirst
  have hlookup_of {s : State} {found : Option Value} (h : s.loopBinding = found) :
      s.scope.lookup loopVariable = found.getD (.undefined loopVariable) :=
    congrArg (fun found : Option Value => found.getD (.undefined loopVariable)) h
  have hlookup {s t : State} (h : t.loopBinding = s.loopBinding) :
      t.scope.lookup loopVariable = s.scope.lookup loopVariable := hlookup_of h
  refine {
    counted := hm.opens
    outside := fun h hnone => ?outside
    inside := fun h hloops => ?inside
    iteration := fun {_ _ _ iterable _ _ _ _ _ _} htask hloop hrun hi => ?iteration
    inherits := fun {o m'} hnests hother => ?inherits
    statement := fun {loop c rest} htask => ?statement }
  case outside =>
    have hshown := hbound h
    rw [hnone] at hshown
    exact hlookup_of hshown.eq_none
  case inside =>
    have hshown := hbound h
    rw [hloops] at hshown
    obtain ⟨id, context, hfound, houter, rfl⟩ := hshown.eq_some
    exact ⟨id, context, hlookup_of hfound, .loop houter⟩
  case iteration =>
    have hcode := hkeeps.task
    rw [htask] at hcode
    obtain ⟨_, _, items, k, item, values, id, -, hitems, hitem, rfl, hvalues, hscope⟩ := hi.begun
    refine ⟨items, k, item, values, id, hitems, hitem, LoopContext.position_ofPosition ..,
      hvalues, hscope, ?_⟩
    have hbinding := Stmt.SparesLoop.target hcode.1 hloop
    rw [hscope, Scope.lookup, get?_loopVariable_iteration hbinding]
    rfl
  case inherits =>
    cases o with
    | none => exact hlookup (hsteady.nests hloader hkeeps hnests)
    | some opening =>
      cases hnests with
      | iteration => exact absurd rfl (hother _)
      | escaping => rfl
      | enters hfetch hstart => exact hlookup (hfetch.loopBinding_starts hloader hkeeps hstart)
  case statement =>
    have hcode := hkeeps.task
    rw [htask] at hcode
    exact hlookup (hsteady.exec hcode.1 m.depth loop m.state hkeeps.state)

/-! ## A loop in a template that a loop includes -/

namespace Grid

/-- A row writes something for each of its cells. -/
def row : Template :=
  Template.build "row" (some [.forEach (.var "cells") (.name "cell") [.write "."] none]) none []

/-- A grid includes the row once for each number. -/
def grid : Template :=
  Template.build "grid"
    (some [.forEach (.var "rows") (.name "number") [.includeTemplate "row" false] none]) none []

def config : Config := { Config.basic with loader := fun _ => .ok row }

def context : Context :=
  Table.ofList [("rows", .list [.text "1"]), ("cells", .list [.text "a", .text "b"])]

def own : Session := Session.start config (some "grid")

/-- The root of the grid starts. -/
def starts : Moment :=
  ⟨2, .code none grid.root, .begin config grid context (.stream none) (some own) (World.begin 0)⟩

/-- The only iteration of the grid. -/
def number : LoopContext := ⟨⟨0, 1⟩, []⟩

def inGrid : Moment :=
  ⟨2, .code (some number) [.includeTemplate "row" false],
    (Render.beginIteration starts.state.scope (.name "number") number [.text "1"]
      starts.state.enterFrame).2⟩

/-- The root of the row starts. -/
def included : Moment :=
  ⟨1, .code none row.root,
    (Render.getTemplate config "row" inGrid.state).2.beginFetched config "row" .including⟩

/-- The row's copy of the context around it is the instance that was free then. -/
def enclosing : InstanceId × LoopContext := (included.state.world.nextInstance, number)

/-- The state in which the loop of the row begins. -/
def copied : State := (Render.copyEnclosing included.state).2

/-- The state in which an iteration of the row begins. -/
def visiting (index0 : Nat) (cell : String) (s : State) : State :=
  (Render.beginIteration copied.scope (.name "cell") (.ofPosition index0 2 (some enclosing))
    [.text cell] s).2

/-- The state in which the first iteration of the row ends. -/
def between : State :=
  (Stmt.execAll config (invoke config 1) (some (.ofPosition 0 2 (some enclosing))) [.write "."]
    (visiting 0 "a" copied.enterFrame)).2

/-- The second iteration of the row. -/
def inRow : Moment :=
  ⟨1, .code (some (.ofPosition 1 2 (some enclosing))) [.write "."], visiting 1 "b" between⟩

theorem sparingLoop_row : Vocabulary.sparingLoop.Template row where
  root := ⟨⟨⟨by decide, by decide⟩, trivial, trivial, trivial⟩, trivial⟩
  setup _ hsetup := by cases hsetup
  blocks _ hentry := by cases hentry

theorem sparingLoop_grid : Vocabulary.sparingLoop.Template grid where
  root := ⟨⟨⟨by decide, by decide⟩, trivial, trivial, trivial⟩, trivial⟩
  setup _ hsetup := by cases hsetup
  blocks _ hentry := by cases hentry

theorem begins_starts : Moment.Begins config .sparingLoop own (.root context) starts :=
  .template sparingLoop_grid (.root rfl)

theorem iterates_row :
    Render.Iterates config (.list [.text "a", .text "b"]) (.name "cell") (fun context =>
      asIteration (Stmt.execAll config (invoke config 1) (some context) [.write "."]))
      included.state (.ofPosition 1 2 (some enclosing)) inRow.state :=
  ⟨some enclosing, copied, [.text "a", .text "b"], rfl, rfl,
    .later rfl (t := visiting 0 "a" copied.enterFrame) (u := between) rfl rfl (.here rfl rfl)⟩

/-- Both loops are open, the row's as the inner one. -/
theorem opens_inRow :
    Moment.Opens config starts [.iteration ⟨1, 2⟩, .template "row", .iteration ⟨0, 1⟩] inRow := by
  have hgrid : Moment.Opens config starts [.iteration ⟨0, 1⟩] inGrid :=
    .into .begin (.iteration rfl rfl rfl ⟨none, starts.state, [.text "1"], rfl, rfl, .here rfl rfl⟩)
  have hfetch : Moment.Fetches config inGrid .including "row" row
      (Render.getTemplate config "row" inGrid.state).2 := .including rfl
  have hincluded : Moment.Opens config starts [.template "row", .iteration ⟨0, 1⟩] included :=
    hgrid.into (.enters hfetch (.root rfl))
  exact hincluded.into (.iteration rfl rfl rfl iterates_row)

/-- In the row the variable shows the loop of the grid around that of the row. -/
theorem loopLaw_inRow :
    Moment.LoopLaw config starts inRow ∧
      ∃ id context, inRow.state.scope.lookup loopVariable = .loop id context ∧
        (Value.loop id context).ShowsLoops [⟨1, 2⟩, ⟨0, 1⟩] := by
  have hloader (name : String) (t : Template) (ht : config.loader name = .ok t) :
      Vocabulary.sparingLoop.Template t := by
    cases ht
    exact sparingLoop_row
  have hown : own.Made config .sparingLoop := .started (some "grid")
  have hlaw := loopLaw hloader hown (by decide) begins_starts opens_inRow.later
  exact ⟨hlaw, hlaw.inside opens_inRow rfl⟩

end Grid

end Templating
