import Templating.Proofs.Isolation
import Templating.Proofs.LoopProtocol
import Templating.Proofs.LoopStack
import Templating.Proofs.TakingApart

/-!
# Assignments bind like loops

A value can be taken apart by an assignment and by a loop over the one value.  The
two bind the names differently: the assignment one after another, each in a node of
its own, and the loop all at once, in one node that holds the context of the loop as
well.  What can be looked up afterwards is the same (`AssignmentLaw`).  A name that
occurs several times has the value of its last occurrence either way, because later
nodes hide earlier ones and later entries of a node replace earlier ones; the same
makes a target that is called like the loop variable hide the context.

An assignment is all or nothing.  The value is taken apart before the first name is
bound, and binding does not fail; so an assignment that fails has changed nothing,
and it fails just where the loop would fail before its body.
-/
namespace Templating

/-! ## Names with their values -/

section
variable {names : List String} {values : List Value} {x : String}

/-- Names that do not occur find nothing. -/
theorem lookup_zip_of_not_mem (h : x ∉ names) (values : List Value) :
    (names.zip values).reverse.lookup x = none := by
  rw [Table.lookup_reverse_eq_none_iff]
  intro hmem
  obtain ⟨⟨name, v⟩, hentry, rfl⟩ := List.mem_map.mp hmem
  exact h (List.of_mem_zip hentry).1

/-- The value found last is that of the last occurrence. -/
theorem lookup_zip_of_last : ∀ {names : List String} {values : List Value} {k : Nat},
    values.length = names.length → names[k]? = some x → x ∉ names.drop (k + 1) →
    ∃ v, values[k]? = some v ∧ (names.zip values).reverse.lookup x = some v
  | [], _, _, _, hname, _ => nomatch hname
  | name :: names, [], _, hlength, _, _ => nomatch hlength
  | name :: names, v :: values, 0, _, hname, hlast => by
    cases hname
    have hrest : x ∉ names := hlast
    refine ⟨v, rfl, ?_⟩
    rw [List.zip_cons_cons, List.reverse_cons, List.lookup_append,
      lookup_zip_of_not_mem hrest values, Option.none_or]
    exact List.lookup_cons_self
  | name :: names, v :: values, k + 1, hlength, hname, hlast => by
    obtain ⟨w, hw, hfound⟩ := lookup_zip_of_last (Nat.succ.inj hlength) hname hlast
    refine ⟨w, hw, ?_⟩
    rw [List.zip_cons_cons, List.reverse_cons, List.lookup_append, hfound, Option.some_or]

/-- A name that occurs at all has a last occurrence. -/
theorem exists_last_of_mem : ∀ {names : List String}, x ∈ names →
    ∃ k, names[k]? = some x ∧ x ∉ names.drop (k + 1)
  | [], h => nomatch h
  | name :: names, h => by
    by_cases hlater : x ∈ names
    · obtain ⟨k, hname, hlast⟩ := exists_last_of_mem hlater
      exact ⟨k + 1, hname, hlast⟩
    · have heq : x = name := (List.mem_cons.mp h).resolve_right hlater
      exact ⟨0, congrArg some heq.symm, hlater⟩

theorem lookup_zip_of_mem (hlength : values.length = names.length) (h : x ∈ names) :
    ∃ v, (names.zip values).reverse.lookup x = some v := by
  obtain ⟨k, hname, hlast⟩ := exists_last_of_mem h
  obtain ⟨v, -, hfound⟩ := lookup_zip_of_last hlength hname hlast
  exact ⟨v, hfound⟩

end

/-! ## Binding one after another -/

/-- Nodes on top of each other bind what one node would that holds all their names. -/
theorem get?_assignAll : ∀ (bindings : List (String × Value)) (s : State) (x : String),
    (Render.assignAll bindings s).2.scope.get? x = (s.scope.bind bindings).get? x
  | [], _, _ => rfl
  | (name, v) :: rest, s, x => by
    have hrest : (Render.assignAll ((name, v) :: rest) s).2.scope.get? x =
        ((s.assign name v).scope.bind rest).get? x := get?_assignAll rest (s.assign name v) x
    rw [hrest]
    exact (s.scope.get?_bind_append [(name, v)] rest x).symm

theorem lookup_assignAll (bindings : List (String × Value)) (s : State) (x : String) :
    (Render.assignAll bindings s).2.scope.lookup x =
      ((bindings.reverse.lookup x).or (s.scope.get? x)).getD (.undefined x) := by
  rw [Scope.lookup, get?_assignAll, Scope.get?_bind, Table.get?_ofList]

theorem Session.exports_exportAll_eq : ∀ (bindings : List (String × Value)) (s : Session),
    (s.exportAll bindings).exports = s.exports.insertAll bindings
  | [], _ => rfl
  | (name, v) :: rest, s => Session.exports_exportAll_eq rest (s.exportVar name v)

/-- The node of an iteration shows its targets, the last of a name before the others,
then the context, and then what is around it. -/
theorem get?_iterationNode (scope : Scope) (context : Value) (names : List String)
    (values : List Value) (x : String) :
    (scope.bind ((loopVariable, context) :: names.zip values)).get? x =
      ((names.zip values).reverse.lookup x).or
        (if x = loopVariable then some context else scope.get? x) := by
  rw [Scope.get?_bind, Table.get?_ofList, List.reverse_cons, List.lookup_append, Option.or_assoc,
    Table.lookup_cons_ite]
  split <;> rfl

/-- The node of an iteration shows what the targets alone would show, but for the
context of the loop. -/
theorem get?_iteration {names : List String} {values : List Value} {x : String} (scope : Scope)
    (context : Value) (hlength : values.length = names.length)
    (hx : x = loopVariable → loopVariable ∈ names) :
    (scope.bind ((loopVariable, context) :: names.zip values)).get? x =
      (scope.bind (names.zip values)).get? x := by
  rw [get?_iterationNode, Scope.get?_bind, Table.get?_ofList]
  by_cases hmem : x ∈ names
  · obtain ⟨v, hfound⟩ := lookup_zip_of_mem hlength hmem
    rw [hfound, Option.some_or, Option.some_or]
  · have hne : x ≠ loopVariable := fun heq => hmem (heq ▸ hx heq)
    rw [if_neg hne]

/-! ## The two ways -/

section
variable {config : Config} {binding : Binding} {v : Value} {s t : State} {values : List Value}
variable {body : LoopContext → Render LoopStep} {context : LoopContext} {error : RenderError}

/-- An assignment takes its value apart and binds the parts, or it does nothing. -/
theorem assignBinding_cases (config : Config) (binding : Binding) (v : Value) (s : State) :
    (∃ values, (binding.unpack config.unpacking v).toExcept = .ok values ∧
      Render.assignBinding config binding v s =
        (.done (), (Render.assignAll (binding.names.zip values) s).2)) ∨
    ∃ error, (binding.unpack config.unpacking v).toExcept = .error error ∧
      Render.assignBinding config binding v s = (.failed error, s) := by
  rw [Render.assignBinding]
  cases hvalues : (binding.unpack config.unpacking v).toExcept with
  | ok values => exact .inl ⟨values, rfl, Prod.ext (assignAll_session _ s).1 rfl⟩
  | error error => exact .inr ⟨error, rfl, rfl⟩

/-- An assignment that was made has taken its value apart. -/
theorem exists_values_of_assignBinding
    (h : Render.assignBinding config binding v s = (.done (), t)) :
    ∃ values, (binding.unpack config.unpacking v).toExcept = .ok values ∧
      t = (Render.assignAll (binding.names.zip values) s).2 := by
  rcases assignBinding_cases config binding v s with ⟨values, hvalues, hrun⟩ | ⟨error, -, hrun⟩
  · cases hrun.symm.trans h
    exact ⟨values, hvalues, rfl⟩
  · cases hrun.symm.trans h

/-- The iteration of a loop over one value begins with the parts of that value. -/
theorem Render.Iterates.of_singleton
    (h : Render.Iterates config (.list [v]) binding body s context t) :
    ∃ id values, (binding.unpack config.unpacking v).toExcept = .ok values ∧
      t.scope = s.scope.bind ((loopVariable, .loop id context) :: binding.names.zip values) := by
  obtain ⟨parent, u, items, k, item, values, id, -, hitems, hitem, -, hvalues, hscope⟩ := h.begun
  cases hitems
  cases k with
  | zero =>
    cases hitem
    exact ⟨id, values, hvalues, hscope⟩
  | succ k => cases hitem

/-- A run over one element is its one call. -/
theorem run_singleton {σ : Type} {unpacking : Unpacking}
    (h : (binding.unpack unpacking v).toExcept = .ok values)
    (parent : Option (InstanceId × LoopContext))
    (body : LoopContext → List Value → Action σ LoopStep) (s : σ) :
    Iteration.run [v] parent unpacking binding body s =
      ((body (.ofPosition 0 1 parent) values s).1.map fun _ => 1,
        (body (.ofPosition 0 1 parent) values s).2) := by
  have hcall : Iteration.run [v] parent unpacking binding body s = _ :=
    Iteration.visitFrom_of_ok h
  have hcontext : Iteration.contextAt ⟨[v].length, parent, unpacking⟩ 0 = .ofPosition 0 1 parent :=
    rfl
  rw [hcall, hcontext]
  rcases body (.ofPosition 0 1 parent) values s with ⟨(_ | _) | _ | _, t⟩ <;> rfl

/-- It begins in a state that does not depend on the body, and the loop does what the body
does there. -/
theorem exists_iterates (binding : Binding) (s : State)
    (h : (binding.unpack config.unpacking v).toExcept = .ok values) :
    ∃ context t, ∀ body, Render.Iterates config (.list [v]) binding body s context t ∧
      Render.forLoop config (.list [v]) binding body s =
        ((body context t).1.map fun _ => true, s.leaveFrame (body context t).2) := by
  have hitems : (Value.list [v]).Normalizes [v] := .sequence rfl
  obtain ⟨parent, next, hparent, -⟩ := Render.copyEnclosing_done s
  obtain ⟨begun, hbegun⟩ : ∃ begun, Render.beginIteration s.scope binding
      (.ofPosition 0 1 parent) values (s.withNextInstance next).enterFrame = (.done (), begun) :=
    ⟨_, rfl⟩
  refine ⟨.ofPosition 0 1 parent, begun, fun body =>
    ⟨⟨parent, _, [v], hparent, rfl, .here h hbegun⟩, ?_⟩⟩
  rcases hbody : body (.ofPosition 0 1 parent) begun with ⟨outcome, t⟩
  have hcall : Render.iteration s.scope binding body (.ofPosition 0 1 parent) values
      (s.withNextInstance next).enterFrame = (outcome, t) := by
    rw [Render.iteration, Action.bind_of_done hbegun, hbody]
  have hrun : Render.withFrame (Iteration.run [v] parent config.unpacking binding
      (Render.iteration s.scope binding body)) (s.withNextInstance next) =
        (outcome.map fun _ => 1, s.leaveFrame t) := by
    rw [Render.withFrame, Action.bracket_apply, run_singleton h, hcall]
    rfl
  rw [Render.forLoop_of_normalizes binding body hitems nofun hparent]
  cases outcome with
  | done step => exact Action.bind_of_done hrun
  | failed error => exact Action.bind_of_failed hrun
  | unfinished => exact Action.bind_of_unfinished hrun

/-- A value that cannot be taken apart ends the loop before its body. -/
theorem forLoop_singleton_of_error
    (h : (binding.unpack config.unpacking v).toExcept = .error error) :
    (Render.forLoop config (.list [v]) binding body s).1 = .failed error := by
  have hitems : (Value.list [v]).Normalizes [v] := .sequence rfl
  obtain ⟨parent, next, hparent, -⟩ := Render.copyEnclosing_done s
  rw [Render.forLoop_of_normalizes binding body hitems nofun hparent]
  have hrun (scope : Scope) (u : State) : Render.withFrame (Iteration.run [v] parent
      config.unpacking binding (Render.iteration scope binding body)) u =
        (.failed error, u.leaveFrame u.enterFrame) := by
    have helement : Iteration.run [v] parent config.unpacking binding
        (Render.iteration scope binding body) u.enterFrame = (.failed error, u.enterFrame) :=
      Iteration.visitFrom_of_error h
    rw [Render.withFrame, Action.bracket_apply, helement]
  rw [Action.bind_of_failed (hrun _ _)]

/-- What an assignment has bound, at the top level it has exported. -/
theorem exports_assignAll {bindings : List (String × Value)} (htop : s.isTopLevel = true)
    (x : String) : (Render.assignAll bindings s).2.session.exports.get? x =
      (bindings.reverse.lookup x).or (s.session.exports.get? x) := by
  rw [(assignAll_session bindings s).2, if_pos htop, Session.exports_exportAll_eq,
    Table.get?_insertAll]

end

/-! ## The law -/

/-- What an assignment does to the names of its binding, compared with a loop over the
one value. -/
structure AssignmentLaw (config : Config) (binding : Binding) (v : Value) (s : State) : Prop where
  /-- It ends, and if it fails then nothing has changed. -/
  ends : ∀ t, Render.assignBinding config binding v s ≠ (.unfinished, t)
  atomic : ∀ error t, Render.assignBinding config binding v s = (.failed error, t) → t = s
  /-- It fails exactly if the loop does before its body begins, and with that error. -/
  fails_iff : ∀ error body, (Render.assignBinding config binding v s).1 = .failed error ↔
    (Render.forLoop config (.list [v]) binding body s).1 = .failed error ∧
      ∀ context u, ¬ Render.Iterates config (.list [v]) binding body s context u
  /-- Otherwise the loop comes to its body in a state that does not depend on it, and does
  what the body does there. -/
  begins : ∀ t, Render.assignBinding config binding v s = (.done (), t) →
    ∃ context u, ∀ body, Render.Iterates config (.list [v]) binding body s context u ∧
      Render.forLoop config (.list [v]) binding body s =
        ((body context u).1.map fun _ => true, s.leaveFrame (body context u).2)
  /-- Where the body begins, every name shows what it shows after the assignment, except
  for the loop variable if it is no target. -/
  agrees : ∀ t body context u, Render.assignBinding config binding v s = (.done (), t) →
    Render.Iterates config (.list [v]) binding body s context u →
    ∀ x, (x = loopVariable → loopVariable ∈ binding.names) →
      t.scope.lookup x = u.scope.lookup x
  /-- It shows the part taken out for its last occurrence. -/
  last : ∀ t, Render.assignBinding config binding v s = (.done (), t) →
    ∃ values, (binding.unpack config.unpacking v).toExcept = .ok values ∧
      ∀ k x, binding.names[k]? = some x → x ∉ binding.names.drop (k + 1) →
        values[k]? = some (t.scope.lookup x)
  /-- A name that does not occur shows what it showed before. -/
  others : ∀ t, Render.assignBinding config binding v s = (.done (), t) →
    ∀ x, x ∉ binding.names → t.scope.lookup x = s.scope.lookup x
  /-- At the top level the names are exported with what they show, and no other names. -/
  exported : ∀ t, Render.assignBinding config binding v s = (.done (), t) →
    s.isTopLevel = true → ∀ x,
      (x ∈ binding.names → t.session.exports.get? x = some (t.scope.lookup x)) ∧
      (x ∉ binding.names → t.session.exports.get? x = s.session.exports.get? x)
  /-- Elsewhere nothing is. -/
  unexported : ∀ t, Render.assignBinding config binding v s = (.done (), t) →
    s.isTopLevel = false → t.session = s.session

/-- Assignments are all or nothing and bind like loops. -/
theorem assignmentLaw (config : Config) (binding : Binding) (v : Value) (s : State) :
    AssignmentLaw config binding v s where
  ends t h := by
    rcases assignBinding_cases config binding v s with ⟨values, -, hrun⟩ | ⟨error, -, hrun⟩
    · cases hrun.symm.trans h
    · cases hrun.symm.trans h
  atomic error t h := by
    rcases assignBinding_cases config binding v s with ⟨values, -, hrun⟩ | ⟨other, -, hrun⟩
    · cases hrun.symm.trans h
    · cases hrun.symm.trans h
      rfl
  fails_iff error body := by
    rcases assignBinding_cases config binding v s with
      ⟨values, hvalues, hrun⟩ | ⟨other, hvalues, hrun⟩
    · rw [hrun]
      obtain ⟨context, t, hbegins⟩ := exists_iterates binding s hvalues
      exact ⟨nofun, fun h => absurd (hbegins body).1 (h.2 context t)⟩
    · rw [hrun, forLoop_singleton_of_error hvalues]
      constructor
      · rintro ⟨⟩
        refine ⟨rfl, fun context t hbegins => ?_⟩
        obtain ⟨id, values, hok, -⟩ := hbegins.of_singleton
        cases hvalues.symm.trans hok
      · rintro ⟨⟨⟩, -⟩
        rfl
  begins t h := by
    obtain ⟨values, hvalues, -⟩ := exists_values_of_assignBinding h
    exact exists_iterates binding s hvalues
  agrees t body context u h hbegins x hx := by
    obtain ⟨values, hvalues, rfl⟩ := exists_values_of_assignBinding h
    obtain ⟨id, found, hfound, hscope⟩ := hbegins.of_singleton
    cases hvalues.symm.trans hfound
    rw [Scope.lookup, Scope.lookup, hscope, get?_assignAll,
      get?_iteration s.scope _ (length_of_unpack hvalues) hx]
  last t h := by
    obtain ⟨values, hvalues, rfl⟩ := exists_values_of_assignBinding h
    refine ⟨values, hvalues, fun k x hname hlast => ?_⟩
    obtain ⟨w, hw, hfound⟩ := lookup_zip_of_last (length_of_unpack hvalues) hname hlast
    rw [lookup_assignAll, hfound, hw]
    rfl
  others t h x hx := by
    obtain ⟨values, -, rfl⟩ := exists_values_of_assignBinding h
    rw [lookup_assignAll, lookup_zip_of_not_mem hx values]
    rfl
  exported t h htop x := by
    obtain ⟨values, hvalues, rfl⟩ := exists_values_of_assignBinding h
    rw [exports_assignAll htop, lookup_assignAll]
    constructor
    · intro hx
      obtain ⟨w, hw⟩ := lookup_zip_of_mem (length_of_unpack hvalues) hx
      rw [hw]
      rfl
    · intro hx
      rw [lookup_zip_of_not_mem hx values, Option.none_or]
  unexported t h htop := by
    obtain ⟨values, -, rfl⟩ := exists_values_of_assignBinding h
    rw [(assignAll_session _ s).2, htop]
    rfl

end Templating
