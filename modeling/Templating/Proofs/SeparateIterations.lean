import Templating.Proofs.Destructuring

/-!
# Iterations do not see each other

A body may do anything to the scope that it runs in.  It does not matter to the
iterations after it: each begins in the scope in which the loop began, with one new
node on top, which holds the loop's context and the parts of the element
(`Render.Iterates.begun`).  So what an iteration finds at its beginning is told by
the scope of the loop, by the context and by the element, and two loops that agree on
these find the same, whatever their bodies did before
(`Render.Iterates.get?_congr`).  Nor does anything remain when the loop is over: it
gives the scope back.

The iterations that a loop comes to are the calls that it makes of its body, as the
loop protocol observes them (`Render.iterates_iff`).
-/
namespace Templating

/-! ## Iterations and calls -/

namespace Iteration

section
variable {σ : Type} {it : Iteration} {binding : Binding} {index0 : Nat} {item : Value}
variable {rest items : List Value} {values : List Value} {s t : σ} {step : Outcome LoopStep}
variable {body : LoopContext → List Value → Action σ LoopStep}

/-- The calls that are made from the element at `index0` on. -/
def callsFrom (it : Iteration) (binding : Binding)
    (body : LoopContext → List Value → Action σ LoopStep) (index0 : Nat) (items : List Value)
    (s : σ) : List (LoopCall σ) :=
  (it.visitFrom binding (noting body) index0 items (s, [])).2.2

theorem callsFrom_of_error {error : RenderError}
    (hvalues : (binding.unpack it.unpacking item).toExcept = .error error) :
    it.callsFrom binding body index0 (item :: rest) s = [] := by
  rw [callsFrom, visitFrom_of_error hvalues]

/-- The first call, and those that follow if it goes on. -/
theorem callsFrom_of_ok (hlength : index0 + (item :: rest).length ≤ it.length)
    (hvalues : (binding.unpack it.unpacking item).toExcept = .ok values)
    (hcall : body (it.contextAt index0) values s = (step, t)) :
    it.callsFrom binding body index0 (item :: rest) s =
      ⟨it.contextAt index0, values, s, step, t⟩ ::
        match step with
        | .done .goOn => it.callsFrom binding body (index0 + 1) rest t
        | _ => [] := by
  rw [callsFrom, visitFrom_of_ok hvalues, noting_of_call hcall]
  rcases step with (_ | _) | _ | _ <;> try rfl
  -- What was noted before the rest stands in front of the notes of the rest.
  rw [List.length_cons, ← Nat.add_assoc, Nat.add_right_comm] at hlength
  obtain ⟨calls, -, hnotes⟩ := @transcript_visitFrom σ it binding body rest (index0 + 1) t hlength
  simp only [callsFrom, hnotes, List.nil_append, List.singleton_append]

end

section
variable {it : Iteration} {binding : Binding} {scope : Scope}
variable {body : LoopContext → Render LoopStep} {context : LoopContext} {index0 : Nat}
variable {item : Value} {rest values : List Value} {s t u w : State} {step : Outcome LoopStep}

/-- An element that cannot be taken apart has no iteration, nor has any after it. -/
theorem not_visits_of_error {error : RenderError}
    (hvalues : (binding.unpack it.unpacking item).toExcept = .error error) :
    ¬ it.Visits binding scope body index0 (item :: rest) s context t := by
  intro h
  cases h with
  | here hok _ => cases hvalues.symm.trans hok
  | later hok _ _ _ => cases hvalues.symm.trans hok

/-- Any other element has its own iteration, and after it those of the rest if the body
lets the loop go on. -/
theorem visits_iff_of_ok (hvalues : (binding.unpack it.unpacking item).toExcept = .ok values)
    (hbegin : Render.beginIteration scope binding (it.contextAt index0) values s = (.done (), u))
    (hbody : body (it.contextAt index0) u = (step, w)) :
    it.Visits binding scope body index0 (item :: rest) s context t ↔
      (it.contextAt index0 = context ∧ u = t) ∨
        (step = .done .goOn ∧ it.Visits binding scope body (index0 + 1) rest w context t) := by
  constructor
  · intro h
    cases h with
    | here hok hbegun =>
      cases hvalues.symm.trans hok
      cases hbegin.symm.trans hbegun
      exact .inl ⟨rfl, rfl⟩
    | later hok hbegun hgo hlater =>
      cases hvalues.symm.trans hok
      cases hbegin.symm.trans hbegun
      cases hbody.symm.trans hgo
      exact .inr ⟨rfl, hlater⟩
  · rintro (⟨rfl, rfl⟩ | ⟨rfl, hlater⟩)
    · exact .here hvalues hbegin
    · exact .later hvalues hbegin hbody hlater

end

/-- A loop in a template comes to an iteration exactly where it calls its body. -/
theorem visits_iff {it : Iteration} {binding : Binding} {scope : Scope}
    {body : LoopContext → Render LoopStep} {context : LoopContext} {t : State} :
    ∀ {items : List Value} {index0 : Nat} {s : State}, index0 + items.length ≤ it.length →
      (it.Visits binding scope body index0 items s context t ↔
        ∃ call ∈ it.callsFrom binding (Render.iteration scope binding body) index0 items s,
          call.context = context ∧
            Render.beginIteration scope binding context call.values call.begun = (.done (), t))
  | [], index0, s, _ => by
    constructor
    · exact nofun
    · rintro ⟨call, hcall, -⟩
      exact absurd hcall List.not_mem_nil
  | item :: rest, index0, s, hlength => by
    cases hvalues : (binding.unpack it.unpacking item).toExcept with
    | error error =>
      rw [callsFrom_of_error hvalues]
      exact iff_of_false (not_visits_of_error hvalues) fun ⟨_, hcall, _⟩ =>
        absurd hcall List.not_mem_nil
    | ok values =>
      have hrest : index0 + 1 + rest.length ≤ it.length := by
        rw [List.length_cons] at hlength
        omega
      obtain ⟨u, hbegin⟩ : ∃ u, Render.beginIteration scope binding (it.contextAt index0) values s =
          (.done (), u) := ⟨_, rfl⟩
      rcases hbody : body (it.contextAt index0) u with ⟨step, w⟩
      have hcall : Render.iteration scope binding body (it.contextAt index0) values s =
          (step, w) := by
        rw [Render.iteration, Action.bind_of_done hbegin, hbody]
      rw [callsFrom_of_ok hlength hvalues hcall, visits_iff_of_ok hvalues hbegin hbody]
      -- The call in front is the iteration of the element, the others are those of the rest.
      simp only [List.mem_cons, or_and_right, exists_or, exists_eq_left]
      refine or_congr ?_ ?_
      · refine and_congr_right fun hcontext => ?_
        rw [← hcontext, hbegin, Prod.mk.injEq, eq_self, true_and]
      · rcases step with (_ | _) | _ | _
        · exact (and_iff_right rfl).trans (visits_iff hrest)
        all_goals simp

end Iteration

namespace Render

variable {config : Config} {v : Value} {binding : Binding} {body : LoopContext → Render LoopStep}
variable {s t : State} {context : LoopContext}

/-- The iterations that a loop comes to are the calls of its run. -/
theorem iterates_iff : Iterates config v binding body s context t ↔
    ∃ parent u items, copyEnclosing s = (.done parent, u) ∧ Iteration.itemsOf v = .ok items ∧
      ∃ call ∈ Iteration.calls items parent config.unpacking binding
          (iteration u.scope binding body) u.enterFrame,
        call.context = context ∧
          beginIteration u.scope binding context call.values call.begun = (.done (), t) := by
  unfold Iterates
  refine exists_congr fun parent => exists_congr fun u => exists_congr fun items => ?_
  refine and_congr_right fun _ => and_congr_right fun _ => ?_
  exact Iteration.visits_iff (Nat.le_of_eq (Nat.zero_add _))

end Render

/-! ## What an iteration finds -/

namespace Render

section
variable {config : Config} {v w : Value} {binding : Binding}
variable {body body' : LoopContext → Render LoopStep} {s s' t t' : State} {context : LoopContext}

/-- An iteration begins on top of the scope of its loop, with the element that stands
where the context says. -/
theorem Iterates.begins (h : Iterates config v binding body s context t) :
    ∃ parent u items item values id, copyEnclosing s = (.done parent, u) ∧
      Iteration.itemsOf v = .ok items ∧ items[context.index0]? = some item ∧
      context = .ofPosition context.index0 items.length parent ∧
      (binding.unpack config.unpacking item).toExcept = .ok values ∧
      t.scope = s.scope.bind ((loopVariable, .loop id context) :: binding.names.zip values) := by
  obtain ⟨parent, u, items, k, item, values, id, hparent, hitems, hitem, hcontext, hvalues,
    hscope⟩ := h.begun
  have hk : context.index0 = k := by
    rw [hcontext]
    exact congrArg LoopPosition.index0 (LoopContext.position_ofPosition k items.length parent)
  rw [← hk] at hitem hcontext
  exact ⟨parent, u, items, item, values, id, hparent, hitems, hitem, hcontext, hvalues, hscope⟩

/-- The last target of a name is bound to the part that belongs to it. -/
theorem Iterates.get?_target (h : Iterates config v binding body s context t) {name : String}
    {k : Nat} (hname : binding.names[k]? = some name) (hlast : name ∉ binding.names.drop (k + 1)) :
    ∃ items item values value, Iteration.itemsOf v = .ok items ∧
      items[context.index0]? = some item ∧
      (binding.unpack config.unpacking item).toExcept = .ok values ∧
      values[k]? = some value ∧ t.scope.get? name = some value := by
  obtain ⟨_, _, items, item, values, id, -, hitems, hitem, -, hvalues, hscope⟩ := h.begins
  obtain ⟨value, hvalue, hfound⟩ := lookup_zip_of_last (length_of_unpack hvalues) hname hlast
  refine ⟨items, item, values, value, hitems, hitem, hvalues, hvalue, ?_⟩
  rw [hscope, get?_iterationNode, hfound, Option.some_or]

/-- What is no target is the context, or what the loop found it to be. -/
theorem Iterates.get?_other (h : Iterates config v binding body s context t) {name : String}
    (hname : name ∉ binding.names) :
    ∃ id, t.scope.get? name =
      if name = loopVariable then some (.loop id context) else s.scope.get? name := by
  obtain ⟨_, _, _, _, values, id, -, -, -, -, -, hscope⟩ := h.begins
  refine ⟨id, ?_⟩
  rw [hscope, get?_iterationNode, lookup_zip_of_not_mem hname values, Option.none_or]

/-- Two iterations with the same context and the same element find the same, if their
loops did. -/
theorem Iterates.get?_congr (h : Iterates config v binding body s context t)
    (h' : Iterates config w binding body' s' context t')
    (hscope : ∀ name, s.scope.get? name = s'.scope.get? name)
    (hitems : ∀ items items', Iteration.itemsOf v = .ok items → Iteration.itemsOf w = .ok items' →
      items[context.index0]? = items'[context.index0]?)
    {name : String} (hname : name = loopVariable → loopVariable ∈ binding.names) :
    t.scope.get? name = t'.scope.get? name := by
  obtain ⟨_, _, items, item, values, id, -, hok, hitem, -, hvalues, hbegun⟩ := h.begins
  obtain ⟨_, _, items', item', values', id', -, hok', hitem', -, hvalues', hbegun'⟩ := h'.begins
  have hsame : item = item' := by
    have hget := hitems items items' hok hok'
    rw [hitem, hitem'] at hget
    exact Option.some.inj hget
  subst hsame
  cases hvalues.symm.trans hvalues'
  have hlength := length_of_unpack hvalues
  rw [hbegun, hbegun', get?_iteration _ _ hlength hname, get?_iteration _ _ hlength hname,
    Scope.get?_bind, Scope.get?_bind, hscope]

end

section
variable (config : Config) (v : Value) (binding : Binding) (body : LoopContext → Render LoopStep)

/-- A loop gives the scope back, however it ends. -/
theorem scope_forLoop (s : State) : (forLoop config v binding body s).2.scope = s.scope :=
  (Keeps.forLoop_scope v binding body).apply s

/-- The other body begins where the loop has left off, if it begins at all. -/
theorem forLoopElse_of_false {s t : State} (h : forLoop config v binding body s = (.done false, t))
    (otherwise : Render Unit) :
    forLoopElse config v binding body otherwise s = withFrame otherwise t := by
  rw [forLoopElse, Action.bind_of_done h]
  rfl

end

end Render

/-! ## The law -/

/-- What the iterations of a loop have of each other: nothing. -/
structure SeparateIterations (config : Config) : Prop where
  /-- A loop comes to the iterations for which it calls its body. -/
  reached : ∀ {v binding body s context t}, Render.Iterates config v binding body s context t ↔
    ∃ parent u items, Render.copyEnclosing s = (.done parent, u) ∧
      Iteration.itemsOf v = .ok items ∧
      ∃ call ∈ Iteration.calls items parent config.unpacking binding
          (Render.iteration u.scope binding body) u.enterFrame,
        call.context = context ∧
          Render.beginIteration u.scope binding context call.values call.begun = (.done (), t)
  /-- The body begins in the scope in which the loop began, under one node that binds
  the loop variable to its context and the targets to the parts of its element. -/
  begins : ∀ {v binding body s context t}, Render.Iterates config v binding body s context t →
    ∃ parent u items item values id, Render.copyEnclosing s = (.done parent, u) ∧
      Iteration.itemsOf v = .ok items ∧ items[context.index0]? = some item ∧
      context = .ofPosition context.index0 items.length parent ∧
      (binding.unpack config.unpacking item).toExcept = .ok values ∧
      t.scope = s.scope.bind ((loopVariable, .loop id context) :: binding.names.zip values)
  /-- A target finds its part of the element, also one that is called like the loop
  variable; of several targets of one name the last counts. -/
  target : ∀ {v binding body s context t}, Render.Iterates config v binding body s context t →
    ∀ {name k}, binding.names[k]? = some name → name ∉ binding.names.drop (k + 1) →
      ∃ items item values value, Iteration.itemsOf v = .ok items ∧
        items[context.index0]? = some item ∧
        (binding.unpack config.unpacking item).toExcept = .ok values ∧
        values[k]? = some value ∧ t.scope.get? name = some value
  /-- Any other name finds the context or what it found when the loop began. -/
  other : ∀ {v binding body s context t}, Render.Iterates config v binding body s context t →
    ∀ {name}, name ∉ binding.names → ∃ id, t.scope.get? name =
      if name = loopVariable then some (.loop id context) else s.scope.get? name
  /-- So whatever bodies run and whatever they have done before, two iterations find
  the same under every name if the scopes of their loops do, if they have the same
  context, which tells the position, the length and the loop around it, and if the
  elements at that position are the same.  Only the instance that stands for the
  context is made anew for each. -/
  determined : ∀ {v w binding body body' s s' context t t'},
    Render.Iterates config v binding body s context t →
    Render.Iterates config w binding body' s' context t' →
    (∀ name, s.scope.get? name = s'.scope.get? name) →
    (∀ items items', Iteration.itemsOf v = .ok items → Iteration.itemsOf w = .ok items' →
      items[context.index0]? = items'[context.index0]?) →
    ∀ {name}, (name = loopVariable → loopVariable ∈ binding.names) →
      t.scope.get? name = t'.scope.get? name
  /-- After the loop the scope is what it was before, however the loop ends. -/
  after : ∀ v binding body s, (Render.forLoop config v binding body s).2.scope = s.scope
  /-- The other body is run in that scope, -/
  otherwise : ∀ v binding body otherwise {s t},
    Render.forLoop config v binding body s = (.done false, t) →
      Render.forLoopElse config v binding body otherwise s = Render.withFrame otherwise t ∧
        t.enterFrame.scope = s.scope
  /-- and after it the scope is the same again. -/
  afterOtherwise : ∀ v binding body otherwise s,
    (Render.forLoopElse config v binding body otherwise s).2.scope = s.scope

theorem separateIterations (config : Config) : SeparateIterations config where
  reached := Render.iterates_iff
  begins := Render.Iterates.begins
  target := Render.Iterates.get?_target
  other := Render.Iterates.get?_other
  determined := Render.Iterates.get?_congr
  after := Render.scope_forLoop config
  otherwise v binding body otherwise s t h := by
    refine ⟨Render.forLoopElse_of_false config v binding body h otherwise, ?_⟩
    have hkept := Render.scope_forLoop config v binding body s
    rw [h] at hkept
    exact hkept
  afterOtherwise v binding body otherwise :=
    (Keeps.forLoopElse_scope v binding body otherwise).apply

namespace Rows

/-- A body that shows the target and a name of its own, and then binds both. -/
def body : LoopContext → Render LoopStep := fun _ => do
  let x ← Render.lookup "x"
  let seen ← Render.lookup "seen"
  Render.write x.toText
  Render.write seen.toText
  Render.assign "seen" (.text "!")
  Render.assign "x" (.text "?")
  return .goOn

/-- A render at its beginning, on a page where `x` is bound. -/
def page : State :=
  .start (Session.start Config.basic none) (Scope.ofList [("x", .text "outer")]) (.stream none)
    (World.begin 0)

/-- The second iteration finds its own element and nothing of what the first has bound,
and after the loop nothing of either is left. -/
example :
    let looped := Render.forLoop Config.basic (.list [.text "a", .text "b"]) (.name "x") body page
    looped.2.world.chunks = ["a", "", "b", ""] ∧ looped.2.scope = page.scope := by
  exact ⟨rfl, rfl⟩

end Rows

end Templating
