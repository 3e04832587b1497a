import Templating.Proofs.Lockstep
import Templating.Render.Loop

/-!
# The loop protocol

A loop over `n` elements calls its body at most `n` times, in the order of the
elements, and tells the body where the loop stands.  What the body is called with
is observed by a body that does the same and notes its calls as well
(`Iteration.noting`): these notes are what a run is judged by
(`Iteration.calls`).

The `k`-th call belongs to the `k`-th element.  It is given exactly the values that
were taken out of that element, and a context that stands at position `k` of `n`
(`LoopContext.StandsAt`); since `k < n`, none of its countdowns is cut off at zero.
Each call begins where the one before it ended, and only the last one may have ended
otherwise than by going on (`Iteration.Transcript`).  The run ends with the error of
that call or of the element that could not be taken apart, and else with the number
of the calls (`Iteration.Ends`).

A loop in a template and a loop of the host are such runs, so all three agree on what
a loop is; they differ in what they do with the answer and without elements
(`LoopProtocol`).
-/
namespace Templating

/-! ## What a context tells -/

/-- A context stands at position `k` of a loop over `n` elements: no number that it
tells goes beyond `n`, and no countdown stops short. -/
structure LoopContext.StandsAt (c : LoopContext) (k n : Nat)
    (parent : Option (InstanceId × LoopContext)) : Prop where
  index0 : c.index0 = k
  length : c.length = n
  /-- The loop around it is the given one, as a whole. -/
  parent : c.parent? = parent
  index : c.index = k + 1 ∧ c.index ≤ n
  revindex : c.revindex + k = n
  revindex0 : c.revindex0 + (k + 1) = n
  isFirst : c.isFirst = true ↔ k = 0
  isLast : c.isLast = true ↔ k + 1 = n
  cycle : ∀ turns : List Value, turns ≠ [] →
    ∃ v, turns[k % turns.length]? = some v ∧ c.cycle turns = .ok v

theorem LoopContext.standsAt_ofPosition {k n : Nat} (h : k < n)
    (parent : Option (InstanceId × LoopContext)) : (ofPosition k n parent).StandsAt k n parent := by
  have hposition := position_ofPosition k n parent
  have hindex0 : (ofPosition k n parent).index0 = k := congrArg LoopPosition.index0 hposition
  have hlength : (ofPosition k n parent).length = n := congrArg LoopPosition.length hposition
  have hindex : (ofPosition k n parent).index = k + 1 := congrArg (· + 1) hindex0
  refine ⟨hindex0, hlength, parent?_ofPosition k n parent, ⟨hindex, hindex ▸ h⟩, ?_, ?_, ?_, ?_, ?_⟩
  · rw [revindex, hlength, hindex0, Nat.sub_add_cancel (Nat.le_of_lt h)]
  · rw [revindex0, hlength, hindex, Nat.sub_add_cancel h]
  · rw [isFirst, hindex0, beq_iff_eq]
  · rw [isLast, hindex, hlength, beq_iff_eq]
  · intro turns hturns
    have hturn : k % turns.length < turns.length :=
      Nat.mod_lt k (List.length_pos_iff.mpr hturns)
    refine ⟨turns[k % turns.length], List.getElem?_eq_getElem hturn, ?_⟩
    rw [cycle, hindex0, List.getElem?_eq_getElem hturn]

/-! ## Calls of a loop body -/

/-- One call of a loop body: what it was given, where it began and how it ended. -/
structure LoopCall (σ : Type) where
  context : LoopContext
  values : List Value
  begun : σ
  outcome : Outcome LoopStep
  ended : σ

/-- After the call the loop goes on. -/
def LoopCall.GoesOn {σ : Type} (call : LoopCall σ) : Prop :=
  call.outcome = .done .goOn

namespace Iteration

section
variable {σ : Type}

/-- The same body, which also notes its calls. -/
def noting (body : LoopContext → List Value → Action σ LoopStep) (context : LoopContext)
    (values : List Value) : Action (σ × List (LoopCall σ)) LoopStep := fun (s, calls) =>
  match body context values s with
  | (outcome, t) => (outcome, (t, calls ++ [⟨context, values, s, outcome, t⟩]))

/-- The calls that a run makes of its body, in order. -/
def calls (items : List Value) (parent : Option (InstanceId × LoopContext))
    (unpacking : Unpacking) (binding : Binding)
    (body : LoopContext → List Value → Action σ LoopStep) (s : σ) : List (LoopCall σ) :=
  (run items parent unpacking binding (noting body) (s, [])).2.2

/-- How a run over these elements ends that has made these calls. -/
inductive Ends (unpacking : Unpacking) (binding : Binding) :
    List Value → List (LoopCall σ) → Outcome Nat → Prop
  /-- Every element had its call. -/
  | exhausted {items calls visited} : (∀ call ∈ calls, call.GoesOn) →
      calls.length = items.length → Ends unpacking binding items calls (.done visited)
  /-- The next element cannot be taken apart; it has no call. -/
  | unfit {items calls item error} : (∀ call ∈ calls, call.GoesOn) →
      items[calls.length]? = some item →
      (binding.unpack unpacking item).toExcept = .error error →
      Ends unpacking binding items calls (.failed error)
  | stopped {items calls call visited} : (∀ call ∈ calls, call.GoesOn) →
      call.outcome = .done .stop → Ends unpacking binding items (calls ++ [call]) (.done visited)
  | failed {items calls call error} : (∀ call ∈ calls, call.GoesOn) →
      call.outcome = .failed error →
      Ends unpacking binding items (calls ++ [call]) (.failed error)
  | unfinished {items calls call} : (∀ call ∈ calls, call.GoesOn) →
      call.outcome = .unfinished → Ends unpacking binding items (calls ++ [call]) .unfinished

/-- What is true of the calls that a run makes from the element at `index0` on, if it
goes from `s` to `t`. -/
structure Transcript (it : Iteration) (binding : Binding)
    (body : LoopContext → List Value → Action σ LoopStep) (index0 : Nat) (items : List Value)
    (s : σ) (calls : List (LoopCall σ)) (outcome : Outcome Nat) (t : σ) : Prop where
  /-- Each call has its element, the values taken out of it and its position. -/
  given : ∀ k (call : LoopCall σ), calls[k]? = some call → ∃ item, items[k]? = some item ∧
    (binding.unpack it.unpacking item).toExcept = .ok call.values ∧
    call.context.StandsAt (index0 + k) it.length it.parent
  /-- They are calls of this body. -/
  ran : ∀ call ∈ calls, body call.context call.values call.begun = (call.outcome, call.ended)
  /-- Nothing happens between the calls, before the first or after the last. -/
  chained : calls.map LoopCall.begun ++ [t] = s :: calls.map LoopCall.ended
  ending : Ends it.unpacking binding items calls outcome
  counts : ∀ visited, outcome = .done visited → visited = index0 + calls.length

variable {it : Iteration} {binding : Binding} {index0 : Nat} {item : Value} {rest : List Value}
variable {body : LoopContext → List Value → Action σ LoopStep} {s t u : σ}
variable {values : List Value} {laters : List (LoopCall σ)} {outcome : Outcome Nat}

theorem Ends.later {call : LoopCall σ} (hcall : call.GoesOn)
    (h : Ends it.unpacking binding rest laters outcome) :
    Ends it.unpacking binding (item :: rest) (call :: laters) outcome := by
  have hall {calls : List (LoopCall σ)} (hcalls : ∀ call ∈ calls, call.GoesOn) :
      ∀ other ∈ call :: calls, other.GoesOn := List.forall_mem_cons.mpr ⟨hcall, hcalls⟩
  cases h with
  | exhausted hcalls hlength => exact .exhausted (hall hcalls) (congrArg (· + 1) hlength)
  | unfit hcalls hitem herror => exact .unfit (hall hcalls) hitem herror
  | stopped hcalls hcall => exact .stopped (hall hcalls) hcall
  | failed hcalls hcall => exact .failed (hall hcalls) hcall
  | unfinished hcalls hcall => exact .unfinished (hall hcalls) hcall

namespace Transcript

/-- No call is made any more. -/
theorem uncalled {items : List Value} (h : Ends it.unpacking binding items ([] : List (LoopCall σ))
    outcome) (hcounts : ∀ visited, outcome = .done visited → visited = index0) :
    Transcript it binding body index0 items s [] outcome s where
  given _ _ hcall := nomatch hcall
  ran _ hcall := nomatch hcall
  chained := rfl
  ending := h
  counts := hcounts

/-- What is known of the first of the calls. -/
theorem given_first (hlt : index0 < it.length)
    (hvalues : (binding.unpack it.unpacking item).toExcept = .ok values) :
    ∃ first, (item :: rest)[0]? = some first ∧
      (binding.unpack it.unpacking first).toExcept = .ok values ∧
      (it.contextAt index0).StandsAt (index0 + 0) it.length it.parent :=
  ⟨item, rfl, hvalues, LoopContext.standsAt_ofPosition hlt it.parent⟩

/-- A call is made, and it is the last. -/
theorem last {step : Outcome LoopStep} (hlt : index0 < it.length)
    (hvalues : (binding.unpack it.unpacking item).toExcept = .ok values)
    (hrun : body (it.contextAt index0) values s = (step, t))
    (h : Ends it.unpacking binding (item :: rest)
      ([] ++ [⟨it.contextAt index0, values, s, step, t⟩]) outcome)
    (hcounts : ∀ visited, outcome = .done visited → visited = index0 + 1) :
    Transcript it binding body index0 (item :: rest) s
      [⟨it.contextAt index0, values, s, step, t⟩] outcome t where
  given k call hcall := by
    cases k with
    | zero =>
      cases hcall
      exact given_first hlt hvalues
    | succ k => exact nomatch hcall
  ran call hcall := by
    rw [List.mem_singleton.mp hcall]
    exact hrun
  chained := rfl
  ending := h
  counts := hcounts

/-- A call is made, and the loop goes on. -/
theorem later (hlt : index0 < it.length)
    (hvalues : (binding.unpack it.unpacking item).toExcept = .ok values)
    (hrun : body (it.contextAt index0) values s = (.done .goOn, t))
    (h : Transcript it binding body (index0 + 1) rest t laters outcome u) :
    Transcript it binding body index0 (item :: rest) s
      (⟨it.contextAt index0, values, s, .done .goOn, t⟩ :: laters) outcome u where
  given k call hcall := by
    cases k with
    | zero =>
      cases hcall
      exact given_first hlt hvalues
    | succ k =>
      obtain ⟨found, hfound, hparts, hstands⟩ := h.given k call hcall
      rw [Nat.add_right_comm] at hstands
      exact ⟨found, hfound, hparts, hstands⟩
  ran := List.forall_mem_cons.mpr ⟨hrun, h.ran⟩
  chained := congrArg (s :: ·) h.chained
  ending := h.ending.later rfl
  counts visited hvisited := by
    rw [h.counts visited hvisited, List.length_cons, Nat.add_right_comm, Nat.add_assoc]

end Transcript

/-- An element that cannot be taken apart ends the run. -/
theorem visitFrom_of_error {error : RenderError}
    (hvalues : (binding.unpack it.unpacking item).toExcept = .error error) :
    it.visitFrom binding body index0 (item :: rest) s = (.failed error, s) := by
  rw [visitFrom, hvalues]
  rfl

/-- For any other the run goes the way of its call. -/
theorem visitFrom_of_ok (hvalues : (binding.unpack it.unpacking item).toExcept = .ok values) :
    it.visitFrom binding body index0 (item :: rest) s =
      match body (it.contextAt index0) values s with
      | (.done .goOn, t) => it.visitFrom binding body (index0 + 1) rest t
      | (.done .stop, t) => (.done (index0 + 1), t)
      | (.failed error, t) => (.failed error, t)
      | (.unfinished, t) => (.unfinished, t) := by
  rw [visitFrom, Action.bind_of_done (Action.ofExcept_of_ok hvalues s), Action.bind_apply]
  rcases body (it.contextAt index0) values s with ⟨(_ | _) | _ | _, t⟩ <;> rfl

theorem noting_of_call {context : LoopContext} {step : Outcome LoopStep}
    (hcall : body context values s = (step, t)) (notes : List (LoopCall σ)) :
    noting body context values (s, notes) =
      (step, (t, notes ++ [⟨context, values, s, step, t⟩])) := by
  simp only [noting, hcall]

/-- The induction over the elements that are left.  The calls do not depend on what was
noted before, so the notes of a run grow by its own calls. -/
theorem transcript_visitFrom : ∀ (items : List Value) (index0 : Nat) (s : σ),
    index0 + items.length ≤ it.length →
    ∃ calls, Transcript it binding body index0 items s calls
        (it.visitFrom binding body index0 items s).1
        (it.visitFrom binding body index0 items s).2 ∧
      ∀ notes, it.visitFrom binding (noting body) index0 items (s, notes) =
        ((it.visitFrom binding body index0 items s).1,
          ((it.visitFrom binding body index0 items s).2, notes ++ calls))
  | [], index0, s, _ => by
    refine ⟨[], .uncalled (.exhausted nofun rfl) fun visited hvisited => ?_, fun notes => ?_⟩
    · cases hvisited
      rfl
    · rw [List.append_nil]
      rfl
  | item :: rest, index0, s, hlength => by
    rw [List.length_cons, ← Nat.add_assoc, Nat.add_right_comm] at hlength
    have hlt : index0 < it.length := Nat.le_trans (Nat.le_add_right _ _) hlength
    cases hvalues : (binding.unpack it.unpacking item).toExcept with
    | error error =>
      rw [visitFrom_of_error hvalues]
      refine ⟨[], .uncalled (.unfit nofun rfl hvalues) nofun, fun notes => ?_⟩
      rw [visitFrom_of_error hvalues, List.append_nil]
    | ok values =>
      rcases hcall : body (it.contextAt index0) values s with ⟨step, t⟩
      simp only [visitFrom_of_ok hvalues, noting_of_call hcall, hcall]
      cases step with
      | failed error =>
        exact ⟨_, .last hlt hvalues hcall (.failed nofun rfl) nofun, fun _ => rfl⟩
      | unfinished =>
        exact ⟨_, .last hlt hvalues hcall (.unfinished nofun rfl) nofun, fun _ => rfl⟩
      | done step =>
        cases step with
        | stop =>
          refine ⟨_, .last hlt hvalues hcall (.stopped nofun rfl) ?_, fun _ => rfl⟩
          rintro visited ⟨⟩
          rfl
        | goOn =>
          obtain ⟨laters, htranscript, hlaters⟩ := transcript_visitFrom rest (index0 + 1) t hlength
          refine ⟨_, .later hlt hvalues hcall htranscript, fun notes => (hlaters _).trans ?_⟩
          rw [List.append_assoc, List.singleton_append]

/-- There is an element exactly if one was visited. -/
theorem Transcript.visited_pos_iff {items : List Value} {made : List (LoopCall σ)} {visited : Nat}
    (h : Transcript it binding body 0 items s made (.done visited) t) :
    0 < visited ↔ items ≠ [] := by
  rw [h.counts visited rfl, Nat.zero_add, ← List.length_pos_iff]
  have hgiven := h.given
  cases h.ending with
  | exhausted _ hlength => rw [hlength]
  | @stopped before call _ _ _ =>
    -- The element of the last call is there.
    obtain ⟨item, hitem, -⟩ := hgiven before.length call List.getElem?_concat_length
    have hlt := (List.getElem?_eq_some_iff.mp hitem).1
    rw [List.length_append, List.length_singleton]
    exact iff_of_true (Nat.succ_pos _) (Nat.zero_lt_of_lt hlt)

/-- A run makes the calls that it notes, and noting them changes nothing else. -/
theorem transcript_run (items : List Value) (parent : Option (InstanceId × LoopContext))
    (unpacking : Unpacking) (binding : Binding)
    (body : LoopContext → List Value → Action σ LoopStep) (s : σ) :
    Transcript ⟨items.length, parent, unpacking⟩ binding body 0 items s
        (calls items parent unpacking binding body s)
        (run items parent unpacking binding body s).1
        (run items parent unpacking binding body s).2 ∧
      run items parent unpacking binding (noting body) (s, []) =
        ((run items parent unpacking binding body s).1,
          ((run items parent unpacking binding body s).2,
            calls items parent unpacking binding body s)) := by
  obtain ⟨made, htranscript, hnotes⟩ := @transcript_visitFrom σ ⟨items.length, parent, unpacking⟩
    binding body items 0 s (Nat.le_of_eq (Nat.zero_add _))
  have hrun : run items parent unpacking binding (noting body) (s, []) = _ := hnotes []
  have hcalls : calls items parent unpacking binding body s = made := by
    rw [calls, hrun]
    rfl
  rw [hcalls]
  exact ⟨htranscript, hrun⟩

end
end Iteration

/-! ## Loops over values -/

/-- The elements a loop finds in a value: those of its sequence, and none in an undefined
marker. -/
inductive Value.Normalizes : Value → List Value → Prop
  | undefined {name} : Normalizes (.undefined name) []
  | sequence {v items} : v.sequence? = some items → Normalizes v items

theorem Value.Normalizes.itemsOf {v : Value} {items : List Value} (h : v.Normalizes items) :
    Iteration.itemsOf v = .ok items := by
  cases h with
  | undefined => rfl
  | sequence hitems =>
    cases v with
    | undefined _ => cases hitems
    | _ => simp only [Iteration.itemsOf, hitems]

theorem Value.itemsOf_of_shapeless {v : Value} (h : ∀ items, ¬ v.Normalizes items) :
    Iteration.itemsOf v =
      .error (.type "a list, map or string" v.typeName "iterating in a loop") := by
  cases v with
  | undefined _ => exact absurd .undefined (h [])
  | list items => exact absurd (.sequence rfl) (h items)
  | map entries => exact absurd (.sequence rfl) (h _)
  | text s => exact absurd (.sequence rfl) (h _)
  | _ => rfl

/-- A value may be looped over: it is defined, or the policy lets it pass. -/
def Config.Admits (config : Config) (v : Value) : Prop :=
  v.isUndefined = true → config.undefinedPolicy = .lenient

/-- The context that a value holds. -/
def Value.context? : Value → Option LoopContext
  | .loop _ context => some context
  | _ => none

namespace Render

/-- What a loop in a template does for an element: it begins the iteration and runs the
body. -/
def iteration (scope : Scope) (binding : Binding) (body : LoopContext → Render LoopStep)
    (context : LoopContext) (values : List Value) : Render LoopStep := do
  beginIteration scope binding context values
  body context

section
variable {config : Config} {v : Value} {items : List Value}

theorem refuseUndefined_of_admits (h : config.Admits v) (s : State) :
    refuseUndefined config v s = (.done (), s) := by
  cases v with
  | undefined name =>
    have hpolicy : config.undefinedPolicy = .lenient := h rfl
    simp only [refuseUndefined, hpolicy]
    rfl
  | _ => rfl

/-- The copy counts as an instance; nothing else changes. -/
theorem copyEnclosing_done (s : State) : ∃ parent next,
    copyEnclosing s = (.done parent, s.withNextInstance next) ∧
      parent.map Prod.snd = (s.scope.lookup loopVariable).context? := by
  rw [copyEnclosing_apply]
  cases s.scope.lookup loopVariable <;> exact ⟨_, _, rfl, rfl⟩

variable (binding : Binding) (body : LoopContext → Render LoopStep)

/-- A loop over a value is a run over its elements. -/
theorem forLoop_of_normalizes (hitems : v.Normalizes items) (hv : config.Admits v) {s u : State}
    {parent : Option (InstanceId × LoopContext)} (hparent : copyEnclosing s = (.done parent, u)) :
    forLoop config v binding body s =
      (do
        let visited ← withFrame
          (Iteration.run items parent config.unpacking binding (iteration u.scope binding body))
        return decide (0 < visited) : Render Bool) u := by
  rw [forLoop, Action.bind_of_done (refuseUndefined_of_admits hv s), Action.bind_of_done hparent,
    Action.bind_of_done (Action.ofExcept_of_ok hitems.itemsOf u), Action.bind_read]
  rfl

/-- Without elements nothing is run. -/
theorem forLoop_of_empty (hitems : v.Normalizes []) (hv : config.Admits v) (s : State) :
    forLoop config v binding body s = (.done false, (copyEnclosing s).2) := by
  obtain ⟨parent, next, hparent, -⟩ := copyEnclosing_done s
  rw [forLoop_of_normalizes binding body hitems hv hparent, hparent]
  rfl

/-- A loop that has come to its end tells whether there was an element. -/
theorem eq_true_iff_of_forLoop (hitems : v.Normalizes items) (hv : config.Admits v) {s : State}
    {any : Bool} (h : (forLoop config v binding body s).1 = .done any) :
    any = true ↔ items ≠ [] := by
  obtain ⟨parent, next, hparent, -⟩ := copyEnclosing_done s
  rw [forLoop_of_normalizes binding body hitems hv hparent] at h
  obtain ⟨visited, t, hframe, hany⟩ := Action.bind_eq_done_iff.mp (Prod.ext h rfl)
  cases hany
  have hdone : (Iteration.run items parent config.unpacking binding
      (iteration s.scope binding body) (s.withNextInstance next).enterFrame).1 = .done visited :=
    congrArg Prod.fst hframe
  have htranscript := (Iteration.transcript_run items parent config.unpacking binding
    (iteration s.scope binding body) (s.withNextInstance next).enterFrame).1
  rw [hdone] at htranscript
  rw [decide_eq_true_iff]
  exact htranscript.visited_pos_iff

theorem forLoop_of_shapeless (hv : ∀ items, ¬ v.Normalizes items) (s : State) :
    (forLoop config v binding body s).1 =
      .failed (.type "a list, map or string" v.typeName "iterating in a loop") := by
  have hpass : refuseUndefined config v s = (.done (), s) := by
    cases v with
    | undefined _ => exact absurd .undefined (hv [])
    | _ => rfl
  obtain ⟨parent, next, hparent, -⟩ := copyEnclosing_done s
  rw [forLoop, Action.bind_of_done hpass, Action.bind_of_done hparent,
    Value.itemsOf_of_shapeless hv]
  rfl

theorem forLoopElse_of_empty (hitems : v.Normalizes []) (hv : config.Admits v)
    (otherwise : Render Unit) (s : State) :
    forLoopElse config v binding body otherwise s =
      withFrame otherwise (copyEnclosing s).2 := by
  rw [forLoopElse, Action.bind_of_done (forLoop_of_empty binding body hitems hv s)]
  rfl

/-- With elements the other body has no part in it. -/
theorem forLoopElse_of_nonempty (hitems : v.Normalizes items) (hv : config.Admits v)
    (hne : items ≠ []) (otherwise : Render Unit) (s : State) :
    forLoopElse config v binding body otherwise s =
      (do
        let _ ← forLoop config v binding body
        return () : Render Unit) s := by
  rw [forLoopElse, Action.bind_apply, Action.bind_apply]
  rcases hloop : forLoop config v binding body s with ⟨any | _ | _, t⟩
  · have hany : any = true :=
      (eq_true_iff_of_forLoop binding body hitems hv (congrArg Prod.fst hloop)).mpr hne
    subst hany
    rfl
  · rfl
  · rfl

end
end Render

section
variable {σ : Type} {v : Value} {items : List Value}
variable (parent : Option (InstanceId × LoopContext)) (binding : Binding)
variable (body : LoopContext → List Value → Action σ LoopStep) (empty : Option (Action σ Unit))

theorem iterate_of_empty (hitems : v.Normalizes []) :
    iterate v parent binding body empty = empty.getD (pure ()) := by
  rw [iterate, hitems.itemsOf]
  cases empty <;> rfl

theorem iterate_of_nonempty (hitems : v.Normalizes items) (hne : items ≠ []) :
    iterate v parent binding body empty =
      (do
        let _ ← Iteration.run items parent default binding body
        return ()) := by
  rw [iterate, hitems.itemsOf]
  cases items with
  | nil => exact absurd rfl hne
  | cons item rest => rfl

theorem iterate_of_shapeless (hv : ∀ items, ¬ v.Normalizes items) :
    iterate v parent binding body empty =
      Action.fail (.type "a list, map or string" v.typeName "iterating in a loop") := by
  rw [iterate, Value.itemsOf_of_shapeless hv]
  rfl

end

/-! ## The law -/

/-- What a loop is, whoever runs it: a run over the elements of a value, or the answer
to a value that cannot be looped over. -/
structure LoopProtocol (config : Config) : Prop where
  /-- Noting its calls changes nothing about a run. -/
  noting : ∀ {σ : Type} items parent unpacking binding
    (body : LoopContext → List Value → Action σ LoopStep) (s : σ),
    Iteration.run items parent unpacking binding (Iteration.noting body) (s, []) =
      ((Iteration.run items parent unpacking binding body s).1,
        ((Iteration.run items parent unpacking binding body s).2,
          Iteration.calls items parent unpacking binding body s))
  /-- The calls of a run, and how it ends. -/
  run : ∀ {σ : Type} items parent unpacking binding
    (body : LoopContext → List Value → Action σ LoopStep) (s : σ),
    Iteration.Transcript ⟨items.length, parent, unpacking⟩ binding body 0 items s
      (Iteration.calls items parent unpacking binding body s)
      (Iteration.run items parent unpacking binding body s).1
      (Iteration.run items parent unpacking binding body s).2
  /-- A loop in a template is a run in a frame, and its parent is the context that the
  loop variable held. -/
  forLoop : ∀ {v items}, v.Normalizes items → config.Admits v → ∀ binding body (s : State),
    ∃ parent next, parent.map Prod.snd = (s.scope.lookup loopVariable).context? ∧
      Render.forLoop config v binding body s =
        (do
          let visited ← Render.withFrame
            (Iteration.run items parent config.unpacking binding
              (Render.iteration s.scope binding body))
          return decide (0 < visited) : Render Bool) (s.withNextInstance next)
  /-- It yields `false` exactly if there is no element. -/
  forLoop_false : ∀ {v items}, v.Normalizes items → config.Admits v →
    ∀ binding body (s : State),
      (Render.forLoop config v binding body s).1 = .done false ↔ items = []
  /-- However else it comes to an end, it yields `true`. -/
  forLoop_true : ∀ {v items}, v.Normalizes items → config.Admits v →
    ∀ binding body (s : State) any, items ≠ [] →
      (Render.forLoop config v binding body s).1 = .done any → any = true
  /-- Without an element the other body is run, in a frame and on nothing but the state
  in which the loop was to begin. -/
  otherwise_empty : ∀ {v}, v.Normalizes [] → config.Admits v →
    ∀ binding body otherwise (s : State), ∃ next,
      Render.forLoopElse config v binding body otherwise s =
        Render.withFrame otherwise (s.withNextInstance next)
  /-- With an element it is not, even if the first one ends the loop. -/
  otherwise_nonempty : ∀ {v items}, v.Normalizes items → config.Admits v → items ≠ [] →
    ∀ binding body otherwise (s : State),
      Render.forLoopElse config v binding body otherwise s =
        (do
          let _ ← Render.forLoop config v binding body
          return () : Render Unit) s
  /-- A loop of the host pads and cuts elements, and does what it has for no elements. -/
  iterate_empty : ∀ {σ : Type} {v}, v.Normalizes [] → ∀ parent binding
    (body : LoopContext → List Value → Action σ LoopStep) empty,
      iterate v parent binding body empty = empty.getD (pure ())
  iterate_nonempty : ∀ {σ : Type} {v items}, v.Normalizes items → items ≠ [] →
    ∀ parent binding (body : LoopContext → List Value → Action σ LoopStep) empty,
      iterate v parent binding body empty =
        (do
          let _ ← Iteration.run items parent default binding body
          return ())
  /-- Under the strict policy an undefined value ends the loop before it begins. -/
  refused : config.undefinedPolicy = .strict → ∀ name binding body (s : State),
    Render.forLoop config (.undefined name) binding body s = (.failed (.undefined name), s)
  /-- So does a value that has no sequence, for every kind of loop. -/
  shapeless : ∀ {v}, (∀ items, ¬ v.Normalizes items) →
    (∀ binding body (s : State), (Render.forLoop config v binding body s).1 =
      .failed (.type "a list, map or string" v.typeName "iterating in a loop")) ∧
    ∀ {σ : Type} parent binding (body : LoopContext → List Value → Action σ LoopStep) empty,
      iterate v parent binding body empty =
        Action.fail (.type "a list, map or string" v.typeName "iterating in a loop")

/-- All loops follow the protocol. -/
theorem loopProtocol (config : Config) : LoopProtocol config where
  noting items parent unpacking binding body s :=
    (Iteration.transcript_run items parent unpacking binding body s).2
  run items parent unpacking binding body s :=
    (Iteration.transcript_run items parent unpacking binding body s).1
  forLoop {v items} hitems hv binding body s := by
    obtain ⟨parent, next, hparent, hcontext⟩ := Render.copyEnclosing_done s
    exact ⟨parent, next, hcontext, Render.forLoop_of_normalizes binding body hitems hv hparent⟩
  forLoop_false {v items} hitems hv binding body s := by
    constructor
    · intro hfalse
      refine Classical.byContradiction fun hne => ?_
      cases (Render.eq_true_iff_of_forLoop binding body hitems hv hfalse).mpr hne
    · rintro rfl
      rw [Render.forLoop_of_empty binding body hitems hv s]
  forLoop_true {v items} hitems hv binding body s any hne hany :=
    (Render.eq_true_iff_of_forLoop binding body hitems hv hany).mpr hne
  otherwise_empty {v} hitems hv binding body otherwise s := by
    obtain ⟨parent, next, hparent, -⟩ := Render.copyEnclosing_done s
    refine ⟨next, ?_⟩
    rw [Render.forLoopElse_of_empty binding body hitems hv otherwise s, hparent]
  otherwise_nonempty {v items} hitems hv hne binding body :=
    Render.forLoopElse_of_nonempty binding body hitems hv hne
  iterate_empty {σ v} hitems parent binding body empty :=
    iterate_of_empty parent binding body empty hitems
  iterate_nonempty {σ v items} hitems hne parent binding body empty :=
    iterate_of_nonempty parent binding body empty hitems hne
  refused hpolicy name binding body s := by
    have hrefused : Render.refuseUndefined config (.undefined name) s =
        (.failed (.undefined name), s) := by
      simp only [Render.refuseUndefined, hpolicy]
      rfl
    rw [Render.forLoop, Action.bind_of_failed hrefused]
  shapeless {v} hv :=
    ⟨fun binding body s => Render.forLoop_of_shapeless binding body hv s,
      fun parent binding body empty => iterate_of_shapeless parent binding body empty hv⟩

end Templating
