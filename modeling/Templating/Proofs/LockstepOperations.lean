import Templating.Proofs.Lockstep

/-!
# The operations of a render in lockstep

Every operation of a render is alike to itself under a sound pairing, provided
that the code it runs is.  Each lemma here follows the definition of its
operation and uses the lemmas of the operations that this one is made of, so a
change to one operation is a change to one lemma.
-/
namespace Templating
namespace Pairing
namespace Sound

variable {P : Pairing} {V : Vocabulary} {config : Config} {α : Type} {Q : α → Prop}
variable (h : P.Sound V config)
include h

/-! ## Output -/

theorem noteOf {e : State → Event} (he : ∀ s, (e s).chunk? = none) :
    P.Alike (Action.modify fun s => s.logged (e s)) (Action.modify fun s => s.logged (e s))
      fun _ => True :=
  alike_modify fun _ _ hab => h.note hab he

theorem log {e : Event} (he : e.chunk? = none) :
    P.Alike (Render.log e) (Render.log e) fun _ => True :=
  h.noteOf (e := fun _ => e) fun _ => he

theorem notify (n : Notice) : P.Alike (Render.notify n) (Render.notify n) fun _ => True :=
  h.log rfl

omit h in
theorem refuseUndefined (v : Value) :
    P.Alike (Render.refuseUndefined config v) (Render.refuseUndefined config v) fun _ => True := by
  unfold Render.refuseUndefined
  split
  · exact alike_fail _
  · exact alike_pure trivial

theorem emit {v : Value} (hv : V.value v) :
    P.Alike (Render.emit config v) (Render.emit config v) fun _ => True := by
  refine (refuseUndefined v).bind fun _ _ => alike_read_bind fun a b hab => ?_
  rw [(h.looks hab).autoescape]
  exact h.write ((h.looks hab).autoescape ▸ h.emitted hab hv)

omit h in
/-- What a captured action leaves behind is its text and nothing in the sink. -/
theorem capture_apply (m : Render Unit) (s : State) :
    Render.capture m s =
      ((m s.enterCapture).1.map fun _ => (m s.enterCapture).2.captured,
        State.leaveCapture s (m s.enterCapture).2) := by
  rw [Render.capture, Action.bracket_apply, Action.bind_apply]
  rcases m s.enterCapture with ⟨_ | _ | _, t⟩ <;> rfl

theorem captureText {m n : Render Unit} (hm : P.Alike m n fun _ => True) :
    P.Alike (Render.capture m) (Render.capture n) V.text := by
  intro a b hab
  obtain ⟨hin, hleave⟩ := h.capture a b hab
  obtain ⟨hout, hto, -⟩ := hm _ _ hin
  obtain ⟨htext, hV⟩ := h.captured hab hto
  rw [capture_apply, capture_apply, ← hout, ← htext]
  refine ⟨rfl, hleave _ _ hto, fun x hx => ?_⟩
  cases hm' : (m a.enterCapture).1 with
  | done _ =>
    rw [hm'] at hx
    cases hx
    exact hV
  | failed _ | unfinished =>
    rw [hm'] at hx
    cases hx

/-! ## Names and frames -/

theorem lookup (name : String) :
    P.Alike (Render.lookup name) (Render.lookup name) V.value :=
  alike_read fun _ _ hab => ⟨(h.looks hab).lookup name, h.looked hab name⟩

theorem assignValue {v : Value} (hv : V.value v) (name : String) :
    P.Alike (Render.assign name v) (Render.assign name v) fun _ => True :=
  alike_modify fun _ _ hab => h.assign hab hv name

theorem assignAll : ∀ {bindings : List (String × Value)}, (∀ entry ∈ bindings, V.value entry.2) →
    P.Alike (Render.assignAll bindings) (Render.assignAll bindings) fun _ => True
  | [], _ => alike_pure trivial
  | (name, _) :: _, hvs =>
    (h.assignValue (hvs _ (List.mem_cons_self ..)) name).bind fun _ _ =>
      assignAll fun entry hentry => hvs entry (List.mem_cons_of_mem _ hentry)

theorem assignBinding (hV : V.Closed config) {v : Value} (hv : V.value v) (binding : Binding) :
    P.Alike (Render.assignBinding config binding v) (Render.assignBinding config binding v)
      fun _ => True := by
  refine Alike.bind (Q := fun values => ∀ w ∈ values, V.value w)
    (alike_ofExcept fun values hvalues => hV.unpacked hv hvalues) fun values hvalues => ?_
  refine h.assignAll fun entry hentry => ?_
  exact hvalues _ (List.of_mem_zip hentry).2

theorem exportValue {v : Value} (hv : V.value v) (name : String) :
    P.Alike (Render.exportVar name v) (Render.exportVar name v) fun _ => True :=
  alike_modify fun _ _ hab => h.exportVar hab hv name

theorem withFrame {m n : Render α} (hm : P.Alike m n Q) :
    P.Alike (Render.withFrame m) (Render.withFrame n) Q :=
  hm.bracket h.frame

theorem switchEscaping {enabled : Bool} (hs : V.stmt (.setEscaping enabled)) :
    P.Alike (Render.setAutoescape enabled) (Render.setAutoescape enabled) fun _ => True :=
  alike_modify fun _ _ hab => h.setEscaping hab hs

theorem withAutoescape {enabled : Bool} {body : Body} (hs : V.stmt (.escaping enabled body))
    {m n : Render α} (hm : P.Alike m n Q) :
    P.Alike (Render.withAutoescape enabled m) (Render.withAutoescape enabled n) Q :=
  hm.bracket (h.escaping hs)

theorem filterBlock (hV : V.Closed config) {filter : String} {operands : List Expr} {body : Body}
    (hs : V.stmt (.filterBlock filter operands body)) {arguments : List Value}
    (hargs : ∀ a ∈ arguments, V.value a) {m n : Render Unit} (hm : P.Alike m n fun _ => True) :
    P.Alike (Render.filterBlock config filter arguments m)
      (Render.filterBlock config filter arguments n) fun _ => True := by
  refine (h.withFrame (h.captureText hm)).bind fun text htext => ?_
  refine Alike.bind (Q := fun w => V.text w.toText) (alike_ofExcept ?_) fun w hw => h.write hw
  exact fun w hw => hV.filterBlock hs htext hargs hw

theorem instantiate (hV : V.Closed config) {v : Value} (hv : V.expr (.literal v)) :
    P.Alike (Render.instantiate v) (Render.instantiate v) V.value := by
  intro a b hab
  have hnext := (h.looks hab).nextInstance
  unfold Render.instantiate
  rw [← hnext]
  refine ⟨rfl, h.count hab _, fun x hx => ?_⟩
  cases hx
  exact hV.literal hv _

theorem newInstance : P.Alike Render.newInstance Render.newInstance fun _ => True := by
  intro a b hab
  have hnext := (h.looks hab).nextInstance
  unfold Render.newInstance
  rw [← hnext]
  exact ⟨rfl, h.count hab _, fun _ _ => trivial⟩

/-! ## Loops -/

theorem copyEnclosing :
    P.Alike Render.copyEnclosing Render.copyEnclosing fun _ => True := by
  refine (h.lookup loopVariable).bind fun v _ => ?_
  split
  · exact h.newInstance.bind fun _ _ => alike_pure trivial
  · exact alike_pure trivial

/-- An iteration begins alike in the scopes of two states that corresponded when
the loop began. -/
theorem beginIteration (hV : V.Closed config) {a₀ b₀ : State} (hab₀ : P.Rel a₀ b₀)
    (binding : Binding) (context : LoopContext) {values : List Value}
    (hvalues : ∀ w ∈ values, V.value w) :
    P.Alike (Render.beginIteration a₀.scope binding context values)
      (Render.beginIteration b₀.scope binding context values) fun _ => True := by
  refine h.newInstance.bind fun id _ => alike_modify fun a b hab => ?_
  refine h.rebind hab₀ hab fun entry hentry => ?_
  rcases List.mem_cons.mp hentry with rfl | hentry
  · exact hV.loop id context
  · exact hvalues _ (List.of_mem_zip hentry).2

omit h in
theorem visitFrom (hV : V.Closed config) (it : Iteration) (hit : it.unpacking = config.unpacking)
    (binding : Binding) {f g : LoopContext → List Value → Render LoopStep}
    (hf : ∀ context values, (∀ w ∈ values, V.value w) →
      P.Alike (f context values) (g context values) fun _ => True) :
    ∀ (items : List Value) (index0 : Nat), (∀ w ∈ items, V.value w) →
      P.Alike (it.visitFrom binding f index0 items) (it.visitFrom binding g index0 items)
        fun _ => True
  | [], _, _ => alike_pure trivial
  | item :: rest, index0, hitems => by
    unfold Iteration.visitFrom
    have hitem := hitems item (List.mem_cons_self ..)
    have hrest : ∀ w ∈ rest, V.value w := fun w hw => hitems w (List.mem_cons_of_mem _ hw)
    rw [hit]
    refine Alike.bind (Q := fun values => ∀ w ∈ values, V.value w)
      (alike_ofExcept fun values hvalues => hV.unpacked hitem hvalues) fun values hvalues => ?_
    refine (hf _ values hvalues).bind fun step _ => ?_
    cases step with
    | stop => exact alike_pure trivial
    | goOn => exact visitFrom hV it hit binding hf rest (index0 + 1) hrest

theorem forLoop (hV : V.Closed config) {iterable : Value} (hv : V.value iterable)
    (binding : Binding) {body : LoopContext → Render LoopStep}
    (hbody : ∀ context, P.Alike (body context) (body context) fun _ => True) :
    P.Alike (Render.forLoop config iterable binding body)
      (Render.forLoop config iterable binding body) fun _ => True := by
  refine (refuseUndefined iterable).bind fun _ _ => h.copyEnclosing.bind fun parent _ => ?_
  refine Alike.bind (Q := fun items => ∀ w ∈ items, V.value w)
    (alike_ofExcept fun items hitems => hV.items hv hitems) fun items hitems => ?_
  refine alike_read_bind fun a b hab => Alike.bind (Q := fun _ => True) ?_ fun _ _ =>
    alike_pure trivial
  refine h.withFrame (visitFrom hV _ rfl binding (fun context values hvalues => ?_) items 0 hitems)
  exact (h.beginIteration hV hab binding context hvalues).bind fun _ _ => hbody context

theorem forLoopElse (hV : V.Closed config) {iterable : Value} (hv : V.value iterable)
    (binding : Binding) {body : LoopContext → Render LoopStep} {otherwise : Render Unit}
    (hbody : ∀ context, P.Alike (body context) (body context) fun _ => True)
    (hotherwise : P.Alike otherwise otherwise fun _ => True) :
    P.Alike (Render.forLoopElse config iterable binding body otherwise)
      (Render.forLoopElse config iterable binding body otherwise) fun _ => True := by
  refine (h.forLoop hV hv binding hbody).bind fun visited _ => ?_
  cases visited with
  | true => exact alike_pure trivial
  | false => exact h.withFrame hotherwise

/-! ## Fetching templates -/

theorem resolveName (name : String) :
    P.Alike (Render.resolveName config name) (Render.resolveName config name) fun _ => True :=
  alike_read fun _ _ hab => ⟨congrArg _ (h.looks hab).template, trivial⟩

omit h in
theorem selectFrom (hfetch : ∀ name, P.Alike (Render.getTemplate config name)
    (Render.getTemplate config name) V.Template) (all : List String) : ∀ names : List String,
    P.Alike (Render.selectFrom config all names) (Render.selectFrom config all names)
      fun found => V.Template found.2
  | [] => alike_fail _
  | name :: rest => by
    refine (hfetch name).attempt.bind fun r hr => ?_
    cases r with
    | ok t => exact alike_pure (hr t rfl)
    | error error =>
      dsimp only
      split
      · exact selectFrom hfetch all rest
      · exact alike_fail error

section
omit h
variable (hfetch : ∀ name, P.Alike (Render.getTemplate config name)
  (Render.getTemplate config name) V.Template)
variable (hnotify : ∀ n, P.Alike (Render.notify n) (Render.notify n) fun _ => True)
include hfetch hnotify

theorem getOptional (name : String) (ignoreMissing : Bool) :
    P.Alike (Render.getOptional config name ignoreMissing)
      (Render.getOptional config name ignoreMissing) fun found => ∀ t, found = some t →
        V.Template t := by
  refine (hfetch name).attempt.bind fun r hr => ?_
  cases r with
  | ok t =>
    refine alike_pure fun t' ht' => ?_
    cases ht'
    exact hr t rfl
  | error error =>
    dsimp only
    split
    · exact (hnotify _).bind fun _ _ => alike_pure fun _ ht => by cases ht
    · exact alike_fail error

theorem selectOptional (names : List String) (ignoreMissing : Bool) :
    P.Alike (Render.selectOptional config names ignoreMissing)
      (Render.selectOptional config names ignoreMissing) fun found => ∀ name t,
        found = some (name, t) → V.Template t := by
  refine (selectFrom hfetch names names).attempt.bind fun r hr => ?_
  cases r with
  | ok found =>
    refine alike_pure fun name t ht => ?_
    cases ht
    exact hr _ rfl
  | error error =>
    dsimp only
    split
    · exact (hnotify _).bind fun _ _ => alike_pure fun _ _ ht => by cases ht
    · exact alike_fail _

end

/-! ## Blocks -/

theorem registerBlock (name : String) {body : Body} (hbody : V.Code body) :
    P.Alike (Render.registerBlock name body) (Render.registerBlock name body) fun _ => True := by
  intro a b hab
  have hregister := h.register hab hbody name
  exact ⟨rfl, P.trans hregister (h.note (e := fun s => .notice (.registeredBlock name
    (s.session.blocks.depth name))) (P.rel hab hregister) fun _ => rfl), fun _ _ => trivial⟩

theorem registerAll : ∀ {blocks : List (String × Body)}, (∀ entry ∈ blocks, V.Code entry.2) →
    P.Alike (Render.registerAll blocks) (Render.registerAll blocks) fun _ => True
  | [], _ => alike_pure trivial
  | (name, _) :: _, hblocks =>
    (h.registerBlock name (hblocks _ (List.mem_cons_self ..))).bind fun _ _ =>
      registerAll fun entry hentry => hblocks entry (List.mem_cons_of_mem _ hentry)

theorem registerBlocks {t : Template} (ht : V.Template t) :
    P.Alike (Render.registerBlocks t) (Render.registerBlocks t) fun _ => True :=
  h.registerAll ht.blocks

theorem resolveBlock (name : String) (levelsUp : Nat) :
    P.Alike (Render.resolveBlock name levelsUp) (Render.resolveBlock name levelsUp) V.Code := by
  refine alike_read_bind fun a b hab => ?_
  rw [(h.looks hab).blocks]
  cases hres : b.session.blocks.resolve name levelsUp with
  | error cause => exact alike_fail _
  | ok body =>
    refine (h.notify _).bind fun _ _ => alike_pure ?_
    exact h.defined hab ((h.looks hab).blocks ▸ hres)

/-- The code that is run by a function handed in runs alike. -/
def Runs (P : Pairing) (V : Vocabulary) (invoke : Invoke) : Prop :=
  ∀ body, V.Code body → P.Alike (invoke body) (invoke body) fun _ => True

variable {invoke : Invoke} (hinvoke : Runs P V invoke)
include hinvoke

theorem evaluateBlock (name : String) (levelsUp : Nat) :
    P.Alike (Render.evaluateBlock invoke name levelsUp) (Render.evaluateBlock invoke name levelsUp)
      fun _ => True :=
  (h.resolveBlock name levelsUp).bind fun body hbody => (hinvoke body hbody).bracket (h.block _)

theorem evaluateBlockLevel (name : String) (level : Int) :
    P.Alike (Render.evaluateBlockLevel invoke name level)
      (Render.evaluateBlockLevel invoke name level) fun _ => True := by
  unfold Render.evaluateBlockLevel
  split
  · exact h.evaluateBlock hinvoke name _
  · exact alike_fail _

theorem superBlock :
    P.Alike (Render.superBlock invoke) (Render.superBlock invoke) fun _ => True := by
  refine alike_read_bind fun a b hab => ?_
  rw [(h.looks hab).block]
  cases b.block with
  | some active => exact h.evaluateBlock hinvoke active.name (active.levelsUp + 1)
  | none => exact alike_fail _

/-! ## Other templates -/

theorem runSetup {t : Template} (ht : V.Template t) :
    P.Alike (Render.runSetup invoke t) (Render.runSetup invoke t) fun _ => True := by
  unfold Render.runSetup
  cases hsetup : t.setup with
  | some setup => exact hinvoke setup (ht.setup setup hsetup)
  | none => exact h.registerBlocks ht

theorem runTemplate {t : Template} (ht : V.Template t) :
    P.Alike (Render.runTemplate invoke t) (Render.runTemplate invoke t) fun _ => True :=
  (h.runSetup hinvoke ht).bind fun _ _ => hinvoke _ ht.root

omit hinvoke in
theorem asTemplate (name : String) (reach : Reach) {m n : Render α} (hm : P.Alike m n Q) :
    P.Alike (Render.asTemplate config name reach m) (Render.asTemplate config name reach n) Q := by
  have hbracket := hm.bracket (h.template name reach)
  intro a b hab
  exact ((h.noteOf (e := fun s => .notice (.derivingSession s.session.template name reach))
    fun _ => rfl).bind fun _ _ => hbracket) a b hab

theorem extendTemplate (name : String) :
    P.Alike (Render.extendTemplate config invoke name) (Render.extendTemplate config invoke name)
      fun _ => True :=
  (h.resolveName name).bind fun resolved _ => (h.fetch resolved).bind fun _ ht =>
    h.asTemplate resolved .extending (h.runTemplate hinvoke ht)

theorem includeTemplate (name : String) (ignoreMissing : Bool) :
    P.Alike (Render.includeTemplate config invoke name ignoreMissing)
      (Render.includeTemplate config invoke name ignoreMissing) fun _ => True := by
  refine (h.resolveName name).bind fun resolved _ =>
    (getOptional h.fetch h.notify resolved ignoreMissing).bind fun found hfound => ?_
  cases found with
  | some t => exact h.asTemplate resolved .including (h.runTemplate hinvoke (hfound t rfl))
  | none => exact alike_pure trivial

theorem includeFirstOf (names : List String) (ignoreMissing : Bool) :
    P.Alike (Render.includeFirstOf config invoke names ignoreMissing)
      (Render.includeFirstOf config invoke names ignoreMissing) fun _ => True := by
  refine alike_read_bind fun a b hab => ?_
  rw [(h.looks hab).template]
  refine (selectOptional h.fetch h.notify _ ignoreMissing).bind fun found hfound => ?_
  match found with
  | some (resolved, t) =>
    exact h.asTemplate resolved .including (h.runTemplate hinvoke (hfound resolved t rfl))
  | none => exact alike_pure trivial

theorem importTemplate (hV : V.Closed config) (name : String) :
    P.Alike (Render.importTemplate config invoke name) (Render.importTemplate config invoke name)
      V.value := by
  refine (h.resolveName name).bind fun resolved _ => (h.fetch resolved).bind fun t ht => ?_
  refine h.asTemplate resolved .importing ?_
  refine (h.captureText (h.runTemplate hinvoke ht)).bind fun body hbody =>
    alike_read fun a b hab => ⟨?_, hV.module (h.exported hab) hbody⟩
  rw [Session.toModule, Session.toModule, (h.looks hab).exports]

theorem fromImport (hV : V.Closed config) (name : String) (items : List (String × String)) :
    P.Alike (Render.fromImport config invoke name items)
      (Render.fromImport config invoke name items) fun _ => True := by
  refine (h.importTemplate hinvoke hV name).bind fun v hv => h.assignAll fun entry hentry => ?_
  obtain ⟨item, -, rfl⟩ := List.mem_map.mp hentry
  exact hV.attr hv item.1

end Sound
end Pairing
end Templating
