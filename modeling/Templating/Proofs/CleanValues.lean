import Templating.Code
import Templating.Proofs.EscapedText
import Templating.Proofs.Tables
import Templating.Value.Instance

/-!
# Clean values

A text is clean if none of `< > ' "` stands in it and every ampersand begins one
of the five entities (`Entity.clean_iff`).  A value is clean if all the text in
it that would be written without escaping is: markup, the output of modules, and
the text of objects that call it safe, however deep they stand (`Value.Clean`).
Plain text may be anything.

Escaping makes clean text of any clean value, and nothing that template code does
with clean values makes one that is not, except to vouch for a text that nobody
looked at.
-/
namespace Templating

/-! ## Clean values -/

namespace Value

mutual

/-- Whether all text in a value that is written without escaping is clean. -/
def Clean : Value → Prop
  | markup m => Entity.Clean m.text.toList
  | list items => CleanAll items
  | map ⟨_, _, entries⟩ => CleanEntries entries
  | module _ ⟨_, _, exports⟩ body => CleanEntries exports ∧ Entity.Clean body.toList
  | object _ _ shown isSafe ⟨_, _, attributes⟩ =>
    (isSafe = true → Entity.Clean shown.toList) ∧ CleanEntries attributes
  | _ => True

/-- Whether several values are clean. -/
def CleanAll : List Value → Prop
  | [] => True
  | v :: rest => Clean v ∧ CleanAll rest

/-- Whether the values of several entries are clean. -/
def CleanEntries : {names : List String} → Table.Row Value names → Prop
  | [], .nil => True
  | _ :: _, .cons v rest => Clean v ∧ CleanEntries rest

end

theorem cleanAll_iff (items : List Value) : CleanAll items ↔ ∀ v ∈ items, v.Clean := by
  induction items with
  | nil => simp [CleanAll]
  | cons v rest ih => rw [CleanAll, ih, List.forall_mem_cons]

theorem cleanEntries_iff {names : List String} (row : Table.Row Value names) :
    CleanEntries row ↔ ∀ entry ∈ row.entries, entry.2.Clean := by
  induction row with
  | nil => simp [CleanEntries, Table.Row.entries]
  | cons v rest ih => rw [CleanEntries, ih, Table.Row.entries, List.forall_mem_cons]

variable {v w : Value}

/-- A text that is safe as it is, is clean. -/
theorem Clean.rendered (h : v.Clean) (hsafe : v.rendered.isSafe = true) :
    Entity.Clean v.rendered.text.toList := by
  cases v with
  | markup m => exact h
  | module name exports body => exact h.2
  | object id typeName shown isSafe attributes => exact h.1 hsafe
  | _ => cases hsafe

/-- What is written with escaping on is clean. -/
theorem Clean.finalize (h : v.Clean) : Entity.Clean (v.finalize true).toList := by
  unfold Value.finalize
  rw [Bool.true_and]
  by_cases hsafe : v.rendered.isSafe = true
  · rw [hsafe]
    exact h.rendered hsafe
  · rw [Bool.eq_false_iff.mpr hsafe]
    exact Entity.clean_escape _

theorem Clean.escape (h : v.Clean) : (markup v.escape).Clean := by
  unfold Value.escape
  split
  · next hsafe => exact h.rendered hsafe
  · exact Entity.clean_escape _

/-! ## Reaching into clean values -/

/-- What a table of clean values answers is clean. -/
theorem clean_getD {t : Table Value} (h : CleanEntries t.row) (name : String) :
    ((t.get? name).getD (undefined name)).Clean := by
  cases hget : t.get? name with
  | none => trivial
  | some v => exact (cleanEntries_iff _).mp h _ (Table.mem_entries_of_get? hget)

theorem clean_loopAttr (c : LoopContext) (name : String) : (c.attr name).Clean := by
  unfold LoopContext.attr
  split <;> try trivial
  split <;> trivial

theorem Clean.attr (h : v.Clean) (name : String) : (v.attr name).Clean := by
  cases v with
  | map entries => exact clean_getD h name
  | module _ exports _ => exact clean_getD h.1 name
  | object _ _ _ _ attributes => exact clean_getD h.2 name
  | loop _ context => exact clean_loopAttr context name
  | _ => trivial

theorem Clean.item (h : v.Clean) (w : Value) : (v.item w).Clean := by
  unfold Value.item
  split
  · next items i =>
    cases helement : elementAt? items i with
    | none => trivial
    | some a => exact (cleanAll_iff items).mp h a (mem_of_elementAt? helement)
  · next s i => cases elementAt? s.toList i <;> trivial
  · exact h.attr _
  · exact h.attr _
  · exact h.attr _
  · exact h.attr _
  · trivial

/-- The elements of a clean value are clean. -/
theorem Clean.sequence (h : v.Clean) {items : List Value} (hitems : v.sequence? = some items) :
    ∀ w ∈ items, w.Clean := by
  cases v with
  | list items' =>
    cases hitems
    exact (cleanAll_iff _).mp h
  | map entries =>
    cases hitems
    intro w hw
    obtain ⟨key, -, rfl⟩ := List.mem_map.mp hw
    trivial
  | text s =>
    cases hitems
    intro w hw
    obtain ⟨c, -, rfl⟩ := List.mem_map.mp hw
    trivial
  | _ => cases hitems

theorem Clean.itemsOf (h : v.Clean) {items : List Value}
    (hitems : Iteration.itemsOf v = .ok items) : ∀ w ∈ items, w.Clean := by
  unfold Iteration.itemsOf at hitems
  split at hitems
  · cases hitems
    exact fun w hw => absurd hw List.not_mem_nil
  · split at hitems
    · next hsequence =>
      cases hitems
      exact h.sequence hsequence
    · cases hitems

theorem Clean.callMethod {name : String} {arguments : List Value}
    (harguments : ∀ a ∈ arguments, a.Clean) (hcall : v.callMethod name arguments = .ok w) :
    w.Clean := by
  unfold Value.callMethod at hcall
  split at hcall
  · unfold LoopContext.cycle at hcall
    split at hcall
    · next hitem =>
      cases hcall
      exact harguments _ (List.mem_of_getElem? hitem)
    · cases hcall
  · cases hcall

/-! ## Taking apart -/

theorem clean_padding (names : List String) : ∀ w ∈ Binding.padding names, w.Clean := by
  intro w hw
  obtain ⟨name, -, rfl⟩ := List.mem_map.mp hw
  trivial

theorem clean_andThen {first second : Unpacked} (hfirst : ∀ w ∈ first.values, w.Clean)
    (hsecond : ∀ w ∈ second.values, w.Clean) : ∀ w ∈ (first.andThen second).values, w.Clean := by
  intro w hw
  unfold Unpacked.andThen at hw
  split at hw
  · exact hfirst w hw
  · rcases List.mem_append.mp hw with hw | hw
    · exact hfirst w hw
    · exact hsecond w hw

mutual

theorem Clean.unpack (settings : Unpacking) : ∀ (binding : Binding) {v : Value}, v.Clean →
    ∀ w ∈ (binding.unpack settings v).values, w.Clean
  | .name _, v, h, w, hw => by
    rw [Binding.unpack, Unpacked.of, List.mem_singleton] at hw
    rw [hw]
    exact h
  | .tuple targets, v, h, w, hw => by
    unfold Binding.unpack at hw
    split at hw
    · split at hw
      · exact clean_padding _ w hw
      · exact absurd hw List.not_mem_nil
    · next items hitems =>
      split at hw
      · exact absurd hw List.not_mem_nil
      · exact Clean.unpackAll settings targets (h.sequence hitems) w hw

theorem Clean.unpackAll (settings : Unpacking) : ∀ (targets : List Binding) {items : List Value},
    (∀ v ∈ items, v.Clean) → ∀ w ∈ (Binding.unpackAll settings targets items).values, w.Clean
  | [], _, _, _, hw => absurd hw List.not_mem_nil
  | _ :: rest, [], h, w, hw =>
    clean_andThen (clean_padding _) (Clean.unpackAll settings rest h) w hw
  | target :: rest, item :: _, h, w, hw =>
    clean_andThen (Clean.unpack settings target (h item (List.mem_cons_self ..)))
      (Clean.unpackAll settings rest fun v hv => h v (List.mem_cons_of_mem _ hv)) w hw

end

/-! ## New instances -/

mutual

/-- New instances are as clean as the old ones. -/
theorem Clean.renew : ∀ (v : Value) (next : InstanceId), v.Clean → (v.renew next).1.Clean
  | .list items, next, h => Clean.renewItems items next h
  | .map ⟨_, _, entries⟩, next, h => Clean.renewEntries entries next h
  | .module _ ⟨_, _, exports⟩ _, next, h => ⟨Clean.renewEntries exports next h.1, h.2⟩
  | .object _ _ _ _ ⟨_, _, attributes⟩, next, h =>
    ⟨h.1, Clean.renewEntries attributes (next + 1) h.2⟩
  | .markup _, _, h => h
  | .undefined _, _, _ | .null, _, _ | .bool _, _, _ | .int _, _, _ | .float _, _, _ |
    .text _, _, _ | .loop _ _, _, _ => trivial

theorem Clean.renewItems : ∀ (items : List Value) (next : InstanceId), CleanAll items →
    CleanAll (Value.renewItems items next).1
  | [], _, _ => trivial
  | item :: rest, next, h => ⟨Clean.renew item next h.1, Clean.renewItems rest _ h.2⟩

theorem Clean.renewEntries : ∀ {names : List String} (entries : Table.Row Value names)
    (next : InstanceId), CleanEntries entries → CleanEntries (Value.renewEntries entries next).1
  | [], .nil, _, _ => trivial
  | _ :: _, .cons v rest, next, h => ⟨Clean.renew v next h.1, Clean.renewEntries rest _ h.2⟩

end

end Value

/-! ## Operators -/

/-- Whether an operation vouches for a text without looking at it. -/
def UnaryOp.trusts : UnaryOp → Bool
  | trust | trustIfEscaping => true
  | _ => false

/-- Every other operation makes clean values of clean ones. -/
theorem UnaryOp.clean_apply {op : UnaryOp} (hop : op.trusts = false) (autoescape : Bool)
    {v : Value} (h : v.Clean) : (op.apply autoescape v).Clean := by
  cases op with
  | attr name => exact h.attr name
  | escape => exact h.escape
  | sequence =>
    show (Value.ofOption (v.sequence?.map Value.list)).Clean
    cases hitems : v.sequence? with
    | none => trivial
    | some items => exact (Value.cleanAll_iff items).mpr (h.sequence hitems)
  | rendered => exact ⟨trivial, trivial, trivial⟩
  | trust | trustIfEscaping => cases hop
  | finalize _ | isTruthy | isFalsy | isUndefined | toText | typeName => trivial

theorem BinaryOp.clean_apply (op : BinaryOp) {v : Value} (h : v.Clean) (w : Value) :
    (op.apply v w).Clean := by
  cases op with
  | item => exact h.item w
  | equals => trivial
  | samePositions =>
    unfold BinaryOp.apply
    dsimp only
    split <;> trivial

end Templating
