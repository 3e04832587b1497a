import Templating.Config.Catalogue
import Templating.Loop.Iteration
import Templating.Code
import Templating.Scope
import Templating.Value.Instance

/-!
# Instances under other numbers

Loops and host objects carry numbers only to be told apart.  A `Shift` gives the
instances from a certain number on others, further up, and leaves those before it
alone.  Whatever is done with values is done in the same way with the shifted
ones: their texts are the same, and so are the answers to questions about them;
what is found in them, or made of them, is found shifted.

The counter of instances is at or above the number from which a shift begins, so
new instances are shifted too (`Value.renew_shifted`).  The filters and tests of
the host have to go along with this (`Config.IgnoresNumbers`); all those of the
catalogue do.
-/
namespace Templating

/-- Instances numbered `first` or higher get numbers that are higher by
`distance`. -/
structure Shift where
  first : Nat
  distance : Nat

namespace Shift

variable (σ : Shift) {id other : Nat}

/-- The number that an instance gets. -/
def apply (id : Nat) : Nat :=
  if id < σ.first then id else id + σ.distance

theorem apply_of_le (h : σ.first ≤ id) : σ.apply id = id + σ.distance := by
  rw [apply, if_neg (Nat.not_lt.mpr h)]

theorem apply_of_lt (h : id < σ.first) : σ.apply id = id := by
  rw [apply, if_pos h]

/-- Different instances keep different numbers. -/
theorem apply_eq_iff : σ.apply id = σ.apply other ↔ id = other := by
  unfold apply
  constructor
  · intro h
    split at h <;> split at h <;> omega
  · rintro rfl
    rfl

@[simp] theorem apply_beq (id other : Nat) :
    (σ.apply id == σ.apply other) = (id == other) := by
  rw [Bool.eq_iff_iff, beq_iff_eq, beq_iff_eq, σ.apply_eq_iff]

end Shift

/-! ## Tables -/

namespace Table

variable {α β : Type} (f : α → β) (t : Table α)

@[simp] theorem get?_map (name : String) : (t.map f).get? name = (t.get? name).map f := by
  rw [get?, get?, entries_map]
  induction t.entries with
  | nil => rfl
  | cons entry rest ih =>
    rw [List.map_cons, lookup_cons_ite, lookup_cons_ite, ih]
    split <;> rfl

@[simp] theorem keys_map : (t.map f).keys = t.keys := rfl

@[simp] theorem size_map : (t.map f).size = t.size := rfl

theorem insert_map (name : String) (a : α) :
    (t.map f).insert name (f a) = (t.insert name a).map f := by
  refine eq_of_entries ?_
  rw [entries_insert, entries_map, entries_map, entries_insert]
  induction t.entries with
  | nil => rfl
  | cons entry rest ih =>
    by_cases h : entry.1 = name
    · simp [insertEntry, h]
    · simp [insertEntry, h, ih]

theorem ofList_map (entries : List (String × α)) :
    ofList (entries.map fun entry => (entry.1, f entry.2)) = (ofList entries).map f := by
  have hfold (t : Table α) :
      (entries.map fun entry => (entry.1, f entry.2)).foldl
        (fun t entry => t.insert entry.1 entry.2) (t.map f) =
      (entries.foldl (fun t entry => t.insert entry.1 entry.2) t).map f := by
    induction entries generalizing t with
    | nil => rfl
    | cons entry rest ih =>
      rw [List.map_cons, List.foldl_cons, List.foldl_cons, insert_map, ih]
  exact hfold empty

end Table

/-! ## Contexts of loops -/

namespace LoopContext

variable (σ : Shift) (c : LoopContext)

/-- The context with the loops around it under other numbers. -/
def shifted : LoopContext :=
  ⟨c.position, c.enclosing.map fun entry => (σ.apply entry.1, entry.2)⟩

@[simp] theorem index0_shifted : (c.shifted σ).index0 = c.index0 := rfl

@[simp] theorem positions_shifted : (c.shifted σ).positions = c.positions := by
  simp only [positions, shifted, List.map_map]
  rfl

end LoopContext

/-- An instance of a loop under another number. -/
def Shift.onLoop (σ : Shift) (entry : InstanceId × LoopContext) : InstanceId × LoopContext :=
  (σ.apply entry.1, entry.2.shifted σ)

namespace LoopContext

variable (σ : Shift)

@[simp] theorem parent?_shifted (c : LoopContext) :
    (c.shifted σ).parent? = c.parent?.map σ.onLoop := by
  obtain ⟨position, enclosing⟩ := c
  cases enclosing <;> rfl

theorem ofPosition_shifted (index0 length : Nat) (parent : Option (InstanceId × LoopContext)) :
    (ofPosition index0 length parent).shifted σ =
      ofPosition index0 length (parent.map σ.onLoop) := by
  cases parent <;> rfl

end LoopContext

/-! ## Values -/

namespace Value

variable (σ : Shift)

mutual

/-- The value with the instances in it under other numbers. -/
def shifted : Value → Value
  | undefined name => undefined name
  | null => null
  | bool b => bool b
  | int i => int i
  | float x => float x
  | text s => text s
  | markup m => markup m
  | list items => list (shiftedItems items)
  | map ⟨names, hnames, entries⟩ => map ⟨names, hnames, shiftedEntries entries⟩
  | loop id context => loop (σ.apply id) (context.shifted σ)
  | module name ⟨names, hnames, exports⟩ body =>
    module name ⟨names, hnames, shiftedEntries exports⟩ body
  | object id typeName shown isSafe ⟨names, hnames, attributes⟩ =>
    object (σ.apply id) typeName shown isSafe ⟨names, hnames, shiftedEntries attributes⟩

/-- The items with the instances in them under other numbers. -/
def shiftedItems : List Value → List Value
  | [] => []
  | item :: rest => shifted item :: shiftedItems rest

/-- The entries with the instances in them under other numbers. -/
def shiftedEntries : {names : List String} → Table.Row Value names → Table.Row Value names
  | [], .nil => .nil
  | _ :: _, .cons v rest => .cons (shifted v) (shiftedEntries rest)

end

theorem shiftedItems_eq (items : List Value) : shiftedItems σ items = items.map (shifted σ) := by
  induction items with
  | nil => rfl
  | cons item rest ih => rw [shiftedItems, ih, List.map_cons]

theorem shiftedEntries_eq {names : List String} (entries : Table.Row Value names) :
    shiftedEntries σ entries = entries.map (shifted σ) := by
  induction entries with
  | nil => rfl
  | cons v rest ih => rw [shiftedEntries, ih, Table.Row.map]

@[simp] theorem shifted_list (items : List Value) :
    (list items).shifted σ = list (items.map (shifted σ)) := by
  rw [shifted, shiftedItems_eq]

@[simp] theorem shifted_map (entries : Table Value) :
    (map entries).shifted σ = map (entries.map (shifted σ)) := by
  rw [shifted, shiftedEntries_eq]
  rfl

@[simp] theorem shifted_module (name : String) (exports : Table Value) (body : String) :
    (module name exports body).shifted σ = module name (exports.map (shifted σ)) body := by
  rw [shifted, shiftedEntries_eq]
  rfl

@[simp] theorem shifted_object (id : InstanceId) (typeName shown : String) (isSafe : Bool)
    (attributes : Table Value) :
    (object id typeName shown isSafe attributes).shifted σ =
      object (σ.apply id) typeName shown isSafe (attributes.map (shifted σ)) := by
  rw [shifted, shiftedEntries_eq]
  rfl

/-! ### What is told of a value -/

variable (v : Value)

@[simp] theorem isUndefined_shifted : (v.shifted σ).isUndefined = v.isUndefined := by
  cases v <;> rfl

@[simp] theorem typeName_shifted : (v.shifted σ).typeName = v.typeName := by
  cases v <;> rfl

@[simp] theorem isTruthy_shifted : (v.shifted σ).isTruthy = v.isTruthy := by
  cases v with
  | list items => simp [isTruthy]
  | map entries => simp [isTruthy]
  | _ => rfl

mutual

@[simp] theorem toText_shifted : ∀ v : Value, (v.shifted σ).toText = v.toText
  | list items => by rw [shifted, toText, toText, toTexts_shifted items]
  | undefined _ | null | bool _ | int _ | float _ | text _ | markup _ | map _ | loop _ _
  | module _ _ _ | object _ _ _ _ _ => rfl

theorem toTexts_shifted : ∀ items : List Value, toTexts (shiftedItems σ items) = toTexts items
  | [] => rfl
  | item :: rest => by
    rw [shiftedItems, toTexts, toTexts, toText_shifted item, toTexts_shifted rest]

end

@[simp] theorem rendered_shifted : (v.shifted σ).rendered = v.rendered := by
  cases v with
  | list items => exact congrArg (RenderedText.mk · false) (toText_shifted σ (list items))
  | _ => rfl

@[simp] theorem escape_shifted : (v.shifted σ).escape = v.escape := by
  rw [escape, escape, rendered_shifted]

@[simp] theorem trust_shifted : (v.shifted σ).trust = v.trust := by
  rw [trust, trust, rendered_shifted]

@[simp] theorem finalize_shifted (autoescape : Bool) :
    (v.shifted σ).finalize autoescape = v.finalize autoescape := by
  rw [finalize, finalize, rendered_shifted]

mutual

/-- Shifted values are equal exactly if the values are. -/
@[simp] theorem equals_shifted : ∀ v w : Value,
    (v.shifted σ).equals (w.shifted σ) = v.equals w
  | list as, w => by
    cases w <;> simp [shifted, equals, equalItems_shifted as]
  | map ⟨_, _, as⟩, w => by
    cases w with
    | map bs =>
      rw [shifted_map σ bs, shifted, equals, equals, Table.size_map, equalEntries_shifted as bs]
    | _ => simp [shifted, equals]
  | module name ⟨_, _, as⟩ body, w => by
    cases w with
    | module other bs body' =>
      rw [shifted_module σ other bs, shifted, equals, equals, Table.size_map,
        equalEntries_shifted as bs]
    | _ => simp [shifted, equals]
  | undefined _, w | null, w | bool _, w | int _, w | float _, w | text _, w | markup _, w
  | loop _ _, w | object _ _ _ _ _, w => by
    cases w <;> simp [shifted, equals]

theorem equalItems_shifted : ∀ as bs : List Value,
    equalItems (shiftedItems σ as) (shiftedItems σ bs) = equalItems as bs
  | [], bs => by cases bs <;> rfl
  | a :: as, [] => rfl
  | a :: as, b :: bs => by
    rw [shiftedItems, shiftedItems, equalItems, equalItems, equals_shifted a b,
      equalItems_shifted as bs]

theorem equalEntries_shifted : ∀ {names : List String} (as : Table.Row Value names)
    (bs : Table Value),
    equalEntries (shiftedEntries σ as) (bs.map (shifted σ)) = equalEntries as bs
  | [], .nil, _ => rfl
  | key :: _, .cons a rest, bs => by
    rw [shiftedEntries, equalEntries, equalEntries, equalEntries_shifted rest bs, Table.get?_map]
    cases bs.get? key with
    | none => rfl
    | some b => simp only [Option.map_some, equals_shifted a b]

end

/-! ### What is found in a value -/

theorem sequence?_shifted :
    (v.shifted σ).sequence? = v.sequence?.map fun items => items.map (shifted σ) := by
  cases v with
  | list items => simp [sequence?]
  | map entries =>
    rw [shifted_map, sequence?, sequence?, Table.keys_map, Option.map_some, List.map_map]
    rfl
  | text s =>
    rw [shifted, sequence?, Option.map_some, List.map_map]
    rfl
  | _ => rfl

theorem getD_shifted (found : Option Value) (name : String) :
    (found.getD (undefined name)).shifted σ =
      (found.map (shifted σ)).getD (undefined name) := by
  cases found <;> rfl

theorem attr_loop_shifted (context : LoopContext) (name : String) :
    (context.attr name).shifted σ = (context.shifted σ).attr name := by
  unfold LoopContext.attr
  split
  case h_8 =>
    rw [LoopContext.parent?_shifted]
    cases context.parent? <;> rfl
  all_goals rfl

@[simp] theorem attr_shifted (name : String) :
    (v.attr name).shifted σ = (v.shifted σ).attr name := by
  cases v with
  | map entries => rw [shifted_map, attr, attr, getD_shifted, Table.get?_map]
  | module _ exports _ => rw [shifted_module, attr, attr, getD_shifted, Table.get?_map]
  | object _ _ _ _ attributes => rw [shifted_object, attr, attr, getD_shifted, Table.get?_map]
  | loop id context => exact attr_loop_shifted σ context name
  | _ => rfl

@[simp] theorem item_shifted (key : Value) :
    (v.item key).shifted σ = (v.shifted σ).item (key.shifted σ) := by
  have hmissing : (undefined key.toText).shifted σ = undefined (key.shifted σ).toText := by
    rw [toText_shifted]
    rfl
  cases v with
  | list items =>
    cases key with
    | int i => rw [shifted_list, shifted, item, item, getD_shifted, elementAt?_map]
    | _ => exact hmissing
  | text s =>
    cases key with
    | int i =>
      rw [shifted, shifted, item, getD_shifted, Option.map_map]
      rfl
    | _ => exact hmissing
  | map entries =>
    cases key with
    | text name => exact attr_shifted σ (map entries) name
    | _ => exact hmissing
  | module name exports body =>
    cases key with
    | text key => exact attr_shifted σ (module name exports body) key
    | _ => exact hmissing
  | loop id context =>
    cases key with
    | text name => exact attr_shifted σ (loop id context) name
    | _ => exact hmissing
  | object id typeName shown isSafe attributes =>
    cases key with
    | text name => exact attr_shifted σ (object id typeName shown isSafe attributes) name
    | _ => exact hmissing
  | _ => cases key <;> exact hmissing

theorem cycle_shifted (context : LoopContext) (items : List Value) :
    (context.shifted σ).cycle (items.map (shifted σ)) =
      (context.cycle items).map (shifted σ) := by
  rw [LoopContext.cycle, LoopContext.cycle, List.length_map, List.getElem?_map,
    LoopContext.index0_shifted]
  cases items[context.index0 % items.length]? <;> rfl

theorem callMethod_shifted (name : String) (arguments : List Value) :
    (v.shifted σ).callMethod name (arguments.map (shifted σ)) =
      (v.callMethod name arguments).map (shifted σ) := by
  cases v with
  | loop id context =>
    by_cases hname : name = "cycle"
    · subst hname
      exact cycle_shifted σ context arguments
    · have herror (id : InstanceId) (context : LoopContext) (arguments : List Value) :
          (loop id context).callMethod name arguments = .error (.type
            ("a value with a `" ++ name ++ "` method") "loop" "calling a method") := by
        simp [callMethod, hname, typeName]
      rw [shifted, herror, herror]
      rfl
  | _ => rfl

end Value

/-! ### What is made of a value -/

theorem UnaryOp.apply_shifted (op : UnaryOp) (autoescape : Bool) (σ : Shift) (v : Value) :
    (op.apply autoescape v).shifted σ = op.apply autoescape (v.shifted σ) := by
  cases op with
  | attr name => exact Value.attr_shifted σ v name
  | trustIfEscaping =>
    simp only [apply, Value.isUndefined_shifted, Value.trust_shifted]
    split <;> rfl
  | sequence =>
    rw [apply, apply, Value.sequence?_shifted]
    cases v.sequence? with
    | none => rfl
    | some items => exact Value.shifted_list σ items
  | rendered => simp [apply, Value.shifted]
  | _ => simp [apply, Value.shifted]

theorem BinaryOp.apply_shifted (op : BinaryOp) (σ : Shift) (v w : Value) :
    (op.apply v w).shifted σ = op.apply (v.shifted σ) (w.shifted σ) := by
  cases op with
  | item => exact Value.item_shifted σ v w
  | equals =>
    rw [apply, apply, Value.equals_shifted]
    rfl
  | samePositions =>
    cases v with
    | loop _ c =>
      cases w with
      | loop _ d => simp [apply, Value.shifted, LoopContext.samePositions]
      | _ => rfl
    | _ => rfl

/-! ### Taking apart and looping -/

/-- What was taken out, with the instances in it under other numbers. -/
def Unpacked.shifted (σ : Shift) (u : Unpacked) : Unpacked :=
  ⟨u.values.map (Value.shifted σ), u.error⟩

theorem Unpacked.toExcept_shifted (σ : Shift) (u : Unpacked) :
    (u.shifted σ).toExcept = u.toExcept.map fun values => values.map (Value.shifted σ) := by
  unfold Unpacked.toExcept Unpacked.shifted
  cases u.error <;> rfl

theorem Unpacked.andThen_shifted (σ : Shift) (first second : Unpacked) :
    (first.andThen second).shifted σ = (first.shifted σ).andThen (second.shifted σ) := by
  obtain ⟨values, error⟩ := first
  cases error with
  | some error => rfl
  | none => simp [andThen, shifted]

namespace Binding

variable (σ : Shift) (settings : Unpacking)

theorem padding_shifted (names : List String) :
    (Unpacked.of (padding names)).shifted σ = .of (padding names) := by
  simp [Unpacked.shifted, Unpacked.of, padding, Value.shifted]

mutual

theorem unpack_shifted : ∀ (binding : Binding) (v : Value),
    binding.unpack settings (v.shifted σ) = (binding.unpack settings v).shifted σ
  | name _, v => rfl
  | tuple targets, v => by
    rw [unpack, unpack, Value.sequence?_shifted]
    cases v.sequence? with
    | none =>
      simp only [Option.map_none, Value.typeName_shifted]
      split
      · exact (padding_shifted σ _).symm
      · rfl
    | some items =>
      simp only [Option.map_some, List.length_map]
      split
      · rfl
      · exact unpackAll_shifted targets items

theorem unpackAll_shifted : ∀ (targets : List Binding) (items : List Value),
    unpackAll settings targets (items.map (Value.shifted σ)) =
      (unpackAll settings targets items).shifted σ
  | [], _ => by
    rw [unpackAll, unpackAll]
    rfl
  | target :: rest, [] => by
    rw [List.map_nil, unpackAll, Unpacked.andThen_shifted, padding_shifted,
      ← unpackAll_shifted rest []]
    rfl
  | target :: rest, item :: items => by
    rw [List.map_cons, unpackAll, unpackAll, Unpacked.andThen_shifted, unpack_shifted target item,
      unpackAll_shifted rest items]

end

end Binding

theorem Iteration.itemsOf_of_defined {iterable : Value} (h : iterable.isUndefined = false) :
    itemsOf iterable =
      match iterable.sequence? with
      | some items => .ok items
      | none =>
        .error (.type "a list, map or string" iterable.typeName "iterating in a loop") := by
  cases iterable with
  | undefined name => cases h
  | _ => rfl

theorem Iteration.itemsOf_shifted (σ : Shift) (iterable : Value) :
    itemsOf (iterable.shifted σ) =
      (itemsOf iterable).map fun items => items.map (Value.shifted σ) := by
  cases h : iterable.isUndefined with
  | true =>
    cases iterable with
    | undefined name => rfl
    | _ => cases h
  | false =>
    have h' : (iterable.shifted σ).isUndefined = false := by rw [Value.isUndefined_shifted, h]
    rw [itemsOf_of_defined h, itemsOf_of_defined h', Value.sequence?_shifted,
      Value.typeName_shifted]
    cases iterable.sequence? <;> rfl

/-! ### New instances -/

namespace LoopContext

theorem renumber_shifted (σ : Shift) : ∀ (enclosing : List (InstanceId × LoopPosition))
    {next : Nat}, σ.first ≤ next →
    renumber (next + σ.distance) enclosing =
      (renumber next enclosing).map fun entry => (σ.apply entry.1, entry.2)
  | [], _, _ => rfl
  | (id, position) :: rest, next, h => by
    have hrest := renumber_shifted σ rest (Nat.le_succ_of_le h)
    have hnext : next + σ.distance + 1 = next + 1 + σ.distance := Nat.add_right_comm ..
    rw [renumber, renumber, List.map_cons, σ.apply_of_le h, hnext, hrest]

theorem renew_shifted (σ : Shift) (c : LoopContext) {next : Nat} (h : σ.first ≤ next) :
    c.renew (next + σ.distance) = (c.renew next).shifted σ :=
  congrArg (LoopContext.mk c.position) (renumber_shifted σ c.enclosing h)

end LoopContext

namespace Value

variable (σ : Shift)

mutual

/-- New instances get shifted numbers if the counter is shifted. -/
theorem renew_shifted : ∀ (v : Value) {next : Nat}, σ.first ≤ next →
    v.renew (next + σ.distance) =
        ((v.renew next).1.shifted σ, (v.renew next).2 + σ.distance) ∧
      next ≤ (v.renew next).2
  | list items, next, h => by
    obtain ⟨heq, hle⟩ := renewItems_shifted items h
    refine ⟨?_, hle⟩
    rw [renew, renew, heq]
    rfl
  | map ⟨_, _, entries⟩, next, h => by
    obtain ⟨heq, hle⟩ := renewEntries_shifted entries h
    refine ⟨?_, hle⟩
    rw [renew, renew, heq]
    rfl
  | loop id context, next, h => by
    have hcontext := context.renew_shifted σ (Nat.le_succ_of_le h)
    have hnext : next + σ.distance + 1 = next + 1 + σ.distance := Nat.add_right_comm ..
    simp only [renew, shifted, σ.apply_of_le h, hnext, hcontext]
    exact ⟨congrArg (Prod.mk _) (Nat.add_right_comm ..), by omega⟩
  | module name ⟨_, _, exports⟩ body, next, h => by
    obtain ⟨heq, hle⟩ := renewEntries_shifted exports h
    refine ⟨?_, hle⟩
    rw [renew, renew, heq]
    rfl
  | object id typeName shown isSafe ⟨_, _, attributes⟩, next, h => by
    obtain ⟨heq, hle⟩ := renewEntries_shifted attributes (Nat.le_succ_of_le h)
    have hnext : next + σ.distance + 1 = next + 1 + σ.distance := Nat.add_right_comm ..
    refine ⟨?_, Nat.le_of_succ_le hle⟩
    simp only [renew, hnext, heq, shifted, σ.apply_of_le h]
  | undefined _, next, _ | null, next, _ | bool _, next, _ | int _, next, _ | float _, next, _
  | text _, next, _ | markup _, next, _ => ⟨rfl, Nat.le_refl next⟩

theorem renewItems_shifted : ∀ (items : List Value) {next : Nat}, σ.first ≤ next →
    renewItems items (next + σ.distance) =
        (shiftedItems σ (renewItems items next).1, (renewItems items next).2 + σ.distance) ∧
      next ≤ (renewItems items next).2
  | [], next, _ => ⟨rfl, Nat.le_refl next⟩
  | item :: rest, next, h => by
    obtain ⟨heq, hle⟩ := renew_shifted item h
    obtain ⟨hrest, hle'⟩ := renewItems_shifted rest (Nat.le_trans h hle)
    refine ⟨?_, Nat.le_trans hle hle'⟩
    simp only [renewItems, heq, hrest, shiftedItems]

theorem renewEntries_shifted : ∀ {names : List String} (entries : Table.Row Value names)
    {next : Nat}, σ.first ≤ next →
    renewEntries entries (next + σ.distance) =
        (shiftedEntries σ (renewEntries entries next).1,
          (renewEntries entries next).2 + σ.distance) ∧
      next ≤ (renewEntries entries next).2
  | [], .nil, next, _ => ⟨rfl, Nat.le_refl next⟩
  | _ :: _, .cons v rest, next, h => by
    obtain ⟨heq, hle⟩ := renew_shifted v h
    obtain ⟨hrest, hle'⟩ := renewEntries_shifted rest (Nat.le_trans h hle)
    refine ⟨?_, Nat.le_trans hle hle'⟩
    simp only [renewEntries, heq, hrest, shiftedEntries]

end

/-! ### Old instances -/

mutual

/-- All instances in the value have numbers below this one. -/
def Below (next : Nat) : Value → Prop
  | list items => ItemsBelow next items
  | map ⟨_, _, entries⟩ => EntriesBelow next entries
  | loop id context => id < next ∧ ∀ entry ∈ context.enclosing, entry.1 < next
  | module _ ⟨_, _, exports⟩ _ => EntriesBelow next exports
  | object id _ _ _ ⟨_, _, attributes⟩ => id < next ∧ EntriesBelow next attributes
  | _ => True

/-- All instances in the items have numbers below this one. -/
def ItemsBelow (next : Nat) : List Value → Prop
  | [] => True
  | item :: rest => item.Below next ∧ ItemsBelow next rest

/-- All instances in the entries have numbers below this one. -/
def EntriesBelow (next : Nat) : {names : List String} → Table.Row Value names → Prop
  | [], .nil => True
  | _ :: _, .cons v rest => v.Below next ∧ EntriesBelow next rest

end

mutual

/-- What was made before the first of the instances that are shifted stays as it
is. -/
theorem shifted_of_below : ∀ {v : Value}, v.Below σ.first → v.shifted σ = v
  | list items, h => congrArg list (shiftedItems_of_below h)
  | map ⟨names, hnames, _⟩, h =>
    congrArg (fun entries => map ⟨names, hnames, entries⟩) (shiftedEntries_of_below h)
  | loop id ⟨position, enclosing⟩, h => by
    have henclosing : enclosing.map (fun entry => (σ.apply entry.1, entry.2)) = enclosing := by
      refine (List.map_congr_left fun entry hentry => ?_).trans (List.map_id enclosing)
      exact congrArg (·, entry.2) (σ.apply_of_lt (h.2 entry hentry))
    rw [shifted, LoopContext.shifted, henclosing, σ.apply_of_lt h.1]
  | module name ⟨names, hnames, _⟩ body, h =>
    congrArg (fun entries => module name ⟨names, hnames, entries⟩ body) (shiftedEntries_of_below h)
  | object id typeName shown isSafe ⟨_, _, attributes⟩, h => by
    rw [shifted, σ.apply_of_lt h.1, shiftedEntries_of_below h.2]
  | undefined _, _ | null, _ | bool _, _ | int _, _ | float _, _ | text _, _ | markup _, _ => rfl

theorem shiftedItems_of_below : ∀ {items : List Value}, ItemsBelow σ.first items →
    shiftedItems σ items = items
  | [], _ => rfl
  | item :: rest, h => by
    rw [shiftedItems, shifted_of_below h.1, shiftedItems_of_below h.2]

theorem shiftedEntries_of_below : ∀ {names : List String} {entries : Table.Row Value names},
    EntriesBelow σ.first entries → shiftedEntries σ entries = entries
  | [], .nil, _ => rfl
  | _ :: _, .cons v rest, h => by
    rw [shiftedEntries, shifted_of_below h.1, shiftedEntries_of_below h.2]

end

end Value

/-! ## Filters and tests -/

/-- The filters and tests cannot tell how the instances are numbered that are
made from this number on. -/
structure Config.IgnoresNumbers (config : Config) (first : Nat) : Prop where
  filter : ∀ distance name v arguments,
    config.callFilter name (v.shifted ⟨first, distance⟩)
        (arguments.map (Value.shifted ⟨first, distance⟩)) =
      (config.callFilter name v arguments).map (Value.shifted ⟨first, distance⟩)
  test : ∀ distance name v arguments,
    config.callTest name (v.shifted ⟨first, distance⟩)
        (arguments.map (Value.shifted ⟨first, distance⟩)) =
      config.callTest name v arguments

theorem FilterKind.filter_shifted (kind : FilterKind) (σ : Shift) (v : Value)
    (arguments : List Value) :
    kind.filter (v.shifted σ) (arguments.map (Value.shifted σ)) =
      (kind.filter v arguments).map (Value.shifted σ) := by
  cases kind with
  | repeated =>
    cases arguments with
    | nil => rfl
    | cons count rest =>
      cases count with
      | int i =>
        simp only [filter, List.map_cons, Value.shifted, Value.toText_shifted]
        split <;> rfl
      | _ => rfl
  | fail =>
    cases arguments with
    | nil => rfl
    | cons reason rest => simp [filter, Except.map]
  | arguments => simp [filter, Except.map]
  | default =>
    simp only [filter, Value.isUndefined_shifted]
    split
    · cases arguments <;> rfl
    · rfl
  | _ => simp [filter, Except.map, Value.shifted]

theorem TestKind.test_shifted (kind : TestKind) (σ : Shift) (v : Value)
    (arguments : List Value) :
    kind.test (v.shifted σ) (arguments.map (Value.shifted σ)) = kind.test v arguments := by
  cases kind with
  | even =>
    cases v <;> rfl
  | equal =>
    cases arguments with
    | nil => rfl
    | cons other rest => simp [test]
  | _ => simp [test]

/-- What is taken from the catalogue cannot tell how instances are numbered. -/
theorem Config.ignoresNumbers_of_catalogue {config : Config}
    (hfilters : ∀ name filter, config.filters.get? name = some filter →
      ∃ kind : FilterKind, filter = kind.filter)
    (htests : ∀ name test, config.tests.get? name = some test →
      ∃ kind : TestKind, test = kind.test) (first : Nat) : config.IgnoresNumbers first where
  filter distance name v arguments := by
    unfold callFilter
    cases hfilter : config.filters.get? name with
    | none => rfl
    | some filter =>
      obtain ⟨kind, rfl⟩ := hfilters name filter hfilter
      exact kind.filter_shifted _ v arguments
  test distance name v arguments := by
    unfold callTest
    cases htest : config.tests.get? name with
    | none => rfl
    | some test =>
      obtain ⟨kind, rfl⟩ := htests name test htest
      exact kind.test_shifted _ v arguments

/-! ## Scopes -/

/-- A name bound to a value under other numbers. -/
def Shift.onBinding (σ : Shift) (binding : String × Value) : String × Value :=
  (binding.1, binding.2.shifted σ)

namespace Scope

variable {σ : Shift} {s t : Scope}

/-- The second scope shows what the first does, under other numbers. -/
def ShowsShifted (σ : Shift) (s t : Scope) : Prop :=
  ∀ name, t.get? name = (s.get? name).map (Value.shifted σ)

theorem ShowsShifted.lookup (h : s.ShowsShifted σ t) (name : String) :
    t.lookup name = (s.lookup name).shifted σ := by
  rw [Scope.lookup, Scope.lookup, h name, Value.getD_shifted]

theorem ShowsShifted.bind (h : s.ShowsShifted σ t) (bindings : List (String × Value)) :
    (s.bind bindings).ShowsShifted σ (t.bind (bindings.map σ.onBinding)) := by
  intro name
  have hentries : Table.ofList (bindings.map σ.onBinding) =
      (Table.ofList bindings).map (Value.shifted σ) := Table.ofList_map _ bindings
  rw [get?_bind, get?_bind, h name, hentries, Table.get?_map]
  cases (Table.ofList bindings).get? name <;> rfl

end Scope

end Templating
