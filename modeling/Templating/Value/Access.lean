import Templating.Error
import Templating.Value.Rendering

/-!
# Reaching into values

A value that can be iterated has a sequence: the items of a list, the keys of a
map, the characters of a text.  Attributes and items that do not exist are not
errors; they yield the undefined marker under the name that was asked for.
-/
namespace Templating
namespace Value

/-- The elements a value iterates over, if it can be iterated. -/
def sequence? : Value → Option (List Value)
  | list items => some items
  | map entries => some (entries.keys.map text)
  | text s => some (s.toList.map fun c => text c.toString)
  | _ => none

end Value

namespace LoopContext

/-- A field of a loop's context. -/
def attr (c : LoopContext) (name : String) : Value :=
  match name with
  | "index" => .ofSize c.index
  | "index0" => .ofSize c.index0
  | "revindex" => .ofSize c.revindex
  | "revindex0" => .ofSize c.revindex0
  | "first" => .bool c.isFirst
  | "last" => .bool c.isLast
  | "length" => .ofSize c.length
  | "parent" =>
    match c.parent? with
    | some (id, outer) => .loop id outer
    | none => .null
  | _ => .undefined name

/-- The item whose turn it is when the items take turns along the loop. -/
def cycle (c : LoopContext) (items : List Value) : Except RenderError Value :=
  match items[c.index0 % items.length]? with
  | some item => .ok item
  | none => .error (.type "at least one item" "no items" "cycling through loop values")

end LoopContext

namespace Value

/-- The attribute `name` of a value. -/
def attr (v : Value) (name : String) : Value :=
  match v with
  | map entries => (entries.get? name).getD (undefined name)
  | module _ exports _ => (exports.get? name).getD (undefined name)
  | loop _ context => context.attr name
  | object _ _ _ _ attributes => (attributes.get? name).getD (undefined name)
  | _ => undefined name

/-- The element of a sequence at a position; negative positions count from the
end. -/
def elementAt? {α : Type} (items : List α) (position : Int) : Option α :=
  if position < 0 then
    if position.natAbs ≤ items.length then items[items.length - position.natAbs]? else none
  else items[position.natAbs]?

/-- A negative position stands for the one that is as far from the end. -/
theorem elementAt?_eq_some_iff {α : Type} {items : List α} {position : Int} {a : α} :
    elementAt? items position = some a ↔ ∃ place : Nat,
      (place : Int) = (if position < 0 then items.length + position else position) ∧
        items[place]? = some a := by
  unfold elementAt?
  by_cases h : position < 0
  · rw [if_pos h, if_pos h]
    split
    · constructor
      · intro hget
        exact ⟨_, by omega, hget⟩
      · rintro ⟨place, hplace, hget⟩
        obtain rfl : place = items.length - position.natAbs := by omega
        exact hget
    · constructor
      · intro hget
        cases hget
      · rintro ⟨place, hplace, -⟩
        omega
  · rw [if_neg h, if_neg h]
    constructor
    · intro hget
      exact ⟨_, by omega, hget⟩
    · rintro ⟨place, hplace, hget⟩
      obtain rfl : place = position.natAbs := by omega
      exact hget

theorem mem_of_elementAt? {α : Type} {items : List α} {position : Int} {a : α}
    (h : elementAt? items position = some a) : a ∈ items := by
  obtain ⟨place, -, hget⟩ := elementAt?_eq_some_iff.mp h
  exact List.mem_of_getElem? hget

theorem elementAt?_map {α β : Type} (f : α → β) (items : List α) (position : Int) :
    elementAt? (items.map f) position = (elementAt? items position).map f := by
  unfold elementAt?
  rw [List.length_map]
  split
  · split
    · exact List.getElem?_map
    · rfl
  · exact List.getElem?_map

/-- The item of a value under a key: by position in lists and texts, by name in
whatever has attributes. -/
def item (v key : Value) : Value :=
  match v, key with
  | list items, int i => (elementAt? items i).getD (undefined key.toText)
  | text s, int i =>
    ((elementAt? s.toList i).map fun c => text c.toString).getD (undefined key.toText)
  | map _, text name => v.attr name
  | module .., text name => v.attr name
  | loop .., text name => v.attr name
  | object .., text name => v.attr name
  | _, _ => undefined key.toText

/-- Call a method of a value.  Only loops have one, which lets values take
turns. -/
def callMethod (v : Value) (name : String) (arguments : List Value) : Except RenderError Value :=
  match v, name with
  | loop _ context, "cycle" => context.cycle arguments
  | _, _ => .error (.type ("a value with a `" ++ name ++ "` method") v.typeName "calling a method")

end Value
end Templating
