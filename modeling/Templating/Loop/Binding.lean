import Templating.Value.Access

/-!
# Target names and how elements are taken apart

A loop or an assignment binds its element to a name, or takes it apart by
position and binds the parts, to any depth.  Every name of the binding receives
exactly one value, in the order in which the names are written; a position the
element does not have leaves its names undefined.  Two settings say what else
may happen when an element does not fit: a number of parts that differs from
the number of targets may be an error, and an element without parts need not
be one.

Taking apart stops at the first part that does not fit and keeps what it had
already taken out.
-/
namespace Templating

/-- The target names an element is bound to. -/
inductive Binding where
  /-- The element is bound as it is. -/
  | name (name : String)
  /-- The element is taken apart by position. -/
  | tuple (targets : List Binding)

/-- How elements that do not fit their targets are treated. -/
structure Unpacking where
  /-- A number of parts other than the number of targets is an error. -/
  isStrict : Bool
  /-- An element without parts leaves its names undefined. -/
  allowsNonIterable : Bool
  deriving DecidableEq, Repr

/-- Neither setting is on. -/
instance : Inhabited Unpacking := ⟨⟨false, false⟩⟩

/-- The values taken out of an element, and the error that stopped it if one
did. -/
structure Unpacked where
  values : List Value
  error : Option RenderError

namespace Unpacked

/-- These values and no error. -/
def of (values : List Value) : Unpacked := ⟨values, none⟩

/-- No values, stopped by an error. -/
def stopped (error : RenderError) : Unpacked := ⟨[], some error⟩

/-- Go on with another part, unless an error stopped it before. -/
def andThen (first second : Unpacked) : Unpacked :=
  match first.error with
  | some _ => first
  | none => ⟨first.values ++ second.values, second.error⟩

/-- All the values, or the error. -/
def toExcept (u : Unpacked) : Except RenderError (List Value) :=
  match u.error with
  | some error => .error error
  | none => .ok u.values

end Unpacked

namespace Binding

mutual

/-- The names of a binding, in the order in which they are bound. -/
def names : Binding → List String
  | name n => [n]
  | tuple targets => namesOfAll targets

/-- The names of several bindings. -/
def namesOfAll : List Binding → List String
  | [] => []
  | target :: rest => names target ++ namesOfAll rest

end

/-- The values of names that find nothing. -/
def padding (names : List String) : List Value :=
  names.map Value.undefined

mutual

/-- Take a value apart along a binding. -/
def unpack (settings : Unpacking) : Binding → Value → Unpacked
  | name _, v => .of [v]
  | tuple targets, v =>
    match v.sequence? with
    | none =>
      if settings.allowsNonIterable then .of (padding (namesOfAll targets))
      else .stopped (.type "an iterable" v.typeName "unpacking loop targets")
    | some items =>
      if settings.isStrict && items.length != targets.length then
        .stopped (.unpack targets.length items.length)
      else unpackAll settings targets items

/-- Take several values apart, each along its own binding. -/
def unpackAll (settings : Unpacking) : List Binding → List Value → Unpacked
  | [], _ => .of []
  | target :: rest, [] => (Unpacked.of (padding target.names)).andThen (unpackAll settings rest [])
  | target :: rest, item :: items =>
    (unpack settings target item).andThen (unpackAll settings rest items)

end

end Binding
end Templating
