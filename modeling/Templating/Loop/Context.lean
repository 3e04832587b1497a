/-!
# Loop contexts: where a loop stands

While a loop runs, its context tells the position of the current element and
the positions of the loops around it, innermost first.  The contexts of the
surrounding loops are things a template can hold on to and compare, so each of
them carries the number of the instance it is.  The context itself does not:
it becomes an instance when it is bound to a name.

Sizes and positions count up from zero without a bound; the countdowns stop at
zero.
-/
namespace Templating

/-- The number that tells one instance of a loop or of a host object from all
others. -/
abbrev InstanceId := Nat

/-- How far a loop has come: the position of its current element and the number
of its elements. -/
structure LoopPosition where
  /-- The position, counted from zero. -/
  index0 : Nat
  /-- The number of elements. -/
  length : Nat
  deriving DecidableEq, Repr

/-- A loop's position together with those of the loops around it. -/
structure LoopContext where
  /-- The position of this loop. -/
  position : LoopPosition
  /-- The instances and positions of the loops around it, innermost first. -/
  enclosing : List (InstanceId × LoopPosition)
  deriving Repr

namespace LoopContext

/-- The context of the element at `index0` in a loop over `length` elements. -/
def ofPosition (index0 length : Nat) (parent : Option (InstanceId × LoopContext)) : LoopContext :=
  match parent with
  | none => ⟨⟨index0, length⟩, []⟩
  | some (id, outer) => ⟨⟨index0, length⟩, (id, outer.position) :: outer.enclosing⟩

/-- The context of the loop around this one, with its instance. -/
def parent? (c : LoopContext) : Option (InstanceId × LoopContext) :=
  match c.enclosing with
  | [] => none
  | (id, position) :: rest => some (id, ⟨position, rest⟩)

/-- The positions of this loop and of those around it, innermost first. -/
def positions (c : LoopContext) : List LoopPosition :=
  c.position :: c.enclosing.map Prod.snd

/-- The position, counted from zero. -/
def index0 (c : LoopContext) : Nat := c.position.index0

/-- The position, counted from one. -/
def index (c : LoopContext) : Nat := c.position.index0 + 1

/-- The number of elements. -/
def length (c : LoopContext) : Nat := c.position.length

/-- The number of elements not passed yet, this one included. -/
def revindex (c : LoopContext) : Nat := c.length - c.index0

/-- The number of elements after this one. -/
def revindex0 (c : LoopContext) : Nat := c.length - c.index

/-- Whether this is the first element. -/
def isFirst (c : LoopContext) : Bool := c.index0 == 0

/-- Whether this is the last element. -/
def isLast (c : LoopContext) : Bool := c.index == c.length

/-- Whether two contexts stand at the same positions, all the way out,
whichever instances they are. -/
def samePositions (c other : LoopContext) : Bool :=
  c.positions == other.positions

theorem position_ofPosition (index0 length : Nat) (parent : Option (InstanceId × LoopContext)) :
    (ofPosition index0 length parent).position = ⟨index0, length⟩ := by
  cases parent <;> rfl

theorem parent?_ofPosition (index0 length : Nat) (parent : Option (InstanceId × LoopContext)) :
    (ofPosition index0 length parent).parent? = parent := by
  cases parent <;> rfl

end LoopContext
end Templating
