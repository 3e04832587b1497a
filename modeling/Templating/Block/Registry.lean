import Templating.Error
import Templating.Table
import Templating.Text.Summary

/-!
# Block definitions and how they override each other

Every block name has a chain of definitions, ordered from the least specific to
the most specific.  The template that started rendering registers first and the
templates it extends after it, so each new definition goes to the least
specific end.

A definition is addressed by its distance from the other end: zero levels up is
the most specific definition, one level up the one it overrides.  New
definitions therefore never change what an address means.  The levels `-1`,
`-2`, … are another way of writing the same distances.
-/
namespace Templating

/-- The distance that a negative level stands for. -/
def levelsUpOfLevel (level : Int) : Option Nat :=
  if level < 0 then some (level + 1).natAbs else none

/-- The definition of a chain that is `levelsUp` steps away from the most
specific one. -/
def overrideAt? {α : Type} (chain : List α) (levelsUp : Nat) : Option α :=
  if levelsUp + 1 ≤ chain.length then chain[chain.length - (levelsUp + 1)]? else none

/-- The definitions of all blocks. -/
structure BlockRegistry (α : Type) where
  /-- The chain of each name, least specific definition first. -/
  chains : Table (List α)
  /-- A name has a chain only if it has a definition. -/
  occupied : ∀ name chain, chains.get? name = some chain → chain ≠ []

namespace BlockRegistry

variable {α : Type}

/-- The registry without definitions. -/
def empty : BlockRegistry α := ⟨Table.empty, fun _ _ h => nomatch h⟩

instance : Inhabited (BlockRegistry α) := ⟨empty⟩

/-- The definitions of a name, least specific first. -/
def chain? (r : BlockRegistry α) (name : String) : Option (List α) :=
  r.chains.get? name

/-- The definitions of a name, none if it has no chain. -/
def chain (r : BlockRegistry α) (name : String) : List α :=
  (r.chain? name).getD []

/-- The number of definitions of a name. -/
def depth (r : BlockRegistry α) (name : String) : Nat :=
  (r.chain name).length

/-- Whether a name has definitions. -/
def contains (r : BlockRegistry α) (name : String) : Bool :=
  r.chains.contains name

/-- The names that have definitions, in increasing order. -/
def names (r : BlockRegistry α) : List String :=
  r.chains.names

/-- Add a definition that is less specific than all others of its name. -/
def register (r : BlockRegistry α) (name : String) (definition : α) : BlockRegistry α :=
  ⟨r.chains.insert name (definition :: r.chain name),
    Table.forall_get?_insert r.occupied (List.cons_ne_nil _ _)⟩

/-- The definition of a name that is `levelsUp` steps away from the most
specific one. -/
def resolve (r : BlockRegistry α) (name : String) (levelsUp : Nat) : Except LookupError α :=
  match r.chain? name with
  | none => .error (.blockNotFound name r.names)
  | some chain =>
    match overrideAt? chain levelsUp with
    | none => .error (.blockLevelOverflow name levelsUp chain.length)
    | some definition => .ok definition

/-- The definition of a name at a negative level. -/
def resolveLevel (r : BlockRegistry α) (name : String) (level : Int) : Except LookupError α :=
  match levelsUpOfLevel level with
  | some levelsUp => r.resolve name levelsUp
  | none => .error (.invalidBlockLevel name level)

/-- The names with the numbers of their definitions, in increasing order. -/
def depths (r : BlockRegistry α) : List (String × Nat) :=
  r.names.map fun name => (name, r.depth name)

/-- The summary of a registry. -/
def summary (r : BlockRegistry α) : String :=
  Summary.table (r.chains.entries.map fun entry =>
    (entry.1, Text.quoted ("<" ++ toString entry.2.length ++ " executor(s)>")))

/-- A registration puts the definition at the least specific end of its chain
and leaves the other chains alone. -/
theorem chain_register (r : BlockRegistry α) (name other : String) (definition : α) :
    (r.register name definition).chain other =
      if other = name then definition :: r.chain name else r.chain other := by
  simp only [chain, chain?, register, Table.get?_insert]
  split <;> rfl

end BlockRegistry
end Templating
