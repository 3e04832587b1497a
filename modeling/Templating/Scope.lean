import Templating.Value.Basic

/-!
# Scopes

A scope is a chain of nodes.  Each node holds the names bound in one frame and
leads to the node around it.  Binding never changes a node; it puts a new one
on top, so whoever holds the chain as it was still sees it as it was.

A name is looked up from the innermost node outward.  A name bound to an
undefined value is bound: it hides what the nodes further out say.
-/
namespace Templating

/-- A chain of nodes, seen from its innermost one. -/
inductive Scope where
  | root (bindings : Table Value)
  | overlay (bindings : Table Value) (parent : Scope)

namespace Scope

/-- The root scope that binds the names in turn. -/
def ofList (bindings : List (String × Value)) : Scope :=
  root (Table.ofList bindings)

/-- A new innermost node that binds the names in turn. -/
def bind (s : Scope) (bindings : List (String × Value)) : Scope :=
  overlay (Table.ofList bindings) s

/-- The names bound by the innermost node alone. -/
def bindings : Scope → Table Value
  | root bindings => bindings
  | overlay bindings _ => bindings

/-- The chain without its innermost node. -/
def parent? : Scope → Option Scope
  | root _ => none
  | overlay _ parent => some parent

/-- The innermost binding of a name. -/
def get? : Scope → String → Option Value
  | root bindings, name => bindings.get? name
  | overlay bindings parent, name => (bindings.get? name).or (parent.get? name)

/-- The value of a name, or the undefined marker if nothing binds it. -/
def lookup (s : Scope) (name : String) : Value :=
  (s.get? name).getD (.undefined name)

/-- Whether some node binds the name. -/
def contains (s : Scope) (name : String) : Bool :=
  (s.get? name).isSome

/-- The number of nodes. -/
def depth : Scope → Nat
  | root _ => 1
  | overlay _ parent => parent.depth + 1

/-- Every name some node binds, from the innermost node outward. -/
def allNames : Scope → List String
  | root bindings => bindings.keys
  | overlay bindings parent => bindings.keys ++ parent.allNames

/-- The names that can be looked up, in increasing order. -/
def names (s : Scope) : List String :=
  Name.sorted s.allNames

theorem nodup_names (s : Scope) : s.names.Nodup :=
  Name.nodup_of_increasing (Name.sorted_increasing s.allNames)

/-- The scope of one node that binds every visible name to its value. -/
def flatten (s : Scope) : Scope :=
  root (.tabulate s.names s.nodup_names s.lookup)

@[simp] theorem get?_bind (s : Scope) (bindings : List (String × Value)) (name : String) :
    (s.bind bindings).get? name = ((Table.ofList bindings).get? name).or (s.get? name) := rfl

theorem mem_allNames_iff (s : Scope) (name : String) :
    name ∈ s.allNames ↔ s.contains name = true := by
  induction s with
  | root bindings => exact bindings.mem_keys_iff name
  | overlay bindings parent ih =>
    rw [allNames, List.mem_append, bindings.mem_keys_iff, ih]
    simp only [Table.contains, contains, get?]
    cases bindings.get? name <;> simp

/-- A name is listed exactly when it can be looked up. -/
theorem mem_names_iff (s : Scope) (name : String) :
    name ∈ s.names ↔ s.contains name = true := by
  rw [names, Name.mem_sorted, mem_allNames_iff]

/-- The variables that are visible in a scope, with the values they have there. -/
theorem get?_flatten (s : Scope) (name : String) :
    s.flatten.bindings.get? name = s.get? name := by
  have hlookup : s.flatten.bindings.get? name =
      if name ∈ s.names then some (s.lookup name) else none :=
    Table.get?_tabulate s.nodup_names s.lookup name
  rw [hlookup, Scope.lookup]
  by_cases h : name ∈ s.names
  · rw [if_pos h]
    obtain ⟨v, hv⟩ := Option.isSome_iff_exists.mp ((s.mem_names_iff name).mp h)
    rw [hv]
    rfl
  · rw [if_neg h]
    have hnone : ¬ (s.get? name).isSome = true := fun hsome => h ((s.mem_names_iff name).mpr hsome)
    exact (Option.not_isSome_iff_eq_none.mp hnone).symm

end Scope
end Templating
