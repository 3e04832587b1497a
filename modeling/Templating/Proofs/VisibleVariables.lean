import Mathlib.Data.List.Destutter
import Templating.Proofs.Tables
import Templating.Scope

/-!
# The variables that a scope shows

A scope is asked in three ways: for the value of a name, for the number of its nodes, and
for the names that can be looked up.  Each question walks the chain from the innermost
node outward, and the third sorts what it has gathered and leaves out repetitions
(`Scope.names_eq_destutter`).

The answers agree with what was put into the chain (`scopeLaw`).  A name has the value
that was given last in the innermost list that mentions it, an undefined one included; and
the chain as a whole shows no more than one node that holds each name once.
-/
namespace Templating

namespace Name

/-- Putting every name at its place comes to the same as sorting the names and leaving out
those that stand next to their like. -/
theorem sorted_eq_destutter (names : List String) :
    sorted names = (names.mergeSort fun a b => decide (a ≤ b)).destutter (· ≠ ·) := by
  have htrans (a b c : String) : decide (a ≤ b) = true → decide (b ≤ c) = true →
      decide (a ≤ c) = true := by
    simp only [decide_eq_true_eq]
    exact String.le_trans
  have htotal (a b : String) : (decide (a ≤ b) || decide (b ≤ a)) = true := by
    simp only [Bool.or_eq_true, decide_eq_true_eq]
    exact String.le_total a b
  have hle : (names.mergeSort fun a b => decide (a ≤ b)).Pairwise (· ≤ ·) :=
    (List.pairwise_mergeSort htrans htotal names).imp of_decide_eq_true
  have hlt : (names.mergeSort fun a b => decide (a ≤ b)).dedup.Pairwise (· < ·) := by
    refine ((hle.sublist (List.dedup_sublist _)).and (List.nodup_dedup _)).imp ?_
    rintro a b ⟨hab, hne⟩
    exact Std.lt_of_le_of_ne hab hne
  rw [hle.destutter_eq_dedup]
  refine eq_of_increasing (sorted_increasing names) hlt fun name => ?_
  rw [mem_sorted, List.mem_dedup, List.mem_mergeSort]

end Name

/-! ## Lists of bindings -/

/-- A list gives a name this value, and gives it none after that. -/
def GivesLast (bindings : List (String × Value)) (name : String) (v : Value) : Prop :=
  ∃ before after, bindings = before ++ (name, v) :: after ∧ name ∉ after.map Prod.fst

/-- The last of the lists that mention a name gives it this value. -/
def GivenInnermost (lists : List (List (String × Value))) (name : String) (v : Value) : Prop :=
  ∃ outer bindings inner, lists = outer ++ bindings :: inner ∧ GivesLast bindings name v ∧
    ∀ bindings ∈ inner, name ∉ bindings.map Prod.fst

namespace Scope

/-! ## Chains of nodes -/

/-- The nodes of a chain, from the innermost one outward. -/
def nodes : Scope → List (Table Value)
  | root bindings => [bindings]
  | overlay bindings parent => bindings :: parent.nodes

/-- The chain of a root and of the nodes that are put on it one after another. -/
def stack (first : List (String × Value)) (overlays : List (List (String × Value))) : Scope :=
  overlays.foldl bind (ofList first)

/-- A lookup stops at the first node that answers. -/
theorem get?_eq_findSome? (s : Scope) (name : String) :
    s.get? name = s.nodes.findSome? fun bindings => bindings.get? name := by
  induction s with
  | root bindings =>
    rw [get?, nodes, List.findSome?_cons]
    cases bindings.get? name <;> rfl
  | overlay bindings parent ih =>
    rw [get?, nodes, List.findSome?_cons, ih]
    cases bindings.get? name <;> rfl

theorem depth_eq_length (s : Scope) : s.depth = s.nodes.length := by
  induction s with
  | root bindings => rfl
  | overlay bindings parent ih => rw [depth, nodes, List.length_cons, ih]

theorem allNames_eq_flatMap (s : Scope) : s.allNames = s.nodes.flatMap Table.keys := by
  induction s with
  | root bindings => simp [allNames, nodes]
  | overlay bindings parent ih => rw [allNames, nodes, List.flatMap_cons, ih]

theorem nodes_foldl_bind (overlays : List (List (String × Value))) (s : Scope) :
    (overlays.foldl bind s).nodes = (overlays.map Table.ofList).reverse ++ s.nodes := by
  induction overlays generalizing s with
  | nil => rfl
  | cons bindings overlays ih =>
    rw [List.foldl_cons, ih, List.map_cons, List.reverse_cons, List.append_assoc]
    rfl

variable {first : List (String × Value)} {overlays : List (List (String × Value))}
  {name : String} {v : Value}

theorem nodes_stack (first : List (String × Value)) (overlays : List (List (String × Value))) :
    (stack first overlays).nodes = ((first :: overlays).map Table.ofList).reverse := by
  rw [stack, nodes_foldl_bind, List.map_cons, List.reverse_cons]
  rfl

theorem depth_stack (first : List (String × Value)) (overlays : List (List (String × Value))) :
    (stack first overlays).depth = 1 + overlays.length := by
  rw [depth_eq_length, nodes_stack, List.length_reverse, List.length_map, List.length_cons,
    Nat.add_comm]

theorem get?_stack (first : List (String × Value)) (overlays : List (List (String × Value)))
    (name : String) : (stack first overlays).get? name =
      (first :: overlays).reverse.findSome? fun bindings => bindings.reverse.lookup name := by
  rw [get?_eq_findSome?, nodes_stack, ← List.map_reverse, List.findSome?_map]
  simp only [Function.comp_def, Table.get?_ofList]

theorem get?_stack_eq_some_iff :
    (stack first overlays).get? name = some v ↔ GivenInnermost (first :: overlays) name v := by
  rw [get?_stack, List.findSome?_eq_some_iff]
  simp only [Table.lookup_reverse_eq_none_iff]
  constructor
  · rintro ⟨inner, bindings, outer, hlists, hlookup, hinner⟩
    have hlast : GivesLast bindings name v := Table.lookup_reverse_eq_some_iff.mp hlookup
    refine ⟨outer.reverse, bindings, inner.reverse, ?_, hlast, fun other hother => ?_⟩
    · rw [← (first :: overlays).reverse_reverse, hlists]
      simp
    · exact hinner other (List.mem_reverse.mp hother)
  · rintro ⟨outer, bindings, inner, hlists, hlast, hinner⟩
    have hlookup := Table.lookup_reverse_eq_some_iff.mpr hlast
    refine ⟨inner.reverse, bindings, outer.reverse, ?_, hlookup, fun other hother => ?_⟩
    · rw [hlists]
      simp
    · exact hinner other (List.mem_reverse.mp hother)

theorem get?_stack_eq_none_iff : (stack first overlays).get? name = none ↔
    ∀ bindings ∈ first :: overlays, name ∉ bindings.map Prod.fst := by
  rw [get?_stack, List.findSome?_eq_none_iff]
  simp only [Table.lookup_reverse_eq_none_iff, List.mem_reverse]

/-! ## The names that can be looked up -/

theorem names_increasing (s : Scope) : s.names.Pairwise (· < ·) :=
  Name.sorted_increasing s.allNames

/-- The names of the nodes are gathered, then sorted, and then those that stand next to
their like are left out. -/
theorem names_eq_destutter (s : Scope) : s.names =
    ((s.nodes.flatMap Table.keys).mergeSort fun a b => decide (a ≤ b)).destutter (· ≠ ·) := by
  rw [names, Name.sorted_eq_destutter, allNames_eq_flatMap]

/-- Writing the visible variables into a root scope, one by one, gives the flat scope. -/
theorem ofList_lookup (s : Scope) :
    ofList (s.names.map fun name => (name, s.lookup name)) = s.flatten := by
  have hkeys : ((s.names.map fun name => (name, s.lookup name)).map Prod.fst).Nodup := by
    rw [List.map_map]
    simpa [Function.comp_def] using s.nodup_names
  rw [ofList, Table.ofList_of_nodup hkeys, flatten]
  refine congrArg root (Table.eq_of_entries ?_)
  rw [Table.entries_ofEntries, Table.entries_tabulate]

/-- Two scopes that answer every lookup alike show the same names. -/
theorem names_congr {s t : Scope} (h : ∀ name, s.get? name = t.get? name) : s.names = t.names := by
  refine Name.sorted_eq_of_mem_iff fun name => ?_
  rw [mem_allNames_iff, mem_allNames_iff, contains, contains, h]

end Scope

/-! ## The law -/

open Scope in
/-- What a scope shows of what was put into it. -/
structure ScopeLaw : Prop where
  /-- A name has the value that was given last in the innermost list that mentions it,
  whatever that value is. -/
  found : ∀ {first overlays name v},
    (stack first overlays).get? name = some v ↔ GivenInnermost (first :: overlays) name v
  /-- It has none if no list mentions it. -/
  missing : ∀ {first overlays name}, (stack first overlays).get? name = none ↔
    ∀ bindings ∈ first :: overlays, name ∉ bindings.map Prod.fst
  /-- A lookup yields that value, -/
  given : ∀ {first overlays name v}, GivenInnermost (first :: overlays) name v →
    (stack first overlays).lookup name = v
  /-- or the undefined marker of the name. -/
  unknown : ∀ {first overlays name},
    (∀ bindings ∈ first :: overlays, name ∉ bindings.map Prod.fst) →
      (stack first overlays).lookup name = .undefined name
  /-- There is one node for the root and one for each list that was put on it. -/
  depth : ∀ first overlays, (stack first overlays).depth = 1 + overlays.length
  /-- The names that can be looked up are those that are bound, -/
  contains : ∀ (s : Scope) name, s.contains name = true ↔ name ∈ s.names
  /-- in increasing order, each of them once, -/
  increasing : ∀ s : Scope, s.names.Pairwise (· < ·)
  /-- and come out of sorting all that the nodes bind and leaving out repetitions. -/
  gathered : ∀ s : Scope, s.names =
    ((s.nodes.flatMap Table.keys).mergeSort fun a b => decide (a ≤ b)).destutter (· ≠ ·)
  /-- One node that binds each visible name to its value answers as the whole chain does. -/
  flat : ∀ {s t : Scope}, t = ofList (s.names.map fun name => (name, s.lookup name)) →
    t.depth = 1 ∧ t.names = s.names ∧ ∀ name, t.get? name = s.get? name ∧
      t.lookup name = s.lookup name ∧ t.contains name = s.contains name

/-- A scope shows the last values of the innermost lists, and shows them as one node would. -/
theorem scopeLaw : ScopeLaw where
  found := Scope.get?_stack_eq_some_iff
  missing := Scope.get?_stack_eq_none_iff
  given h := by
    rw [Scope.lookup, Scope.get?_stack_eq_some_iff.mpr h]
    rfl
  unknown h := by
    rw [Scope.lookup, Scope.get?_stack_eq_none_iff.mpr h]
    rfl
  depth := Scope.depth_stack
  contains s name := (s.mem_names_iff name).symm
  increasing := Scope.names_increasing
  gathered := Scope.names_eq_destutter
  flat {s t} ht := by
    rw [Scope.ofList_lookup] at ht
    subst ht
    have hget (name : String) : s.flatten.get? name = s.get? name := s.get?_flatten name
    refine ⟨rfl, Scope.names_congr hget, fun name => ⟨hget name, ?_, ?_⟩⟩
    · rw [Scope.lookup, Scope.lookup, hget]
    · rw [Scope.contains, Scope.contains, hget]

end Templating
