import Templating.Name

/-!
# Tables: named entries in the order of their first writing

Exports, variables, filters, blocks and caches are all tables.  Writing a name
a second time replaces its entry and leaves it in the place it already had, so
the order of a table tells when each name first appeared, and a lookup tells
what was written last.  The lookup `get?` is the view through which everything
else about a table is stated.

That no name stands twice belongs to what a table is.  The entries are therefore
a row over the names and not a list of pairs: a value can hold tables of values
only if the names stand apart from what they name.
-/
namespace Templating

/-- One entry for each of several names. -/
inductive Table.Row (α : Type) : List String → Type
  | nil : Row α []
  | cons {name : String} {names : List String} (a : α) (rest : Row α names) :
      Row α (name :: names)

/-- Named entries, each name in the place where it was first written. -/
structure Table (α : Type) where
  /-- The names, oldest first. -/
  keys : List String
  nodup_keys : keys.Nodup
  /-- What stands under the names. -/
  row : Table.Row α keys

namespace Table

variable {α β : Type}

namespace Row

/-- The entries with their names. -/
def entries : {names : List String} → Row α names → List (String × α)
  | [], nil => []
  | name :: _, cons a rest => (name, a) :: rest.entries

/-- The row of entries that have names. -/
def ofEntries : (entries : List (String × α)) → Row α (entries.map Prod.fst)
  | [] => nil
  | (_, a) :: rest => cons a (ofEntries rest)

/-- The row of what a function makes of the names. -/
def tabulate (f : String → α) : (names : List String) → Row α names
  | [] => nil
  | name :: rest => cons (f name) (tabulate f rest)

/-- Apply a function to every entry. -/
def map (f : α → β) : {names : List String} → Row α names → Row β names
  | [], nil => nil
  | _ :: _, cons a rest => cons (f a) (rest.map f)

theorem map_fst_entries {names : List String} (row : Row α names) :
    row.entries.map Prod.fst = names := by
  induction row with
  | nil => rfl
  | cons a rest ih => rw [entries, List.map_cons, ih]

theorem entries_ofEntries (entries : List (String × α)) :
    (ofEntries entries).entries = entries := by
  induction entries with
  | nil => rfl
  | cons entry rest ih => exact congrArg (entry :: ·) ih

theorem entries_tabulate (f : String → α) (names : List String) :
    (tabulate f names).entries = names.map fun name => (name, f name) := by
  induction names with
  | nil => rfl
  | cons name rest ih => rw [tabulate, entries, ih, List.map_cons]

theorem entries_map (f : α → β) {names : List String} (row : Row α names) :
    (row.map f).entries = row.entries.map fun entry => (entry.1, f entry.2) := by
  induction row with
  | nil => rfl
  | cons a rest ih => rw [map, entries, entries, ih, List.map_cons]

/-- The names are given, so what stands under them is all there is to a row. -/
theorem eq_of_entries {names : List String} {row other : Row α names}
    (h : row.entries = other.entries) : row = other := by
  induction row with
  | nil =>
    cases other
    rfl
  | cons a rest ih =>
    cases other with
    | cons b rest' =>
      rw [entries, entries, List.cons.injEq, Prod.mk.injEq] at h
      rw [h.1.2, ih h.2]

end Row

/-- The entries, oldest name first. -/
def entries (t : Table α) : List (String × α) :=
  t.row.entries

/-- The table of entries that have different names. -/
def ofEntries (entries : List (String × α)) (h : (entries.map Prod.fst).Nodup) : Table α :=
  ⟨entries.map Prod.fst, h, .ofEntries entries⟩

/-- The table of what a function makes of different names. -/
def tabulate (names : List String) (h : names.Nodup) (f : String → α) : Table α :=
  ⟨names, h, .tabulate f names⟩

theorem map_fst_entries (t : Table α) : t.entries.map Prod.fst = t.keys :=
  t.row.map_fst_entries

@[simp] theorem entries_ofEntries {entries : List (String × α)}
    (h : (entries.map Prod.fst).Nodup) : (ofEntries entries h).entries = entries :=
  Row.entries_ofEntries entries

theorem entries_tabulate {names : List String} (h : names.Nodup) (f : String → α) :
    (tabulate names h f).entries = names.map fun name => (name, f name) :=
  Row.entries_tabulate f names

/-- A table is what its entries are. -/
theorem eq_of_entries {t u : Table α} (h : t.entries = u.entries) : t = u := by
  have hkeys : t.keys = u.keys := by rw [← map_fst_entries, h, map_fst_entries]
  obtain ⟨keys, _, row⟩ := t
  obtain ⟨_, _, row'⟩ := u
  cases hkeys
  rw [Row.eq_of_entries (show row.entries = row'.entries from h)]

/-- The table with no entries. -/
def empty : Table α := ⟨[], .nil, .nil⟩

instance : Inhabited (Table α) := ⟨empty⟩

/-- The entry of `name`. -/
def get? (t : Table α) (name : String) : Option α :=
  t.entries.lookup name

/-- Whether `name` has an entry. -/
def contains (t : Table α) (name : String) : Bool :=
  (t.get? name).isSome

/-- The number of entries. -/
def size (t : Table α) : Nat :=
  t.keys.length

/-- The names in increasing order. -/
def names (t : Table α) : List String :=
  Name.sorted t.keys

/-! ## Writing -/

/-- Replace the entry of `name` where it stands, or add one at the end. -/
def insertEntry (name : String) (a : α) : List (String × α) → List (String × α)
  | [] => [(name, a)]
  | (other, b) :: rest =>
    if other = name then (name, a) :: rest else (other, b) :: insertEntry name a rest

theorem map_fst_insertEntry (name : String) (a : α) (entries : List (String × α)) :
    (insertEntry name a entries).map Prod.fst =
      if name ∈ entries.map Prod.fst then entries.map Prod.fst
      else entries.map Prod.fst ++ [name] := by
  induction entries with
  | nil => rfl
  | cons entry rest ih =>
    obtain ⟨key, b⟩ := entry
    by_cases h : key = name
    · subst h
      simp [insertEntry]
    · have h' : ¬ name = key := fun e => h e.symm
      rw [insertEntry, if_neg h, List.map_cons, List.map_cons, ih]
      by_cases hr : name ∈ rest.map Prod.fst
      · rw [if_pos hr, if_pos (List.mem_cons_of_mem key hr)]
      · rw [if_neg hr, if_neg (by simpa [h'] using hr)]
        rfl

theorem nodup_insertEntry (t : Table α) (name : String) (a : α) :
    ((insertEntry name a t.entries).map Prod.fst).Nodup := by
  rw [map_fst_insertEntry, map_fst_entries]
  split
  · exact t.nodup_keys
  · next hnew =>
    refine List.nodup_append.mpr ⟨t.nodup_keys, List.nodup_cons.mpr ⟨List.not_mem_nil, .nil⟩, ?_⟩
    intro other hother x hx heq
    rw [List.mem_singleton] at hx
    subst hx
    exact hnew (heq ▸ hother)

/-- Write the entry of `name`. -/
def insert (t : Table α) (name : String) (a : α) : Table α :=
  ofEntries (insertEntry name a t.entries) (t.nodup_insertEntry name a)

/-- The table that results from writing the entries one after another. -/
def ofList (entries : List (String × α)) : Table α :=
  entries.foldl (fun t entry => t.insert entry.1 entry.2) empty

/-- Apply a function to every entry. -/
def map (f : α → β) (t : Table α) : Table β :=
  ⟨t.keys, t.nodup_keys, t.row.map f⟩

theorem entries_insert (t : Table α) (name : String) (a : α) :
    (t.insert name a).entries = insertEntry name a t.entries :=
  entries_ofEntries _

theorem entries_map (f : α → β) (t : Table α) :
    (t.map f).entries = t.entries.map fun entry => (entry.1, f entry.2) :=
  t.row.entries_map f

/-- A write adds its name at the end, or leaves the names as they were. -/
theorem keys_insert (t : Table α) (name : String) (a : α) :
    (t.insert name a).keys = if name ∈ t.keys then t.keys else t.keys ++ [name] := by
  rw [← map_fst_entries, entries_insert, map_fst_insertEntry, map_fst_entries]

/-! ## Looking up -/

@[simp] theorem get?_empty (name : String) : (empty : Table α).get? name = none := rfl

theorem lookup_cons_ite (name key : String) (a : α) (rest : List (String × α)) :
    ((key, a) :: rest).lookup name = if name = key then some a else rest.lookup name := by
  by_cases h : name = key
  · subst h
    simp
  · simp [List.lookup_cons, h, beq_eq_false_iff_ne.mpr h]

/-- What is found among names that each stand with what a function makes of them. -/
theorem get?_tabulate {names : List String} (h : names.Nodup) (f : String → α) (name : String) :
    (tabulate names h f).get? name = if name ∈ names then some (f name) else none := by
  rw [get?, entries_tabulate]
  clear h
  induction names with
  | nil => rfl
  | cons other rest ih =>
    rw [List.map_cons, lookup_cons_ite, ih]
    by_cases h : name = other
    · subst h
      simp
    · simp [h]

theorem lookup_insertEntry (name other : String) (a : α) (entries : List (String × α)) :
    (insertEntry name a entries).lookup other =
      if other = name then some a else entries.lookup other := by
  induction entries with
  | nil => simp [insertEntry, lookup_cons_ite]
  | cons entry rest ih =>
    obtain ⟨key, b⟩ := entry
    by_cases hk : key = name
    · subst hk
      by_cases h : other = key <;> simp [insertEntry, lookup_cons_ite, h]
    · by_cases h : other = key
      · subst h
        simp [insertEntry, hk]
      · simp [insertEntry, lookup_cons_ite, hk, h, ih]

/-- After a write the written name has the new entry and every other name the
one it had. -/
theorem get?_insert (t : Table α) (name other : String) (a : α) :
    (t.insert name a).get? other = if other = name then some a else t.get? other := by
  rw [get?, entries_insert]
  exact lookup_insertEntry name other a t.entries

/-- What holds of an entry and of all others holds of all after it was inserted. -/
theorem forall_get?_insert {p : String → α → Prop} {t : Table α} {name : String} {a : α}
    (h : ∀ other b, t.get? other = some b → p other b) (ha : p name a) :
    ∀ other b, (t.insert name a).get? other = some b → p other b := by
  intro other b hb
  rw [get?_insert] at hb
  split at hb
  · next heq =>
    cases hb
    exact heq ▸ ha
  · exact h other b hb

@[simp] theorem get?_insert_self (t : Table α) (name : String) (a : α) :
    (t.insert name a).get? name = some a := by
  simp [get?_insert]

theorem isSome_lookup_iff {entries : List (String × α)} {name : String} :
    (entries.lookup name).isSome = true ↔ name ∈ entries.map Prod.fst := by
  induction entries with
  | nil => simp
  | cons entry rest ih =>
    obtain ⟨key, a⟩ := entry
    rw [List.map_cons, List.mem_cons, ← ih, lookup_cons_ite]
    by_cases h : name = key <;> simp [h]

theorem mem_keys_iff (t : Table α) (name : String) :
    name ∈ t.keys ↔ t.contains name = true := by
  rw [contains, get?, isSome_lookup_iff, map_fst_entries]

end Table
end Templating
