/-!
# Lists of names

Diagnostics and registries list the names they know.  A listing is always
sorted by code point, which for text is also the order of its UTF-8 bytes, and
holds each name once.  Sorting inserts the names one at a time into a strictly
increasing list, so both facts hold by construction of the list and need no
separate removal of duplicates.
-/
namespace Templating
namespace Name

/-- Put `name` at its place in a strictly increasing list; a name already
present is not put in again. -/
def insert (name : String) : List String → List String
  | [] => [name]
  | other :: rest =>
    if name < other then name :: other :: rest
    else if name = other then other :: rest
    else other :: insert name rest

/-- The distinct names of a list in increasing order. -/
def sorted (names : List String) : List String :=
  names.foldr insert []

/-- Names as running text, divided by a comma and a blank. -/
def listing (names : List String) : String :=
  ", ".intercalate names

@[simp] theorem mem_insert {name other : String} {names : List String} :
    other ∈ insert name names ↔ other = name ∨ other ∈ names := by
  induction names with
  | nil => simp [insert]
  | cons head rest ih =>
    by_cases hlt : name < head
    · rw [insert, if_pos hlt, List.mem_cons]
    · by_cases heq : name = head
      · rw [insert, if_neg hlt, if_pos heq, heq]
        simp
      · rw [insert, if_neg hlt, if_neg heq, List.mem_cons, List.mem_cons, ih]
        exact or_left_comm

/-- Putting a name at its place keeps a list strictly increasing. -/
theorem insert_increasing (name : String) {names : List String} (h : names.Pairwise (· < ·)) :
    (insert name names).Pairwise (· < ·) := by
  induction names with
  | nil => simp [insert]
  | cons head rest ih =>
    obtain ⟨hhead, hrest⟩ := List.pairwise_cons.mp h
    by_cases hlt : name < head
    · rw [insert, if_pos hlt]
      refine List.pairwise_cons.mpr ⟨fun other hother => ?_, h⟩
      rcases List.mem_cons.mp hother with rfl | hin
      · exact hlt
      · exact String.lt_trans hlt (hhead other hin)
    · by_cases heq : name = head
      · rw [insert, if_neg hlt, if_pos heq]
        exact h
      · rw [insert, if_neg hlt, if_neg heq]
        refine List.pairwise_cons.mpr ⟨fun other hother => ?_, ih hrest⟩
        rcases mem_insert.mp hother with rfl | hin
        · have hle : head ≤ other := String.not_lt.mp hlt
          exact Std.lt_of_le_of_ne hle (Ne.symm heq)
        · exact hhead other hin

/-- A listing holds exactly the names it was made from. -/
@[simp] theorem mem_sorted {name : String} {names : List String} :
    name ∈ sorted names ↔ name ∈ names := by
  induction names with
  | nil => simp [sorted]
  | cons head rest ih =>
    simp only [sorted, List.foldr_cons, mem_insert, List.mem_cons]
    exact or_congr_right ih

/-- A listing is strictly increasing, so it holds each name once. -/
theorem sorted_increasing (names : List String) : (sorted names).Pairwise (· < ·) := by
  induction names with
  | nil => simp [sorted]
  | cons head rest ih => exact insert_increasing head ih

theorem nodup_of_increasing {names : List String} (h : names.Pairwise (· < ·)) : names.Nodup := by
  refine h.imp ?_
  rintro a _ hlt rfl
  exact String.lt_irrefl a hlt

/-- Two strictly increasing lists with the same members are one. -/
theorem eq_of_increasing {names others : List String} (hnames : names.Pairwise (· < ·))
    (hothers : others.Pairwise (· < ·)) (h : ∀ name, name ∈ names ↔ name ∈ others) :
    names = others := by
  have hperm : names.Perm others :=
    (List.perm_ext_iff_of_nodup (nodup_of_increasing hnames) (nodup_of_increasing hothers)).mpr h
  refine List.Perm.eq_of_pairwise (fun a b _ _ hab hba => ?_) hnames hothers hperm
  exact absurd (String.lt_trans hab hba) (String.lt_irrefl a)

theorem sorted_eq_of_mem_iff {names others : List String}
    (h : ∀ name, name ∈ names ↔ name ∈ others) : sorted names = sorted others := by
  refine eq_of_increasing (sorted_increasing names) (sorted_increasing others) fun name => ?_
  rw [mem_sorted, mem_sorted, h]

end Name
end Templating
