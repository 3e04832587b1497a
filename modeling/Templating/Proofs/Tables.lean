import Mathlib.Data.List.Induction
import Mathlib.Data.List.Perm.Subperm
import Templating.Table

/-!
# Tables by their entries

No name stands twice in a table, so its entries are exactly what the lookups answer
(`Table.get?_eq_some_iff_mem`), and their order does not matter to a lookup
(`Table.get?_of_perm`).

Of several entries under one name the last one that is written is found
(`Table.get?_ofList`, `Table.lookup_reverse_eq_some_iff`), in the place of the first
(`Table.keys_ofList`).  It is the last of all that the name was given
(`Table.lookup_reverse_eq_getLast?`).
-/
namespace Templating
namespace Table

variable {α : Type} {t u : Table α} {name : String} {a : α}

/-! ## What is found -/

theorem get?_eq_none_iff : t.get? name = none ↔ name ∉ t.keys := by
  rw [t.mem_keys_iff, contains, Option.not_isSome_iff_eq_none]

theorem mem_keys_iff_exists : name ∈ t.keys ↔ ∃ a, t.get? name = some a := by
  rw [t.mem_keys_iff, contains, Option.isSome_iff_exists]

/-- What is found is one of the entries. -/
theorem mem_entries_of_get? (h : t.get? name = some a) : (name, a) ∈ t.entries := by
  obtain ⟨before, after, hentries, -⟩ := List.lookup_eq_some_iff.mp h
  rw [hentries]
  exact List.mem_append_right _ (List.mem_cons_self ..)

theorem mem_names_iff : name ∈ t.names ↔ name ∈ t.keys :=
  Name.mem_sorted

/-- Two tables that answer every lookup alike list the same names. -/
theorem names_congr (h : ∀ name, t.get? name = u.get? name) : t.names = u.names := by
  refine Name.sorted_eq_of_mem_iff fun name => ?_
  rw [mem_keys_iff, mem_keys_iff, contains, contains, h]

/-! ## Names that occur once -/

/-- Under a name that occurs once its own entry is found. -/
theorem lookup_of_mem {entries : List (String × α)} (hnames : (entries.map Prod.fst).Nodup)
    (h : (name, a) ∈ entries) : entries.lookup name = some a := by
  induction entries with
  | nil => cases h
  | cons entry rest ih =>
    obtain ⟨other, b⟩ := entry
    obtain ⟨hother, hrest⟩ := List.nodup_cons.mp hnames
    rw [lookup_cons_ite]
    rcases List.mem_cons.mp h with heq | hmem
    · cases heq
      rw [if_pos rfl]
    · have hne : name ≠ other := by
        rintro rfl
        exact hother (List.mem_map.mpr ⟨(name, a), hmem, rfl⟩)
      rw [if_neg hne]
      exact ih hrest hmem

theorem nodup_map_fst_entries (t : Table α) : (t.entries.map Prod.fst).Nodup := by
  rw [map_fst_entries]
  exact t.nodup_keys

/-- Every entry is found. -/
theorem get?_of_mem_entries (h : (name, a) ∈ t.entries) : t.get? name = some a :=
  lookup_of_mem t.nodup_map_fst_entries h

theorem get?_eq_some_iff_mem : t.get? name = some a ↔ (name, a) ∈ t.entries :=
  ⟨mem_entries_of_get?, get?_of_mem_entries⟩

/-- So the order of the entries does not matter. -/
theorem get?_of_perm (h : t.entries.Perm u.entries) (name : String) :
    t.get? name = u.get? name := by
  ext a
  rw [get?_eq_some_iff_mem, get?_eq_some_iff_mem]
  exact h.mem_iff

/-! ## Tables written entry by entry -/

/-- Write several entries one after another. -/
def insertAll (t : Table α) (entries : List (String × α)) : Table α :=
  entries.foldl (fun t entry => t.insert entry.1 entry.2) t

theorem ofList_eq_insertAll (entries : List (String × α)) :
    ofList entries = empty.insertAll entries := rfl

theorem insertAll_append (t : Table α) (entries more : List (String × α)) :
    t.insertAll (entries ++ more) = (t.insertAll entries).insertAll more :=
  List.foldl_append

theorem ofList_append_singleton (entries : List (String × α)) (name : String) (a : α) :
    ofList (entries ++ [(name, a)]) = (ofList entries).insert name a :=
  insertAll_append empty entries [(name, a)]

/-- The value of a name is the one that was written last. -/
theorem get?_insertAll (t : Table α) (entries : List (String × α)) (name : String) :
    (t.insertAll entries).get? name = (entries.reverse.lookup name).or (t.get? name) := by
  induction entries generalizing t with
  | nil => rfl
  | cons entry rest ih =>
    obtain ⟨key, a⟩ := entry
    show ((t.insert key a).insertAll rest).get? name = _
    rw [ih, get?_insert, List.reverse_cons, List.lookup_append, Option.or_assoc, lookup_cons_ite]
    split <;> rfl

theorem get?_ofList (entries : List (String × α)) (name : String) :
    (ofList entries).get? name = entries.reverse.lookup name := by
  rw [ofList_eq_insertAll, get?_insertAll, get?_empty, Option.or_none]

/-- The names stand in the order in which they were written first. -/
theorem keys_ofList (entries : List (String × α)) :
    (ofList entries).keys = (entries.map Prod.fst).eraseDups := by
  induction entries using List.reverseRecOn with
  | nil => rfl
  | append_singleton entries entry ih =>
    obtain ⟨name, a⟩ := entry
    rw [ofList_append_singleton, keys_insert, ih, List.map_append, List.eraseDups_append]
    by_cases h : name ∈ entries.map Prod.fst
    · rw [if_pos (List.mem_eraseDups.mpr h)]
      simp [List.removeAll, h]
    · rw [if_neg (mt List.mem_eraseDups.mp h)]
      simp [List.removeAll, h, List.eraseDups_cons]

theorem mem_names_ofList {entries : List (String × α)} :
    name ∈ (ofList entries).names ↔ name ∈ entries.map Prod.fst := by
  rw [mem_names_iff, keys_ofList, List.mem_eraseDups]

theorem lookup_reverse_eq_none_iff {entries : List (String × α)} :
    entries.reverse.lookup name = none ↔ name ∉ entries.map Prod.fst := by
  rw [← get?_ofList, get?_eq_none_iff, keys_ofList, List.mem_eraseDups]

/-- The entry that is found from the end is the last one under its name. -/
theorem lookup_reverse_eq_some_iff {entries : List (String × α)} :
    entries.reverse.lookup name = some a ↔ ∃ before after,
      entries = before ++ (name, a) :: after ∧ name ∉ after.map Prod.fst := by
  constructor
  · intro h
    obtain ⟨after, before, hentries, hafter⟩ := List.lookup_eq_some_iff.mp h
    refine ⟨before.reverse, after.reverse, ?_, fun hmem => ?_⟩
    · rw [← entries.reverse_reverse, hentries]
      simp
    · obtain ⟨entry, hentry, rfl⟩ := List.mem_map.mp hmem
      have hne := hafter entry (List.mem_reverse.mp hentry)
      simp at hne
  · rintro ⟨before, after, rfl, hafter⟩
    rw [List.reverse_append, List.lookup_append, List.reverse_cons, List.lookup_append,
      lookup_reverse_eq_none_iff.mpr hafter, Option.none_or, List.lookup_cons_self]
    rfl

/-- What the entries give to a name, in their order. -/
def given (entries : List (String × α)) (name : String) : List α :=
  (entries.filter fun entry => entry.1 = name).map Prod.snd

theorem given_cons (key : String) (a : α) (rest : List (String × α)) (name : String) :
    given ((key, a) :: rest) name =
      if key = name then a :: given rest name else given rest name := by
  unfold given
  rw [List.filter_cons]
  by_cases h : key = name <;> simp [h]

theorem length_given (entries : List (String × α)) (name : String) :
    (given entries name).length = (entries.map Prod.fst).count name := by
  rw [given, List.length_map, ← List.countP_eq_length_filter, List.count, List.countP_map]
  rfl

theorem given_eq_nil_iff {entries : List (String × α)} :
    given entries name = [] ↔ name ∉ entries.map Prod.fst := by
  rw [← List.length_eq_zero_iff, length_given, List.count_eq_zero]

/-- A table gives a name at most one entry. -/
theorem given_entries (t : Table α) (name : String) :
    given t.entries name = (t.get? name).toList := by
  rw [get?]
  have hnames := t.nodup_map_fst_entries
  generalize t.entries = entries at hnames ⊢
  induction entries with
  | nil => rfl
  | cons entry rest ih =>
    obtain ⟨key, a⟩ := entry
    obtain ⟨hkey, hrest⟩ := List.nodup_cons.mp hnames
    rw [given_cons, lookup_cons_ite]
    by_cases h : name = key
    · subst h
      rw [if_pos rfl, if_pos rfl, given_eq_nil_iff.mpr hkey]
      rfl
    · rw [if_neg (Ne.symm h), if_neg h]
      exact ih hrest

/-- What is found from the end is the last that the name was given. -/
theorem lookup_reverse_eq_getLast? (entries : List (String × α)) (name : String) :
    entries.reverse.lookup name = (given entries name).getLast? := by
  induction entries with
  | nil => rfl
  | cons entry rest ih =>
    obtain ⟨key, a⟩ := entry
    rw [List.reverse_cons, List.lookup_append, ih, lookup_cons_ite, given_cons]
    by_cases h : name = key
    · subst h
      rw [if_pos rfl, if_pos rfl, List.getLast?_cons]
      cases (given rest name).getLast? <;> rfl
    · rw [if_neg h, if_neg (Ne.symm h)]
      cases (given rest name).getLast? <;> rfl

theorem insertEntry_of_not_mem {entries : List (String × α)} (h : name ∉ entries.map Prod.fst) :
    insertEntry name a entries = entries ++ [(name, a)] := by
  induction entries with
  | nil => rfl
  | cons entry rest ih =>
    obtain ⟨other, b⟩ := entry
    rw [List.map_cons, List.mem_cons, not_or] at h
    obtain ⟨hne, hrest⟩ := h
    rw [insertEntry, if_neg (Ne.symm hne), ih hrest]
    rfl

/-- Entries with different names are written as they stand. -/
theorem ofList_of_nodup {entries : List (String × α)} (h : (entries.map Prod.fst).Nodup) :
    ofList entries = ofEntries entries h := by
  refine eq_of_entries ?_
  rw [entries_ofEntries]
  induction entries using List.reverseRecOn with
  | nil => rfl
  | append_singleton entries entry ih =>
    obtain ⟨name, a⟩ := entry
    rw [List.map_append, List.nodup_append] at h
    obtain ⟨hentries, -, hdisjoint⟩ := h
    have hnew : name ∉ entries.map Prod.fst := fun hmem =>
      hdisjoint name hmem name (List.mem_singleton_self name) rfl
    rw [ofList_append_singleton, entries_insert, ih hentries, insertEntry_of_not_mem hnew]

theorem mem_insertEntry {entries : List (String × α)} {entry : String × α}
    (h : entry ∈ insertEntry name a entries) : entry.2 = a ∨ entry ∈ entries := by
  induction entries with
  | nil =>
    rw [insertEntry, List.mem_singleton] at h
    exact .inl (h ▸ rfl)
  | cons other rest ih =>
    unfold insertEntry at h
    split at h <;> rcases List.mem_cons.mp h with rfl | h
    · exact .inl rfl
    · exact .inr (List.mem_cons_of_mem _ h)
    · exact .inr (List.mem_cons_self ..)
    · exact (ih h).imp_right (List.mem_cons_of_mem _)

theorem mem_entries_insert {entry : String × α} (h : entry ∈ (t.insert name a).entries) :
    entry.2 = a ∨ entry ∈ t.entries := by
  rw [entries_insert] at h
  exact mem_insertEntry h

/-- What holds of all values that are written holds of all in the table. -/
theorem forall_mem_ofList {p : α → Prop} {entries : List (String × α)}
    (h : ∀ entry ∈ entries, p entry.2) : ∀ entry ∈ (ofList entries).entries, p entry.2 := by
  suffices hfold : ∀ t : Table α, (∀ entry ∈ t.entries, p entry.2) →
      ∀ entry ∈ (entries.foldl (fun t entry => t.insert entry.1 entry.2) t).entries, p entry.2 from
    hfold empty fun _ hentry => absurd hentry List.not_mem_nil
  induction entries with
  | nil => exact fun t ht => ht
  | cons first rest ih =>
    intro t ht
    refine ih (fun entry hentry => h entry (List.mem_cons_of_mem _ hentry)) _ fun entry hentry => ?_
    rcases mem_entries_insert hentry with heq | hold
    · exact heq ▸ h first (List.mem_cons_self ..)
    · exact ht entry hold

end Table
end Templating
