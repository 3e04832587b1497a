import Templating.Proofs.Tables
import Templating.Value.Equality

/-!
# When two values are equal

Among values that hold no floating point number, equality is an equivalence
(`equalityLaw`).  A floating point number spoils it in two ways.  The one that is no
number is not equal to itself, and a whole number equals every floating point number that
it is rounded to, so two whole numbers can be equal to one thing and not to each other.

Lists and tables are compared by looking things up: a list by position, a table by key.
Two of them are equal if they answer at the same places, with equal values
(`Value.Agree`).  For tables this is more than what is computed, which is a comparison of
sizes and a search for each key of the first table in the second.  It suffices because
no table holds a key twice: the keys of the first are then as many different keys of
the second as the second has.
-/
namespace Templating
namespace Value

/-! ## What a value holds -/

/-- The kinds of values. -/
inductive Kind where
  | undefined | null | bool | int | float | text | markup | list | map | loop | module | object
  deriving DecidableEq

/-- The kind of a value. -/
def kind : Value → Kind
  | undefined _ => .undefined
  | null => .null
  | bool _ => .bool
  | int _ => .int
  | float _ => .float
  | text _ => .text
  | markup _ => .markup
  | list _ => .list
  | map _ => .map
  | loop .. => .loop
  | module .. => .module
  | object .. => .object

/-- The table that a value is compared by.  The attributes of a host object do not count:
it is an instance. -/
def table? : Value → Option (Table Value)
  | map entries => some entries
  | module _ exports _ => some exports
  | _ => none

/-- The values that a value is compared by. -/
def inner : Value → List Value
  | list items => items
  | map entries => entries.entries.map Prod.snd
  | module _ exports _ => exports.entries.map Prod.snd
  | _ => []

/-- A value holds another at some depth, or is it. -/
inductive Holds : Value → Value → Prop
  | self (v : Value) : Holds v v
  | inner {v w u : Value} : w ∈ v.inner → Holds w u → Holds v u

/-- There is no floating point number in a value, at any depth. -/
def FloatFree (v : Value) : Prop := ∀ x, ¬ v.Holds (float x)

variable {a b c v w : Value} {t : Table Value} {name : String}

theorem mem_inner_of_get? (ht : v.table? = some t) (h : t.get? name = some a) : a ∈ v.inner := by
  have hmem : a ∈ t.entries.map Prod.snd := List.mem_map_of_mem (Table.mem_entries_of_get? h)
  cases v with
  | map => cases ht; exact hmem
  | module => cases ht; exact hmem
  | _ => cases ht

theorem FloatFree.inner (h : v.FloatFree) (hw : w ∈ v.inner) : w.FloatFree :=
  fun x hx => h x (.inner hw hx)

theorem FloatFree.ne_float (h : v.FloatFree) (x : Float) : v ≠ float x := by
  rintro rfl
  exact h x (.self _)

/-- There is none in a value if there is none in what it holds directly. -/
theorem floatFree_of_inner (hv : ∀ x, v ≠ float x) (h : ∀ w ∈ v.inner, w.FloatFree) :
    v.FloatFree := by
  intro x hx
  cases hx with
  | self => exact hv x rfl
  | inner hw hx => exact h _ hw x hx

theorem floatFree_map_ofList {entries : List (String × Value)}
    (h : ∀ entry ∈ entries, entry.2.FloatFree) : (map (Table.ofList entries)).FloatFree := by
  refine floatFree_of_inner (by simp) fun w hw => ?_
  obtain ⟨entry, hentry, rfl⟩ := List.mem_map.mp hw
  exact Table.forall_mem_ofList h entry hentry

theorem sizeOf_lt_of_mem_row {names : List String} {row : Table.Row Value names}
    (h : w ∈ row.entries.map Prod.snd) : sizeOf w < sizeOf row := by
  induction row with
  | nil => cases h
  | cons a rest ih =>
    rw [Table.Row.cons.sizeOf_spec]
    rcases List.mem_cons.mp h with rfl | hrest
    · omega
    · have hlt := ih hrest
      omega

theorem sizeOf_lt_of_mem_inner (h : w ∈ v.inner) : sizeOf w < sizeOf v := by
  cases v with
  | list items =>
    have hlt : sizeOf w < sizeOf items := List.sizeOf_lt_of_mem h
    rw [list.sizeOf_spec]
    omega
  | map t =>
    obtain ⟨_, _, row⟩ := t
    have hlt : sizeOf w < sizeOf row := sizeOf_lt_of_mem_row h
    rw [map.sizeOf_spec, Table.mk.sizeOf_spec]
    omega
  | module name t body =>
    obtain ⟨_, _, row⟩ := t
    have hlt : sizeOf w < sizeOf row := sizeOf_lt_of_mem_row h
    rw [module.sizeOf_spec, Table.mk.sizeOf_spec]
    omega
  | _ => cases h

/-- What holds of a value whenever it holds of the values in it holds of all values. -/
@[elab_as_elim]
theorem inductionInner {motive : Value → Prop}
    (step : ∀ v, (∀ w ∈ v.inner, motive w) → motive v) (v : Value) : motive v :=
  step v fun w _ => inductionInner step w
termination_by sizeOf v
decreasing_by exact sizeOf_lt_of_mem_inner ‹_›

/-! ## Lists and tables -/

/-- Two ways to look values up answer at the same places, and with equal values. -/
structure Agree {ι : Type} (f g : ι → Option Value) : Prop where
  places : ∀ i, (f i).isSome = true ↔ (g i).isSome = true
  equal : ∀ {i a b}, f i = some a → g i = some b → a.equals b = true

namespace Agree

variable {ι : Type} {f g h : ι → Option Value}

theorem refl (hmem : ∀ {i a}, f i = some a → a.equals a = true) : Agree f f where
  places _ := Iff.rfl
  equal ha hb := by
    rw [ha] at hb
    cases hb
    exact hmem ha

theorem symm (hmem : ∀ {i a b}, f i = some a → g i = some b → a.equals b = true →
    b.equals a = true) (hagree : Agree f g) : Agree g f where
  places i := (hagree.places i).symm
  equal hb ha := hmem ha hb (hagree.equal ha hb)

theorem trans (hmem : ∀ {i a b c}, f i = some a → g i = some b → h i = some c →
    a.equals b = true → b.equals c = true → a.equals c = true)
    (hfg : Agree f g) (hgh : Agree g h) : Agree f h where
  places i := (hfg.places i).trans (hgh.places i)
  equal {i a c} ha hc := by
    obtain ⟨b, hb⟩ := Option.isSome_iff_exists.mp ((hfg.places i).mp (ha ▸ rfl))
    exact hmem ha hb hc (hfg.equal ha hb) (hgh.equal hb hc)

theorem getElem?_iff {as bs : List Value} :
    Agree (fun i : Nat => as[i]?) (fun i => bs[i]?) ↔ as.length = bs.length ∧
      ∀ (i : Nat) a b, as[i]? = some a → bs[i]? = some b → a.equals b = true := by
  constructor
  · intro hagree
    refine ⟨Nat.le_antisymm (Nat.le_of_not_lt fun hlt => ?_) (Nat.le_of_not_lt fun hlt => ?_),
      fun i a b => hagree.equal⟩
    · have hsome := (hagree.places bs.length).mp (by simp [hlt])
      simp at hsome
    · have hsome := (hagree.places as.length).mpr (by simp [hlt])
      simp at hsome
  · rintro ⟨hlength, hequal⟩
    exact ⟨fun i => by simp [hlength], fun ha hb => hequal _ _ _ ha hb⟩

theorem get?_iff {as bs : Table Value} : Agree as.get? bs.get? ↔
    (∀ key, key ∈ as.keys ↔ key ∈ bs.keys) ∧
      ∀ key a b, as.get? key = some a → bs.get? key = some b → a.equals b = true := by
  simp only [Table.mem_keys_iff, Table.contains]
  constructor
  · intro hagree
    exact ⟨hagree.places, fun _ _ _ => hagree.equal⟩
  · rintro ⟨hplaces, hequal⟩
    exact ⟨hplaces, fun ha hb => hequal _ _ _ ha hb⟩

end Agree

theorem equalItems_iff {as bs : List Value} :
    equalItems as bs = true ↔ Agree (fun i : Nat => as[i]?) (fun i => bs[i]?) := by
  rw [Agree.getElem?_iff]
  induction as generalizing bs with
  | nil =>
    cases bs with
    | nil => exact iff_of_true rfl (by simp)
    | cons => exact iff_of_false Bool.false_ne_true (by simp)
  | cons a as ih =>
    cases bs with
    | nil => exact iff_of_false Bool.false_ne_true (by simp)
    | cons b bs =>
      rw [equalItems_cons, Bool.and_eq_true, ih]
      constructor
      · rintro ⟨hfirst, hlength, hrest⟩
        refine ⟨congrArg Nat.succ hlength, fun i => ?_⟩
        cases i with
        | zero => rintro _ _ ⟨⟩ ⟨⟩; exact hfirst
        | succ i => exact hrest i
      · rintro ⟨hlength, hequal⟩
        exact ⟨hequal 0 a b rfl rfl, Nat.succ.inj hlength, fun i => hequal (i + 1)⟩

theorem equalEntries_iff {names : List String} {row : Table.Row Value names} {bs : Table Value} :
    equalEntries row bs = true ↔
      ∀ key a, (key, a) ∈ row.entries → ∃ b, bs.get? key = some b ∧ a.equals b = true := by
  induction row with
  | nil => exact iff_of_true rfl (by simp [Table.Row.entries])
  | @cons key _ a rest ih =>
    rw [equalEntries_cons, Bool.and_eq_true, ih]
    constructor
    · rintro ⟨hfirst, hrest⟩ other b hmem
      rcases List.mem_cons.mp hmem with heq | hmem
      · cases heq
        cases hget : bs.get? key with
        | none => simp [hget] at hfirst
        | some c => exact ⟨c, rfl, by simpa [hget] using hfirst⟩
      · exact hrest other b hmem
    · intro h
      refine ⟨?_, fun other b hmem => h other b (List.mem_cons_of_mem _ hmem)⟩
      obtain ⟨b, hget, heq⟩ := h key a (List.mem_cons_self ..)
      simpa [hget] using heq

/-- No key occurs twice, so the size and the keys of the first table tell the keys of the
second. -/
theorem equalTables_iff {as bs : Table Value} :
    equalTables as bs = true ↔ Agree as.get? bs.get? := by
  rw [Agree.get?_iff, equalTables, Bool.and_eq_true, equalEntries_iff, beq_iff_eq]
  constructor
  · rintro ⟨hsize, hentries⟩
    have hsubset : as.keys ⊆ bs.keys := by
      intro key hkey
      obtain ⟨a, ha⟩ := Table.mem_keys_iff_exists.mp hkey
      obtain ⟨b, hb, -⟩ := hentries key a (Table.mem_entries_of_get? ha)
      exact Table.mem_keys_iff_exists.mpr ⟨b, hb⟩
    have hlength : bs.keys.length ≤ as.keys.length := Nat.le_of_eq hsize.symm
    have hperm : as.keys.Perm bs.keys :=
      (List.subperm_of_subset as.nodup_keys hsubset).perm_of_length_le hlength
    refine ⟨fun key => hperm.mem_iff, fun key a b ha hb => ?_⟩
    obtain ⟨c, hc, heq⟩ := hentries key a (Table.mem_entries_of_get? ha)
    rw [hb] at hc
    cases hc
    exact heq
  · rintro ⟨hkeys, hvalues⟩
    constructor
    · have hperm : as.keys.Perm bs.keys :=
        (List.perm_ext_iff_of_nodup as.nodup_keys bs.nodup_keys).mpr hkeys
      exact hperm.length_eq
    · intro key a hmem
      have ha := Table.get?_of_mem_entries hmem
      obtain ⟨b, hb⟩ := Table.mem_keys_iff_exists.mp
        ((hkeys key).mp (Table.mem_keys_iff_exists.mpr ⟨a, ha⟩))
      exact ⟨b, hb, hvalues key a b ha hb⟩

/-- What is in a table counts, not the order in which it was written. -/
theorem equalTables_of_perm {as bs : Table Value} (h : as.entries.Perm bs.entries)
    (t : Table Value) :
    equalTables as t = equalTables bs t ∧ equalTables t as = equalTables t bs := by
  have hget : as.get? = bs.get? := funext fun key => Table.get?_of_perm h key
  constructor
  · rw [Bool.eq_iff_iff, equalTables_iff, equalTables_iff, hget]
  · rw [Bool.eq_iff_iff, equalTables_iff, equalTables_iff, hget]

/-! ## What a value is equal to -/

/-- A value that holds no other and is no instance, nor a floating point number. -/
def IsPlain : Value → Prop
  | undefined _ | null | bool _ | int _ | text _ | markup _ => True
  | _ => False

theorem equals_iff_of_isPlain (ha : a.IsPlain) (hv : ∀ x, v ≠ float x) :
    a.equals v = true ↔ a = v := by
  cases v with
  | float x => exact absurd rfl (hv x)
  | _ => cases a <;> simp_all [IsPlain, equals]

theorem list_equals_iff {as : List Value} : (list as).equals v = true ↔
    ∃ bs, v = list bs ∧ Agree (fun i : Nat => as[i]?) (fun i => bs[i]?) := by
  cases v with
  | list bs => simp [equals_list, equalItems_iff]
  | _ => exact iff_of_false Bool.false_ne_true (by simp)

theorem map_equals_iff {as : Table Value} : (map as).equals v = true ↔
    ∃ bs, v = map bs ∧ equalTables as bs = true := by
  cases v with
  | map bs => simp [equals_map]
  | _ => exact iff_of_false Bool.false_ne_true (by simp)

theorem module_equals_iff {body : String} {as : Table Value} :
    (module name as body).equals v = true ↔
      ∃ bs, v = module name bs body ∧ equalTables as bs = true := by
  cases v with
  | module name' bs body' =>
    simp only [equals_module, Bool.and_eq_true, beq_iff_eq, module.injEq]
    constructor
    · rintro ⟨⟨rfl, htables⟩, rfl⟩
      exact ⟨bs, ⟨rfl, rfl, rfl⟩, htables⟩
    · rintro ⟨_, ⟨rfl, rfl, rfl⟩, htables⟩
      exact ⟨⟨rfl, htables⟩, rfl⟩
  | _ => exact iff_of_false Bool.false_ne_true (by simp)

theorem loop_equals_iff {id : InstanceId} {context : LoopContext} :
    (loop id context).equals v = true ↔ ∃ context', v = loop id context' := by
  cases v with
  | loop id' context' => simpa [equals_loop] using eq_comm
  | _ => exact iff_of_false Bool.false_ne_true (by simp)

theorem object_equals_iff {id : InstanceId} {typeName shown : String} {isSafe : Bool} :
    (object id typeName shown isSafe t).equals v = true ↔
      ∃ typeName' shown' isSafe' t', v = object id typeName' shown' isSafe' t' := by
  cases v with
  | object id' typeName' shown' isSafe' t' => simpa [equals_object] using eq_comm
  | _ => exact iff_of_false Bool.false_ne_true (by simp)

theorem undefined_equals_iff : (undefined name).equals v = true ↔ v = undefined name := by
  cases v with
  | undefined name' => simpa [equals_undefined] using eq_comm
  | _ => exact iff_of_false Bool.false_ne_true (by simp)

/-- Equal values are of one kind, unless one of them is a floating point number. -/
theorem kind_eq_of_equals (ha : ∀ x, a ≠ float x) (hb : ∀ x, b ≠ float x)
    (h : a.equals b = true) : a.kind = b.kind := by
  cases a with
  | float x => exact absurd rfl (ha x)
  | list => obtain ⟨_, rfl, -⟩ := list_equals_iff.mp h; rfl
  | map => obtain ⟨_, rfl, -⟩ := map_equals_iff.mp h; rfl
  | module => obtain ⟨_, rfl, -⟩ := module_equals_iff.mp h; rfl
  | loop => obtain ⟨_, rfl⟩ := loop_equals_iff.mp h; rfl
  | object => obtain ⟨_, _, _, _, rfl⟩ := object_equals_iff.mp h; rfl
  | _ => rw [(equals_iff_of_isPlain (by trivial) hb).mp h]

/-! ## An equivalence -/

theorem equals_refl (ha : a.FloatFree) : a.equals a = true := by
  induction a using inductionInner with
  | step a ih =>
    have hinner {b : Value} (hb : b ∈ a.inner) : b.equals b = true := ih b hb (ha.inner hb)
    have htable {t : Table Value} (ht : a.table? = some t) : equalTables t t = true :=
      equalTables_iff.mpr (.refl fun hget => hinner (mem_inner_of_get? ht hget))
    cases a with
    | list as => exact list_equals_iff.mpr ⟨as, rfl, .refl fun hget =>
        hinner (List.mem_of_getElem? hget)⟩
    | map as => exact map_equals_iff.mpr ⟨as, rfl, htable rfl⟩
    | module _ as _ => exact module_equals_iff.mpr ⟨as, rfl, htable rfl⟩
    | loop _ context => exact loop_equals_iff.mpr ⟨context, rfl⟩
    | object => exact object_equals_iff.mpr ⟨_, _, _, _, rfl⟩
    | float x => exact absurd rfl (ha.ne_float x)
    | _ => exact (equals_iff_of_isPlain (by trivial) ha.ne_float).mpr rfl

theorem equals_symm (ha : a.FloatFree) (hb : b.FloatFree) (h : a.equals b = true) :
    b.equals a = true := by
  induction a using inductionInner generalizing b with
  | step a ih =>
    have hinner {v w : Value} (hv : v ∈ a.inner) (hw : w ∈ b.inner) :
        v.equals w = true → w.equals v = true :=
      ih v hv (ha.inner hv) (hb.inner hw)
    have htable {t u : Table Value} (ht : a.table? = some t) (hu : b.table? = some u)
        (h : equalTables t u = true) : equalTables u t = true := by
      rw [equalTables_iff] at h ⊢
      exact h.symm fun hget hget' => hinner (mem_inner_of_get? ht hget) (mem_inner_of_get? hu hget')
    cases a with
    | list as =>
      obtain ⟨bs, rfl, hagree⟩ := list_equals_iff.mp h
      exact list_equals_iff.mpr ⟨as, rfl, hagree.symm fun hget hget' =>
        hinner (List.mem_of_getElem? hget) (List.mem_of_getElem? hget')⟩
    | map as =>
      obtain ⟨bs, rfl, hequal⟩ := map_equals_iff.mp h
      exact map_equals_iff.mpr ⟨as, rfl, htable rfl rfl hequal⟩
    | module _ as _ =>
      obtain ⟨bs, rfl, hequal⟩ := module_equals_iff.mp h
      exact module_equals_iff.mpr ⟨as, rfl, htable rfl rfl hequal⟩
    | loop _ context =>
      obtain ⟨_, rfl⟩ := loop_equals_iff.mp h
      exact loop_equals_iff.mpr ⟨context, rfl⟩
    | object =>
      obtain ⟨_, _, _, _, rfl⟩ := object_equals_iff.mp h
      exact object_equals_iff.mpr ⟨_, _, _, _, rfl⟩
    | float x => exact absurd rfl (ha.ne_float x)
    | _ =>
      obtain rfl := (equals_iff_of_isPlain (by trivial) hb.ne_float).mp h
      exact h

theorem equals_trans (ha : a.FloatFree) (hb : b.FloatFree) (hc : c.FloatFree)
    (hab : a.equals b = true) (hbc : b.equals c = true) : a.equals c = true := by
  induction a using inductionInner generalizing b c with
  | step a ih =>
    have hinner {u v w : Value} (hu : u ∈ a.inner) (hv : v ∈ b.inner) (hw : w ∈ c.inner) :
        u.equals v = true → v.equals w = true → u.equals w = true :=
      ih u hu (ha.inner hu) (hb.inner hv) (hc.inner hw)
    have htable {t u v : Table Value} (ht : a.table? = some t) (hu : b.table? = some u)
        (hv : c.table? = some v) (htu : equalTables t u = true) (huv : equalTables u v = true) :
        equalTables t v = true := by
      rw [equalTables_iff] at htu huv ⊢
      exact htu.trans (fun hget hget' hget'' => hinner (mem_inner_of_get? ht hget)
        (mem_inner_of_get? hu hget') (mem_inner_of_get? hv hget'')) huv
    cases a with
    | list as =>
      obtain ⟨bs, rfl, habs⟩ := list_equals_iff.mp hab
      obtain ⟨cs, rfl, hbcs⟩ := list_equals_iff.mp hbc
      exact list_equals_iff.mpr ⟨cs, rfl, habs.trans (fun hget hget' hget'' =>
        hinner (List.mem_of_getElem? hget) (List.mem_of_getElem? hget')
          (List.mem_of_getElem? hget'')) hbcs⟩
    | map as =>
      obtain ⟨bs, rfl, habs⟩ := map_equals_iff.mp hab
      obtain ⟨cs, rfl, hbcs⟩ := map_equals_iff.mp hbc
      exact map_equals_iff.mpr ⟨cs, rfl, htable rfl rfl rfl habs hbcs⟩
    | module _ as _ =>
      obtain ⟨bs, rfl, habs⟩ := module_equals_iff.mp hab
      obtain ⟨cs, rfl, hbcs⟩ := module_equals_iff.mp hbc
      exact module_equals_iff.mpr ⟨cs, rfl, htable rfl rfl rfl habs hbcs⟩
    | loop =>
      obtain ⟨_, rfl⟩ := loop_equals_iff.mp hab
      exact loop_equals_iff.mpr (loop_equals_iff.mp hbc)
    | object =>
      obtain ⟨_, _, _, _, rfl⟩ := object_equals_iff.mp hab
      exact object_equals_iff.mpr (object_equals_iff.mp hbc)
    | float x => exact absurd rfl (ha.ne_float x)
    | _ =>
      obtain rfl := (equals_iff_of_isPlain (by trivial) hb.ne_float).mp hab
      exact hbc

end Value

/-! ## The law -/

open Value in
/-- What equality of values is. -/
structure EqualityLaw : Prop where
  /-- A value without floating point numbers is equal to itself. -/
  refl : ∀ {a : Value}, a.FloatFree → a.equals a = true
  /-- It does not matter which of two values is asked, -/
  symm : ∀ {a b : Value}, a.FloatFree → b.FloatFree → a.equals b = true → b.equals a = true
  /-- and what is equal to an equal value is equal. -/
  trans : ∀ {a b c : Value}, a.FloatFree → b.FloatFree → c.FloatFree →
    a.equals b = true → b.equals c = true → a.equals c = true
  /-- Writing such values into a map, key by key, gives such a map. -/
  written : ∀ {entries}, (∀ entry ∈ entries, entry.2.FloatFree) →
    (map (Table.ofList entries)).FloatFree
  /-- Two lists are equal if they have one length and equal elements at each position. -/
  lists : ∀ {as bs}, (list as).equals (list bs) = true ↔ as.length = bs.length ∧
    ∀ (i : Nat) a b, as[i]? = some a → bs[i]? = some b → a.equals b = true
  /-- Two maps are equal if they have the same keys and equal values under each. -/
  maps : ∀ {as bs : Table Value},
    (map as).equals (map bs) = true ↔ (∀ key, key ∈ as.keys ↔ key ∈ bs.keys) ∧
      ∀ key a b, as.get? key = some a → bs.get? key = some b → a.equals b = true
  /-- The order of the entries never shows: two maps that differ in it are equal to the
  same values, and the same values to them. -/
  reordered : ∀ {as bs : Table Value}, as.entries.Perm bs.entries → ∀ v,
    (map as).equals v = (map bs).equals v ∧ v.equals (map as) = v.equals (map bs)
  /-- Two modules are equal if their names, their bodies and their exports are. -/
  modules : ∀ {name name' as bs body body'},
    (module name as body).equals (module name' bs body') = true ↔
      name = name' ∧ (map as).equals (map bs) = true ∧ body = body'
  /-- A loop is equal to the loops that are the same instance, and to nothing else. -/
  loops : ∀ {id context v}, (loop id context).equals v = true ↔
    ∃ context', v = loop id context'
  /-- So it is with host objects, whatever their texts and attributes. -/
  objects : ∀ {id typeName shown isSafe t v},
    (object id typeName shown isSafe t).equals v = true ↔
      ∃ typeName' shown' isSafe' t', v = object id typeName' shown' isSafe' t'
  /-- An undefined marker is equal to the marker of the same name and to nothing else, empty
  or not. -/
  undefineds : ∀ {name v}, (undefined name).equals v = true ↔ v = undefined name
  /-- Values of different kinds are not equal. -/
  kinds : ∀ {a b : Value}, a.FloatFree → b.FloatFree → a.equals b = true → a.kind = b.kind

/-- Without floating point numbers, equality is an equivalence that sees what values hold
and not how it was put there. -/
theorem equalityLaw : EqualityLaw where
  refl := Value.equals_refl
  symm := Value.equals_symm
  trans := Value.equals_trans
  written := Value.floatFree_map_ofList
  lists {as bs} := by
    rw [Value.equals_list, Value.equalItems_iff, Value.Agree.getElem?_iff]
  maps {as bs} := by
    rw [Value.equals_map, Value.equalTables_iff, Value.Agree.get?_iff]
  reordered {as bs} h v := by
    cases v with
    | map t =>
      simp only [Value.equals_map]
      exact Value.equalTables_of_perm h t
    | _ => exact ⟨rfl, rfl⟩
  modules {name name' as bs body body'} := by
    rw [Value.module_equals_iff, Value.equals_map]
    constructor
    · rintro ⟨_, ⟨⟩, h⟩
      exact ⟨rfl, h, rfl⟩
    · rintro ⟨rfl, h, rfl⟩
      exact ⟨bs, rfl, h⟩
  loops := Value.loop_equals_iff
  objects := Value.object_equals_iff
  undefineds := Value.undefined_equals_iff
  kinds ha hb := Value.kind_eq_of_equals ha.ne_float hb.ne_float

/-- Two whole numbers that differ and that are equal to one floating point number. -/
example :
    (Value.int 9007199254740992).equals (.float 9007199254740992.0) = true ∧
    (Value.float 9007199254740992.0).equals (.int 9007199254740993) = true ∧
    (Value.int 9007199254740992).equals (.int 9007199254740993) = false := by
  decide

end Templating
