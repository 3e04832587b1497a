import Mathlib.Data.String.Basic
import Templating.Proofs.MachineWords
import Templating.Proofs.Tables
import Templating.Value.Access

/-!
# Items and sequences

What can be looked up in a value agrees with what iterating over it gives
(`indexingLaw`).  A list or a text has the elements of its sequence under their positions,
counted from either end, and an undefined marker under every other number.  A map has a
value under each key that it lists, and an undefined marker under every other key.

A text is a row of bytes in which a character takes one to four, so there is no going to
its `n`-th character directly: the characters are counted, and then passed one by one.
Neither of these walks builds the sequence, and they meet its elements all the same
(`Text.nth?_eq`).  The position itself comes out of a computation in machine words, which
is exact for every index, the least one included, whose magnitude is no index itself
(`Word.resolveIndex_eq_some_iff`).
-/
namespace Templating

/-! ## Walking along a text -/

namespace Text

/-- The number of characters from a place in the bytes of a text on. -/
def countFrom (s : String) (p : String.Pos.Raw) : Nat :=
  if h : p.atEnd s then 0 else countFrom s (p.next s) + 1
termination_by s.utf8ByteSize - p.byteIdx
decreasing_by
  have hnext : (p.next s).byteIdx = p.byteIdx + (p.get s).utf8Size := rfl
  have hpos : 0 < (p.get s).utf8Size := Char.utf8Size_pos _
  have hlt : p.byteIdx < s.utf8ByteSize := by
    rw [String.Pos.Raw.atEnd, decide_eq_true_iff] at h
    exact Nat.lt_of_not_le h
  omega

/-- The number of characters of a text. -/
def count (s : String) : Nat := countFrom s 0

/-- The character that comes `n` characters after a place. -/
def nthFrom? (s : String) (p : String.Pos.Raw) (n : Nat) : Option Char :=
  if p.atEnd s then none
  else
    match n with
    | 0 => some (p.get s)
    | n + 1 => nthFrom? s (p.next s) n

/-- The `n`-th character of a text, counted from zero. -/
def nth? (s : String) (n : Nat) : Option Char := nthFrom? s 0 n

theorem not_atEnd (before : List Char) (c : Char) (after : List Char) :
    ¬ String.Pos.Raw.atEnd (String.ofList (before ++ c :: after)) ⟨String.utf8Len before⟩ =
        true := by
  rw [String.atEnd_of_valid]
  exact List.cons_ne_nil c after

theorem next_eq (before : List Char) (c : Char) (after : List Char) :
    String.Pos.Raw.next (String.ofList (before ++ c :: after)) ⟨String.utf8Len before⟩ =
      ⟨String.utf8Len (before ++ [c])⟩ := by
  rw [String.next_of_valid, String.utf8Len_append, String.utf8Len_cons, String.utf8Len_nil,
    Nat.zero_add]

/-- From a place between two characters on, those after it are counted. -/
theorem countFrom_eq (before after : List Char) :
    countFrom (String.ofList (before ++ after)) ⟨String.utf8Len before⟩ = after.length := by
  induction after generalizing before with
  | nil =>
    rw [countFrom, dif_pos ((String.atEnd_of_valid before []).mpr rfl)]
    rfl
  | cons c after ih =>
    rw [countFrom, dif_neg (not_atEnd before c after), next_eq, List.append_cons, ih]
    rfl

theorem nthFrom?_eq (before after : List Char) (n : Nat) :
    nthFrom? (String.ofList (before ++ after)) ⟨String.utf8Len before⟩ n = after[n]? := by
  induction after generalizing before n with
  | nil =>
    unfold nthFrom?
    rw [if_pos ((String.atEnd_of_valid before []).mpr rfl)]
    rfl
  | cons c after ih =>
    unfold nthFrom?
    rw [if_neg (not_atEnd before c after)]
    cases n with
    | zero =>
      dsimp only
      rw [String.get_of_valid]
      rfl
    | succ n =>
      dsimp only
      rw [next_eq, List.append_cons, ih]
      rfl

theorem count_eq (s : String) : count s = s.toList.length := by
  have h := countFrom_eq [] s.toList
  rwa [List.nil_append, String.ofList_toList] at h

theorem nth?_eq (s : String) (n : Nat) : nth? s n = s.toList[n]? := by
  have h := nthFrom?_eq [] s.toList n
  rwa [List.nil_append, String.ofList_toList] at h

end Text

/-! ## In machine words -/

namespace Word

/-- The position that an index stands for in a sequence of some length. -/
def resolveIndex (index : Int64) (length : USize) : Option USize :=
  if index < 0 then do
    let back ← toSize? (magnitude index)
    checkedSub? length back
  else toSize? index.toUInt64

/-- `Value.elementAt?` in words. -/
def elementAt? {α : Type} (items : List α) (index : Int64) : Option α := do
  let position ← resolveIndex index (USize.ofNat items.length)
  items[position.toNat]?

/-- The character at an index, by counting all and then passing those before it. -/
def characterAt? (s : String) (index : Int64) : Option Char := do
  let position ← resolveIndex index (USize.ofNat (Text.count s))
  Text.nth? s position.toNat

/-- `Value.item` under an index, in words. -/
def item (v : Value) (index : Int64) : Value :=
  let found : Option Value :=
    match v with
    | .list items => elementAt? items index
    | .text s => (characterAt? s index).map fun c => .text c.toString
    | _ => none
  found.getD (.undefined (toString index.toInt))

theorem resolveIndex_eq_some_iff {index : Int64} {length position : USize} :
    resolveIndex index length = some position ↔
      (position.toNat : Int) =
        if index.toInt < 0 then length.toNat + index.toInt else index.toInt := by
  have hsign : index < 0 ↔ index.toInt < 0 := by
    rw [Int64.lt_iff_toInt_lt, Int64.toInt_zero]
  unfold resolveIndex
  by_cases h : index < 0
  · have hint : index.toInt < 0 := hsign.mp h
    have hmagnitude := toNat_magnitude index
    rw [if_pos h, if_pos hint]
    simp only [Option.bind_eq_bind, Option.bind_eq_some_iff, toSize?_eq_some_iff,
      checkedSub?_eq_some_iff]
    constructor
    · rintro ⟨back, hback, hsum⟩
      omega
    · intro hposition
      have hlt : (magnitude index).toNat < USize.size := by
        have hlength := USize.toNat_lt_size length
        omega
      exact ⟨USize.ofNatLT _ hlt, USize.toNat_ofNatLT, by rw [USize.toNat_ofNatLT]; omega⟩
  · have hint : ¬ index.toInt < 0 := mt hsign.mpr h
    rw [if_neg h, if_neg hint, toSize?_eq_some_iff, toNat_toUInt64_of_nonneg (by omega)]
    omega

theorem elementAt?_eq {α : Type} {items : List α} (h : items.length < USize.size) (index : Int64) :
    elementAt? items index = Value.elementAt? items index.toInt := by
  have hlength : (USize.ofNat items.length).toNat = items.length := USize.toNat_ofNat_of_lt' h
  ext a
  simp only [elementAt?, Option.bind_eq_bind, Option.bind_eq_some_iff, resolveIndex_eq_some_iff,
    Value.elementAt?_eq_some_iff, hlength]
  constructor
  · rintro ⟨position, hposition, hget⟩
    exact ⟨position.toNat, hposition, hget⟩
  · rintro ⟨position, hposition, hget⟩
    -- Only a position inside the list is known to fit a word.
    have hlt : position < USize.size := by
      have hinside := (List.getElem?_eq_some_iff.mp hget).1
      omega
    refine ⟨USize.ofNatLT position hlt, ?_, ?_⟩
    · rw [USize.toNat_ofNatLT, hposition]
    · rw [USize.toNat_ofNatLT, hget]

theorem characterAt?_eq {s : String} (h : s.toList.length < USize.size) (index : Int64) :
    characterAt? s index = Value.elementAt? s.toList index.toInt := by
  rw [← elementAt?_eq h]
  simp only [characterAt?, elementAt?, Text.count_eq, Text.nth?_eq]

end Word

/-! ## Positions -/

namespace Value

/-- The values that have items under positions. -/
def IsIndexed : Value → Prop
  | list _ | text _ => True
  | _ => False

variable {v : Value} {items : List Value} {entries : Table Value} {key : String}

theorem IsIndexed.sequence? (h : v.IsIndexed) : ∃ items, v.sequence? = some items := by
  cases v with
  | list items => exact ⟨items, rfl⟩
  | text s => exact ⟨_, rfl⟩
  | _ => cases h

/-- The item under a position is that element of the sequence. -/
theorem IsIndexed.item_int (h : v.IsIndexed) (hitems : v.sequence? = some items) (i : Int) :
    v.item (int i) = (elementAt? items i).getD (undefined (toString i)) := by
  cases v with
  | list _ =>
    cases hitems
    rfl
  | text s =>
    cases hitems
    rw [elementAt?_map]
    rfl
  | _ => cases h

theorem IsIndexed.item_eq (h : v.IsIndexed) (hitems : v.sequence? = some items) {i : Int}
    {place : Nat} (hplace : (place : Int) = if i < 0 then items.length + i else i)
    (hlt : place < items.length) : items[place]? = some (v.item (int i)) := by
  have helement : elementAt? items i = some items[place] :=
    elementAt?_eq_some_iff.mpr ⟨place, hplace, List.getElem?_eq_getElem hlt⟩
  rw [h.item_int hitems, helement, Option.getD_some, List.getElem?_eq_getElem hlt]

theorem IsIndexed.item_of_outside (h : v.IsIndexed) (hitems : v.sequence? = some items) {i : Int}
    (hi : i < -items.length ∨ items.length ≤ i) : v.item (int i) = undefined (toString i) := by
  have helement : elementAt? items i = none := by
    rw [Option.eq_none_iff_forall_ne_some]
    intro a ha
    obtain ⟨place, hplace, hget⟩ := elementAt?_eq_some_iff.mp ha
    have hlt : place < items.length := (List.getElem?_eq_some_iff.mp hget).1
    split at hplace <;> omega
  rw [h.item_int hitems, helement, Option.getD_none]

theorem IsIndexed.item_inWords (h : v.IsIndexed) (hitems : v.sequence? = some items)
    (hlength : items.length < USize.size) (index : Int64) :
    Word.item v index = v.item (int index.toInt) := by
  cases v with
  | list _ =>
    cases hitems
    rw [Word.item, Word.elementAt?_eq hlength]
    rfl
  | text s =>
    cases hitems
    rw [List.length_map] at hlength
    rw [Word.item, Word.characterAt?_eq hlength]
    rfl
  | _ => cases h

/-! ## Keys -/

theorem text_mem_sequence_iff (hitems : (map entries).sequence? = some items) :
    text key ∈ items ↔ key ∈ entries.keys := by
  cases hitems
  rw [List.mem_map]
  constructor
  · rintro ⟨_, hkey, ⟨⟩⟩
    exact hkey
  · intro hkey
    exact ⟨key, hkey, rfl⟩

theorem attr_map_of_get? (h : entries.get? key = some v) : (map entries).attr key = v := by
  rw [attr, h, Option.getD_some]

theorem attr_map_of_not_mem (h : key ∉ entries.keys) :
    (map entries).attr key = undefined key := by
  rw [attr, Table.get?_eq_none_iff.mpr h, Option.getD_none]

/-- An item under a name is an attribute, even where there are neither. -/
theorem item_text (v : Value) (key : String) : v.item (text key) = v.attr key := by
  cases v <;> rfl

end Value

/-! ## The law -/

open Value in
/-- Items agree with the sequence. -/
structure IndexingLaw : Prop where
  /-- Lists and texts have a sequence. -/
  iterable : ∀ {v : Value}, v.IsIndexed → ∃ items, v.sequence? = some items
  /-- A position inside the sequence counts from its beginning, -/
  fromStart : ∀ {v : Value} {items} {i : Int}, v.IsIndexed → v.sequence? = some items →
    0 ≤ i → i < items.length → items[i.toNat]? = some (v.item (int i))
  /-- a negative one from its end, -/
  fromEnd : ∀ {v : Value} {items} {i : Int}, v.IsIndexed → v.sequence? = some items →
    -items.length ≤ i → i < 0 → items[(items.length + i).toNat]? = some (v.item (int i))
  /-- and under any other there is the undefined marker with the number for a name. -/
  outside : ∀ {v : Value} {items} {i : Int}, v.IsIndexed → v.sequence? = some items →
    i < -items.length ∨ items.length ≤ i → v.item (int i) = undefined (toString i)
  /-- In words the items are the same, for every index that a word holds and every sequence
  whose length it holds. -/
  inWords : ∀ {v : Value} {items}, v.IsIndexed → v.sequence? = some items →
    items.length < USize.size → ∀ index : Int64, Word.item v index = v.item (int index.toInt)
  /-- The computation of the position never leaves what a word holds, except where the
  position does. -/
  resolved : ∀ {index : Int64} {length position : USize},
    Word.resolveIndex index length = some position ↔ (position.toNat : Int) =
      if index.toInt < 0 then length.toNat + index.toInt else index.toInt
  /-- The magnitude in it is exact, that of the least index included. -/
  magnitude : ∀ index : Int64, (Word.magnitude index).toNat = index.toInt.natAbs
  /-- Along a text, the characters are as many as its sequence has, -/
  counted : ∀ s, (text s).sequence?.map List.length = some (Text.count s)
  /-- and met in the order of its sequence. -/
  passed : ∀ {s items}, (text s).sequence? = some items →
    ∀ n, items[n]? = (Text.nth? s n).map fun c => text c.toString
  /-- A map has the value of a key that it lists, -/
  stored : ∀ {entries items key}, (map entries).sequence? = some items → text key ∈ items →
    ∃ v, (key, v) ∈ entries.entries ∧ (map entries).attr key = v ∧ (map entries).item (text key) = v
  /-- which is the only one in its table, -/
  only : ∀ {entries : Table Value} {key v}, (key, v) ∈ entries.entries →
    (map entries).attr key = v
  /-- and the undefined marker under every other key. -/
  unlisted : ∀ {entries items key}, (map entries).sequence? = some items → text key ∉ items →
    (map entries).attr key = undefined key ∧ (map entries).item (text key) = undefined key
  /-- An item under a name is the attribute of that name. -/
  byName : ∀ (v : Value) key, v.item (text key) = v.attr key

/-- Looking an item up gives what iterating would have come to. -/
theorem indexingLaw : IndexingLaw where
  iterable h := h.sequence?
  fromStart h hitems hle hlt := h.item_eq hitems (by rw [if_neg (by omega)]; omega) (by omega)
  fromEnd h hitems hle hlt := h.item_eq hitems (by rw [if_pos hlt]; omega) (by omega)
  outside h hitems := h.item_of_outside hitems
  inWords h := h.item_inWords
  resolved := Word.resolveIndex_eq_some_iff
  magnitude := Word.toNat_magnitude
  counted s := by
    rw [Value.sequence?, Option.map_some, List.length_map, Text.count_eq]
  passed {s items} hitems n := by
    cases hitems
    rw [List.getElem?_map, Text.nth?_eq]
  stored hitems hmem := by
    obtain ⟨v, hv⟩ := Table.mem_keys_iff_exists.mp ((Value.text_mem_sequence_iff hitems).mp hmem)
    have hattr := Value.attr_map_of_get? hv
    exact ⟨v, Table.mem_entries_of_get? hv, hattr, by rw [Value.item_text, hattr]⟩
  only hmem := Value.attr_map_of_get? (Table.get?_of_mem_entries hmem)
  unlisted hitems hmem := by
    have hattr := Value.attr_map_of_not_mem (mt (Value.text_mem_sequence_iff hitems).mpr hmem)
    exact ⟨hattr, by rw [Value.item_text, hattr]⟩
  byName := Value.item_text

/-- The fourth character from the end is the second one, whatever bytes it takes. -/
example : (Value.text "héllo").item (.int (-4)) = .text "é" := by rfl

end Templating
