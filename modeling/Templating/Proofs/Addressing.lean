import Mathlib.Data.Int.Basic
import Templating.Proofs.Chains
import Templating.Proofs.MachineWords

/-!
# Addressing a definition

A definition of a block is asked for by its distance from the most specific one,
or by a negative level that stands for a distance.  There are three ways to ask:
of the registry by distance, of the registry by level, and of a render, which runs
what it finds.  They give the same definitions and the same errors
(`addressingLaw`).

The computations on distances and levels go through numbers that are close to the
ends of what a machine word holds: one more than a distance, the length less that,
one more than a level and its negation.  In words they come out as they do in
numbers, for every distance and every level that a word can hold.
-/
namespace Templating

/-! ## In machine words -/

namespace Word

/-- `overrideAt?` in words. -/
def overrideAt? {α : Type} (chain : List α) (levelsUp : USize) : Option α := do
  let steps ← checkedAdd? levelsUp 1
  let index ← checkedSub? (USize.ofNat chain.length) steps
  chain[index.toNat]?

/-- `levelsUpOfLevel` in words. -/
def levelsUpOfLevel (level : ISize) : Option USize :=
  if level < 0 then
    let levelsUp := -(level + 1)
    if 0 ≤ levelsUp then some levelsUp.toUSize else none
  else none

theorem overrideAt?_eq {α : Type} {chain : List α} (hlength : chain.length < USize.size)
    (levelsUp : USize) :
    overrideAt? chain levelsUp = Templating.overrideAt? chain levelsUp.toNat := by
  have hone : (1 : USize).toNat = 1 := by simp
  have hchain : (USize.ofNat chain.length).toNat = chain.length :=
    USize.toNat_ofNat_of_lt' hlength
  ext definition
  simp only [overrideAt?, Option.bind_eq_bind, Option.bind_eq_some_iff, checkedAdd?_eq_some_iff,
    checkedSub?_eq_some_iff, hchain, hone]
  unfold Templating.overrideAt?
  constructor
  · rintro ⟨steps, hsteps, index, hindex, hget⟩
    have hindex' : chain.length - (levelsUp.toNat + 1) = index.toNat := by omega
    rw [if_pos (by omega), hindex', hget]
  · intro h
    split at h
    · next hle =>
      have hsteps : levelsUp.toNat + 1 < USize.size := by omega
      have hindex : chain.length - (levelsUp.toNat + 1) < USize.size := by omega
      refine ⟨USize.ofNatLT _ hsteps, USize.toNat_ofNatLT, USize.ofNatLT _ hindex, ?_, ?_⟩
      · rw [USize.toNat_ofNatLT, USize.toNat_ofNatLT]
        omega
      · rw [USize.toNat_ofNatLT, h]
    · cases h

/-- A word that holds a signed number holds one between these bounds. -/
theorem toInt_bounds (level : ISize) :
    -(ISize.size / 2 : Int) ≤ level.toInt ∧ level.toInt < (ISize.size + 1 : Int) / 2 := by
  have hpos : 0 < ISize.size := Nat.two_pow_pos _
  rw [← ISize.toInt_bmod_size]
  exact ⟨Int.le_bmod hpos, Int.bmod_lt hpos⟩

/-- One more than a negative number is no overflow. -/
theorem toInt_succ {level : ISize} (h : level < 0) : (level + 1).toInt = level.toInt + 1 := by
  have hpos : 0 < ISize.size := Nat.two_pow_pos _
  obtain ⟨hlow, -⟩ := toInt_bounds level
  rw [ISize.lt_iff_toInt_lt, ISize.toInt_zero] at h
  have hsum : (level + 1).toInt = (level.toInt + 1).bmod ISize.size := by
    rw [← ISize.toInt_one, ISize.toInt_add]
  rw [hsum]
  apply Int.bmod_eq_of_le
  · omega
  · omega

/-- Negating one more than a negative number is none either, even if negating the
number itself would be. -/
theorem toInt_neg_succ {level : ISize} (h : level < 0) :
    (-(level + 1)).toInt = -(level.toInt + 1) := by
  have hpos : 0 < ISize.size := Nat.two_pow_pos _
  obtain ⟨hlow, -⟩ := toInt_bounds level
  have hneg : (-(level + 1)).toInt = (-(level.toInt + 1)).bmod ISize.size := by
    rw [← toInt_succ h, ISize.toInt_neg]
  rw [ISize.lt_iff_toInt_lt, ISize.toInt_zero] at h
  rw [hneg]
  apply Int.bmod_eq_of_le
  · omega
  · omega

theorem levelsUpOfLevel_eq (level : ISize) :
    (levelsUpOfLevel level).map USize.toNat = Templating.levelsUpOfLevel level.toInt := by
  unfold levelsUpOfLevel Templating.levelsUpOfLevel
  by_cases h : level < 0
  · have hint : level.toInt < 0 := by
      rwa [ISize.lt_iff_toInt_lt, ISize.toInt_zero] at h
    have hup := toInt_neg_succ h
    have hpos : 0 ≤ -(level + 1) := by
      rw [ISize.le_iff_toInt_le, ISize.toInt_zero, hup]
      omega
    have hnat : (-(level + 1)).toUSize.toNat = (level.toInt + 1).natAbs := by
      rw [ISize.toNat_toUSize_of_le hpos, ← ISize.toNat_toInt, hup]
      omega
    simp only [if_pos h, if_pos hpos, if_pos hint, Option.map_some, hnat]
  · have hint : ¬ level.toInt < 0 := by
      rwa [ISize.lt_iff_toInt_lt, ISize.toInt_zero] at h
    rw [if_neg h, if_neg hint]
    rfl

end Word

/-! ## Levels -/

theorem levelsUpOfLevel_of_neg {level : Int} (h : level < 0) :
    levelsUpOfLevel level = some (-level - 1).toNat := by
  rw [levelsUpOfLevel, if_pos h]
  congr 1
  omega

theorem levelsUpOfLevel_of_nonneg {level : Int} (h : 0 ≤ level) : levelsUpOfLevel level = none := by
  rw [levelsUpOfLevel, if_neg (by omega)]

/-! ## Asking the registry -/

namespace BlockRegistry

variable {α : Type} (r : BlockRegistry α) {name : String} {levelsUp : Nat}

theorem resolve_of_le (hcontains : r.contains name = true) (h : r.depth name ≤ levelsUp) :
    r.resolve name levelsUp = .error (.blockLevelOverflow name levelsUp (r.depth name)) := by
  have hchain : r.chain? name ≠ none := by
    rw [Ne, ← r.contains_eq_false_iff, hcontains]
    exact Bool.noConfusion
  exact resolve_eq_error_iff.mpr (.inr ⟨hchain, h, rfl⟩)

theorem resolve_of_missing (hcontains : r.contains name = false) :
    r.resolve name levelsUp = .error (.blockNotFound name r.names) :=
  resolve_eq_error_iff.mpr (.inl ⟨r.contains_eq_false_iff.mp hcontains, rfl⟩)

/-- The distances that a chain has, taken in turn, give its definitions, each once. -/
theorem map_resolve_range (name : String) :
    (List.range (r.depth name)).map (r.resolve name) = (r.chain name).reverse.map .ok := by
  apply List.ext_getElem
  · rw [List.length_map, List.length_map, List.length_range, List.length_reverse, depth]
  · intro levelsUp hleft hright
    rw [List.length_map, List.length_range] at hleft
    obtain ⟨definition, hget, hresolve⟩ := r.resolve_of_lt hleft
    rw [List.getElem_map, List.getElem_map, List.getElem_range, hresolve,
      (List.getElem?_eq_some_iff.mp hget).2]

/-- Of two definitions the one registered first is the more specific. -/
example (first second : α) :
    ((empty.register "title" first).register "title" second).resolve "title" 0 = .ok first ∧
      ((empty.register "title" first).register "title" second).resolveLevel "title" (-2) =
        .ok second := ⟨rfl, rfl⟩

end BlockRegistry

/-! ## The law -/

/-- What a distance and a level address, whichever way they are asked for. -/
structure AddressingLaw : Prop where
  /-- A distance that the chain has gives the definition at that distance from the
  most specific end. -/
  within : ∀ {α : Type} (r : BlockRegistry α) {name levelsUp}, levelsUp < r.depth name →
    ∃ definition, (r.chain name).reverse[levelsUp]? = some definition ∧
      r.resolve name levelsUp = .ok definition
  /-- So the distances that it has give all definitions, each of them once. -/
  exhausted : ∀ {α : Type} (r : BlockRegistry α) name,
    (List.range (r.depth name)).map (r.resolve name) = (r.chain name).reverse.map .ok
  /-- A larger distance is an error that tells the distance and the length. -/
  beyond : ∀ {α : Type} (r : BlockRegistry α) {name levelsUp}, r.contains name = true →
    r.depth name ≤ levelsUp →
      r.resolve name levelsUp = .error (.blockLevelOverflow name levelsUp (r.depth name))
  /-- A name without definitions is an error, at whatever distance. -/
  missing : ∀ {α : Type} (r : BlockRegistry α) {name levelsUp}, r.contains name = false →
    r.resolve name levelsUp = .error (.blockNotFound name r.names)
  /-- The error tells the names that have definitions, in increasing order. -/
  known : ∀ {α : Type} (r : BlockRegistry α),
    r.names.Pairwise (· < ·) ∧ ∀ name, name ∈ r.names ↔ r.contains name = true
  /-- A negative level stands for a distance. -/
  level : ∀ {α : Type} (r : BlockRegistry α) name {level}, level < 0 →
    r.resolveLevel name level = r.resolve name (-level - 1).toNat
  /-- Any other level is an error, whether the name has definitions or not. -/
  notLevel : ∀ {α : Type} (r : BlockRegistry α) name {level}, 0 ≤ level →
    r.resolveLevel name level = .error (.invalidBlockLevel name level)
  /-- A render that asks for a distance runs what the registry gives, as the block
  at that distance, -/
  runs : ∀ invoke {name levelsUp s body}, s.session.blocks.resolve name levelsUp = .ok body →
    Render.evaluateBlock invoke name levelsUp s =
      Action.bracket (State.enterBlock ⟨name, levelsUp⟩) State.leaveBlock (invoke body)
        (s.logged (.notice (.resolvedBlock name levelsUp (s.session.blocks.depth name))))
  /-- or fails as the registry does and changes nothing. -/
  fails : ∀ invoke {name levelsUp s cause},
    s.session.blocks.resolve name levelsUp = .error cause →
      Render.evaluateBlock invoke name levelsUp s = (.failed (.lookup cause), s)
  /-- Asking a render for a negative level is asking it for the distance. -/
  evaluatesLevel : ∀ invoke name {level}, level < 0 →
    Render.evaluateBlockLevel invoke name level =
      Render.evaluateBlock invoke name (-level - 1).toNat
  /-- Any other level fails, whatever is registered, and changes nothing. -/
  evaluatesNotLevel : ∀ invoke name {level} s, 0 ≤ level →
    Render.evaluateBlockLevel invoke name level s =
      (.failed (.lookup (.invalidBlockLevel name level)), s)
  /-- In words the position in the chain comes out as it does in numbers, for every
  distance that a word holds and every chain whose length it holds. -/
  inWords : ∀ {α : Type} {chain : List α}, chain.length < USize.size → ∀ levelsUp : USize,
    Word.overrideAt? chain levelsUp = overrideAt? chain levelsUp.toNat
  /-- So does the distance that a level stands for, for every level that a word holds. -/
  levelInWords : ∀ level : ISize,
    (Word.levelsUpOfLevel level).map USize.toNat = levelsUpOfLevel level.toInt
  /-- Neither of its two steps leaves what a word holds. -/
  noOverflow : ∀ {level : ISize}, level < 0 →
    (level + 1).toInt = level.toInt + 1 ∧ (-(level + 1)).toInt = -(level.toInt + 1)

theorem addressingLaw : AddressingLaw where
  within r _ _ := r.resolve_of_lt
  exhausted r := r.map_resolve_range
  beyond r _ _ := r.resolve_of_le
  missing r _ _ := r.resolve_of_missing
  known r := ⟨Name.sorted_increasing _, fun _ => r.mem_names_iff⟩
  level r name level h := by
    rw [BlockRegistry.resolveLevel, levelsUpOfLevel_of_neg h]
  notLevel r name level h := by
    rw [BlockRegistry.resolveLevel, levelsUpOfLevel_of_nonneg h]
  runs invoke _ _ _ _ h := evaluateBlock_of_ok h invoke
  fails invoke _ _ _ _ h := evaluateBlock_of_error h invoke
  evaluatesLevel invoke name level h := by
    rw [Render.evaluateBlockLevel, levelsUpOfLevel_of_neg h]
  evaluatesNotLevel invoke name level s h := by
    rw [Render.evaluateBlockLevel, levelsUpOfLevel_of_nonneg h]
    rfl
  inWords := Word.overrideAt?_eq
  levelInWords := Word.levelsUpOfLevel_eq
  noOverflow h := ⟨Word.toInt_succ h, Word.toInt_neg_succ h⟩

end Templating
