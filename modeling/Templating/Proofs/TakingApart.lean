import Templating.Loop.Binding

/-!
# Taking values apart is positional

A binding is a tree, and so is a value: the positions of its sequence, the positions
of their sequences, and so on.  A path of positions leads to a part of either
(`Binding.target?`, `Value.part?`).  A tuple of the binding meets a value if the path
that leads to the tuple leads somewhere in the value too (`Binding.Meets`).

Taking a value apart succeeds exactly if every tuple that meets a value fits it.  Then
each name has the part at its own path, or the undefined marker where the path leaves
the value; the parts come in the order of the names, so nothing is shifted by parts
that are missing or left over.  Otherwise the error is that of the first tuple that
does not fit.  First means that none comes before it in the order in which paths are
compared position by position (`Precedes`): a tuple comes before its own targets, and
those come from left to right.

The recursion goes down both trees at once.  What it finds at a tuple and in its
targets is put together once for all (`Verdict.cons`), whatever the two are.
-/
namespace Templating

/-! ## Paths -/

/-- The part of a value at a path of positions, if the path does not leave it. -/
def Value.part? : Value → List Nat → Option Value
  | v, [] => some v
  | v, i :: path => v.sequence?.bind fun items => items[i]?.bind fun item => item.part? path

/-- A path leads to something above or to the left of what the other leads to. -/
def Precedes (path other : List Nat) : Prop :=
  List.Lex (fun i j => i < j) path other

theorem not_precedes_nil (path : List Nat) : ¬ Precedes path [] := List.not_lex_nil

theorem precedes_cons_iff {i j : Nat} {path other : List Nat} :
    Precedes (i :: path) (j :: other) ↔ i < j ∨ i = j ∧ Precedes path other :=
  List.cons_lex_cons_iff

/-- Of two different paths one comes before the other. -/
theorem eq_of_not_precedes : ∀ {path other : List Nat}, ¬ Precedes path other →
    ¬ Precedes other path → path = other
  | [], [], _, _ => rfl
  | [], _ :: _, h, _ => absurd .nil h
  | _ :: _, [], _, h => absurd .nil h
  | i :: path, j :: other, h, h' => by
    rw [precedes_cons_iff] at h h'
    have hij : i = j := Nat.le_antisymm (Nat.not_lt.mp fun hlt => h' (.inl hlt))
      (Nat.not_lt.mp fun hlt => h (.inl hlt))
    subst hij
    rw [eq_of_not_precedes (fun hlt => h (.inr ⟨rfl, hlt⟩)) fun hlt => h' (.inr ⟨rfl, hlt⟩)]

namespace Binding

/-- The part of a binding at a path of positions. -/
def target? : Binding → List Nat → Option Binding
  | b, [] => some b
  | tuple targets, i :: path => targets[i]?.bind fun target => target.target? path
  | name _, _ :: _ => none

mutual

/-- The names of a binding, each after the path that leads to it. -/
def leaves : Binding → List (List Nat × String)
  | name n => [([], n)]
  | tuple targets => leavesFrom 0 targets

/-- The names of targets, the first of which stands at `index`. -/
def leavesFrom : Nat → List Binding → List (List Nat × String)
  | _, [] => []
  | index, target :: rest =>
    (leaves target).map (fun leaf => (index :: leaf.1, leaf.2)) ++ leavesFrom (index + 1) rest

end

/-- What a name receives: the part that its path leads to, or else its own marker. -/
def received (look : List Nat → Option Value) (leaf : List Nat × String) : Value :=
  (look leaf.1).getD (.undefined leaf.2)

/-- A tuple of the binding is held against a value. -/
def Meets (b : Binding) (v : Value) (path : List Nat) (targets : List Binding) (w : Value) : Prop :=
  b.target? path = some (tuple targets) ∧ v.part? path = some w

end Binding

/-- A value does not fit the targets that it is to be taken apart for. -/
inductive Value.Misfits (settings : Unpacking) (targets : List Binding) (w : Value) :
    RenderError → Prop
  | shapeless : settings.allowsNonIterable = false → w.sequence? = none →
      Misfits settings targets w (.type "an iterable" w.typeName "unpacking loop targets")
  | count {items} : settings.isStrict = true → w.sequence? = some items →
      items.length ≠ targets.length →
      Misfits settings targets w (.unpack targets.length items.length)

/-- At this path a tuple meets a value that does not fit it. -/
def Binding.Offends (settings : Unpacking) (b : Binding) (v : Value) (path : List Nat)
    (error : RenderError) : Prop :=
  ∃ targets w, b.Meets v path targets w ∧ w.Misfits settings targets error

/-- The same of several targets and values. -/
def Binding.OffendsAny (settings : Unpacking) (targets : List Binding) (items : List Value)
    (path : List Nat) (error : RenderError) : Prop :=
  ∃ i rest target item, path = i :: rest ∧ targets[i]? = some target ∧ items[i]? = some item ∧
    target.Offends settings item rest error

/-! ## Verdicts -/

/-- If nothing offends, these are the values, and otherwise it ends with the error that
comes first. -/
inductive Verdict (offends : List Nat → RenderError → Prop) (values : List Value) :
    Except RenderError (List Value) → Prop
  | fits : (∀ path error, ¬ offends path error) → Verdict offends values (.ok values)
  | misfit {path error} : offends path error →
      (∀ other cause, offends other cause → ¬ Precedes other path) →
      Verdict offends values (.error error)

theorem Verdict.congr {offends others : List Nat → RenderError → Prop} {values : List Value}
    {answer : Except RenderError (List Value)} (h : Verdict offends values answer)
    (hiff : ∀ path error, others path error ↔ offends path error) :
    Verdict others values answer := by
  cases h with
  | fits hnone => exact .fits fun path error hother => hnone path error ((hiff _ _).mp hother)
  | misfit hoffends hfirst =>
    exact .misfit ((hiff _ _).mpr hoffends) fun other cause hother =>
      hfirst other cause ((hiff _ _).mp hother)

theorem Unpacked.toExcept_andThen (first second : Unpacked) :
    (first.andThen second).toExcept =
      match first.toExcept, second.toExcept with
      | .error error, _ => .error error
      | .ok _, .error error => .error error
      | .ok values, .ok more => .ok (values ++ more) := by
  rcases first with ⟨values, _ | error⟩ <;> rcases second with ⟨more, _ | cause⟩ <;> rfl

section
variable {settings : Unpacking} {target : Binding} {rest : List Binding} {item v : Value}
variable {items values more : List Value} {path : List Nat} {error : RenderError}

/-- What offends in several targets offends in the first or in a later one. -/
theorem offendsAny_cons : Binding.OffendsAny settings (target :: rest) (item :: items) path error ↔
    (∃ inner, path = 0 :: inner ∧ target.Offends settings item inner error) ∨
      ∃ i inner, path = (i + 1) :: inner ∧
        Binding.OffendsAny settings rest items (i :: inner) error := by
  constructor
  · rintro ⟨i, inner, found, part, rfl, hfound, hpart, hoffends⟩
    cases i with
    | zero =>
      cases hfound
      cases hpart
      exact .inl ⟨inner, rfl, hoffends⟩
    | succ i => exact .inr ⟨i, inner, rfl, i, inner, found, part, rfl, hfound, hpart, hoffends⟩
  · rintro (⟨inner, rfl, hoffends⟩ | ⟨i, inner, rfl, hlater⟩)
    · exact ⟨0, inner, target, item, rfl, rfl, rfl, hoffends⟩
    · obtain ⟨_, _, found, part, ⟨⟩, hfound, hpart, hoffends⟩ := hlater
      exact ⟨i + 1, inner, found, part, rfl, hfound, hpart, hoffends⟩

/-- The verdict on a target and on those that follow it.  What offends in the target
comes before what offends later. -/
theorem Verdict.cons {first second : Unpacked}
    (h : Verdict (target.Offends settings item) values first.toExcept)
    (hlater : Verdict (Binding.OffendsAny settings rest items) more second.toExcept) :
    Verdict (Binding.OffendsAny settings (target :: rest) (item :: items)) (values ++ more)
      (first.andThen second).toExcept := by
  rw [Unpacked.toExcept_andThen]
  generalize first.toExcept = answer at h
  generalize second.toExcept = final at hlater
  cases h with
  | misfit hoffends hfirst =>
    refine .misfit (offendsAny_cons.mpr (.inl ⟨_, rfl, hoffends⟩)) fun other cause hother => ?_
    rcases offendsAny_cons.mp hother with ⟨inner, rfl, hinner⟩ | ⟨i, inner, rfl, -⟩
    · rw [precedes_cons_iff]
      exact fun h => h.elim (Nat.lt_irrefl 0) fun ⟨_, hbefore⟩ => hfirst inner cause hinner hbefore
    · rw [precedes_cons_iff]
      exact fun h => h.elim (Nat.not_lt_zero _) fun ⟨hzero, _⟩ => Nat.succ_ne_zero i hzero
  | fits hnone =>
    cases hlater with
    | fits hlaters =>
      refine .fits fun other cause hother => ?_
      rcases offendsAny_cons.mp hother with ⟨inner, -, hinner⟩ | ⟨i, inner, -, hinner⟩
      · exact hnone inner cause hinner
      · exact hlaters _ cause hinner
    | misfit hoffends hfirst =>
      obtain ⟨i, inner, -, -, rfl, -⟩ := id hoffends
      refine .misfit (offendsAny_cons.mpr (.inr ⟨i, inner, rfl, hoffends⟩))
        fun other cause hother => ?_
      rcases offendsAny_cons.mp hother with ⟨within, -, hwithin⟩ | ⟨j, within, rfl, hwithin⟩
      · exact absurd hwithin (hnone within cause)
      · have hlater := hfirst (j :: within) cause hwithin
        rw [precedes_cons_iff] at hlater ⊢
        exact fun h => hlater (h.imp Nat.lt_of_succ_lt_succ fun ⟨heq, hbefore⟩ =>
          ⟨Nat.succ.inj heq, hbefore⟩)

/-- The root meets the value, and a target meets the item at its own position, if the
value has one there. -/
theorem meets_cons_iff {targets inners : List Binding} {w : Value} {i : Nat} :
    (Binding.tuple targets).Meets v (i :: path) inners w ↔
      ∃ items target item, v.sequence? = some items ∧ targets[i]? = some target ∧
        items[i]? = some item ∧ target.Meets item path inners w := by
  constructor
  · rintro ⟨htarget, hpart⟩
    obtain ⟨target, htarget, hinner⟩ := Option.bind_eq_some_iff.mp htarget
    obtain ⟨items, hitems, hpart⟩ := Option.bind_eq_some_iff.mp hpart
    obtain ⟨item, hitem, hpart⟩ := Option.bind_eq_some_iff.mp hpart
    exact ⟨items, target, item, hitems, htarget, hitem, hinner, hpart⟩
  · rintro ⟨items, target, item, hitems, htarget, hitem, hinner, hpart⟩
    refine ⟨?_, ?_⟩
    · rw [Binding.target?, htarget]
      exact hinner
    · rw [Value.part?, hitems, Option.bind_some, hitem]
      exact hpart

theorem meets_nil_iff {targets inners : List Binding} {w : Value} :
    (Binding.tuple targets).Meets v [] inners w ↔ inners = targets ∧ w = v := by
  constructor
  · rintro ⟨⟨⟩, ⟨⟩⟩
    exact ⟨rfl, rfl⟩
  · rintro ⟨rfl, rfl⟩
    exact ⟨rfl, rfl⟩

/-- Where a value fits as a whole, only its items can offend. -/
theorem offends_tuple {targets : List Binding} (hitems : v.sequence? = some items)
    (hfits : ∀ error, ¬ v.Misfits settings targets error) :
    (Binding.tuple targets).Offends settings v path error ↔
      Binding.OffendsAny settings targets items path error := by
  constructor
  · rintro ⟨inners, w, hmeets, hmisfits⟩
    cases path with
    | nil =>
      obtain ⟨rfl, rfl⟩ := meets_nil_iff.mp hmeets
      exact absurd hmisfits (hfits error)
    | cons i inner =>
      obtain ⟨found, target, item, hfound, htarget, hitem, hmeets⟩ := meets_cons_iff.mp hmeets
      cases hitems.symm.trans hfound
      exact ⟨i, inner, target, item, rfl, htarget, hitem, inners, w, hmeets, hmisfits⟩
  · rintro ⟨i, inner, target, item, rfl, htarget, hitem, inners, w, hmeets, hmisfits⟩
    exact ⟨inners, w, meets_cons_iff.mpr ⟨items, target, item, hitems, htarget, hitem, hmeets⟩,
      hmisfits⟩

/-- Nothing of a value without a sequence is met but the value itself. -/
theorem not_offends_of_shapeless {targets : List Binding} (hitems : v.sequence? = none)
    (hfits : ∀ error, ¬ v.Misfits settings targets error) :
    ¬ (Binding.tuple targets).Offends settings v path error := by
  rintro ⟨inners, w, hmeets, hmisfits⟩
  cases path with
  | nil =>
    obtain ⟨rfl, rfl⟩ := meets_nil_iff.mp hmeets
    exact hfits error hmisfits
  | cons i inner =>
    obtain ⟨items, -, -, hfound, -⟩ := meets_cons_iff.mp hmeets
    cases hitems.symm.trans hfound

end

/-! ## Names and their paths -/

namespace Binding

mutual

theorem map_snd_leaves : ∀ b : Binding, b.leaves.map Prod.snd = b.names
  | name _ => rfl
  | tuple targets => map_snd_leavesFrom targets 0

theorem map_snd_leavesFrom : ∀ (targets : List Binding) (index : Nat),
    (leavesFrom index targets).map Prod.snd = namesOfAll targets
  | [], _ => rfl
  | target :: rest, index => by
    rw [leavesFrom, List.map_append, List.map_map, namesOfAll, ← map_snd_leaves target,
      ← map_snd_leavesFrom rest (index + 1)]
    rfl

end

mutual

theorem mem_leaves_iff : ∀ (b : Binding) {path : List Nat} {n : String},
    (path, n) ∈ b.leaves ↔ b.target? path = some (name n)
  | name other, path, n => by
    rw [leaves, List.mem_singleton]
    cases path with
    | nil =>
      constructor <;>
      · intro h
        cases h
        rfl
    | cons i inner => exact ⟨nofun, nofun⟩
  | tuple targets, path, n => by
    rw [leaves, mem_leavesFrom_iff targets 0]
    cases path with
    | nil => exact ⟨nofun, nofun⟩
    | cons i inner =>
      rw [target?, Option.bind_eq_some_iff]
      constructor
      · rintro ⟨j, within, target, hpath, htarget, hname⟩
        rw [Nat.zero_add] at hpath
        cases hpath
        exact ⟨target, htarget, hname⟩
      · rintro ⟨target, htarget, hname⟩
        exact ⟨i, inner, target, by rw [Nat.zero_add], htarget, hname⟩

theorem mem_leavesFrom_iff : ∀ (targets : List Binding) (index : Nat) {path : List Nat}
    {n : String}, (path, n) ∈ leavesFrom index targets ↔
      ∃ i inner target, path = (index + i) :: inner ∧ targets[i]? = some target ∧
        target.target? inner = some (name n)
  | [], index, path, n => ⟨nofun, nofun⟩
  | target :: rest, index, path, n => by
    rw [leavesFrom, List.mem_append, List.mem_map, mem_leavesFrom_iff rest (index + 1)]
    constructor
    · rintro (⟨⟨inner, other⟩, hleaf, heq⟩ | ⟨i, inner, found, rfl, hfound, hname⟩)
      · cases heq
        exact ⟨0, inner, target, rfl, rfl, (mem_leaves_iff target).mp hleaf⟩
      · exact ⟨i + 1, inner, found, by rw [Nat.add_right_comm, Nat.add_assoc], hfound, hname⟩
    · rintro ⟨i, inner, found, rfl, hfound, hname⟩
      cases i with
      | zero =>
        cases hfound
        exact .inl ⟨(inner, n), (mem_leaves_iff target).mpr hname, rfl⟩
      | succ i =>
        exact .inr ⟨i, inner, found, by rw [Nat.add_right_comm, Nat.add_assoc], hfound, hname⟩

end

mutual

theorem pairwise_leaves : ∀ b : Binding, b.leaves.Pairwise fun leaf next => Precedes leaf.1 next.1
  | name _ => List.pairwise_singleton _ _
  | tuple targets => pairwise_leavesFrom targets 0

theorem pairwise_leavesFrom : ∀ (targets : List Binding) (index : Nat),
    (leavesFrom index targets).Pairwise fun leaf next => Precedes leaf.1 next.1
  | [], _ => .nil
  | target :: rest, index => by
    rw [leavesFrom, List.pairwise_append, List.pairwise_map]
    refine ⟨(pairwise_leaves target).imp fun hlt => ?_, pairwise_leavesFrom rest (index + 1), ?_⟩
    · exact precedes_cons_iff.mpr (.inr ⟨rfl, hlt⟩)
    · rintro leaf hleaf ⟨path, n⟩ hlater
      obtain ⟨⟨inner, m⟩, -, rfl⟩ := List.mem_map.mp hleaf
      obtain ⟨i, within, -, rfl, -⟩ := (mem_leavesFrom_iff rest (index + 1)).mp hlater
      exact precedes_cons_iff.mpr (.inl (by omega))

end

example : (tuple [name "a", tuple [name "b", name "c"], name "a"]).leaves =
    [([0], "a"), ([1, 0], "b"), ([1, 1], "c"), ([2], "a")] := rfl

/-- Names whose paths lead nowhere receive their markers. -/
theorem map_received_leavesFrom {look : List Nat → Option Value} {index : Nat}
    {targets : List Binding} (h : ∀ i path, look ((index + i) :: path) = none) :
    (leavesFrom index targets).map (received look) = padding (namesOfAll targets) := by
  rw [padding, ← map_snd_leavesFrom targets index, List.map_map]
  refine List.map_congr_left fun leaf hleaf => ?_
  obtain ⟨i, inner, -, hpath, -⟩ := (mem_leavesFrom_iff targets index).mp hleaf
  rw [received, hpath, h]
  rfl

end Binding

/-! ## Taking apart -/

section
variable (settings : Unpacking)

theorem unpackAll_nil : ∀ targets : List Binding,
    Binding.unpackAll settings targets [] = .of (Binding.padding (Binding.namesOfAll targets))
  | [] => rfl
  | target :: rest => by
    rw [Binding.unpackAll, unpackAll_nil rest, Binding.namesOfAll, Binding.padding,
      Binding.padding, Binding.padding, List.map_append]
    rfl

/-- What taking a value apart for targets can come to. -/
theorem unpack_tuple_cases (targets : List Binding) (v : Value) :
    (∃ error, v.Misfits settings targets error ∧
      (Binding.tuple targets).unpack settings v = .stopped error) ∨
    (∀ error, ¬ v.Misfits settings targets error) ∧
      (v.sequence? = none ∧ (Binding.tuple targets).unpack settings v =
          .of (Binding.padding (Binding.namesOfAll targets)) ∨
        ∃ items, v.sequence? = some items ∧ (Binding.tuple targets).unpack settings v =
          Binding.unpackAll settings targets items) := by
  rw [Binding.unpack]
  cases hitems : v.sequence? with
  | none =>
    cases hallows : settings.allowsNonIterable with
    | false => exact .inl ⟨_, .shapeless hallows hitems, rfl⟩
    | true =>
      refine .inr ⟨fun error hmisfits => ?_, .inl ⟨rfl, rfl⟩⟩
      cases hmisfits with
      | shapeless hforbids => cases hallows.symm.trans hforbids
      | count _ hfound => cases hitems.symm.trans hfound
  | some items =>
    by_cases hcount : (settings.isStrict && items.length != targets.length) = true
    · have hmisfits := hcount
      rw [Bool.and_eq_true, bne_iff_ne] at hmisfits
      exact .inl ⟨_, .count hmisfits.1 hitems hmisfits.2, if_pos hcount⟩
    · refine .inr ⟨fun error hmisfits => ?_, .inr ⟨items, rfl, if_neg hcount⟩⟩
      rw [Bool.and_eq_true, bne_iff_ne] at hcount
      cases hmisfits with
      | shapeless _ hnone => cases hitems.symm.trans hnone
      | count hstrict hfound hne =>
        cases hitems.symm.trans hfound
        exact hcount ⟨hstrict, hne⟩

mutual

/-- The recursion down both trees: at a tuple either the value offends, or what its
parts do is the verdict. -/
theorem verdict_unpack : ∀ (b : Binding) (v : Value),
    Verdict (b.Offends settings v) (b.leaves.map (Binding.received v.part?))
      (b.unpack settings v).toExcept
  | .name n, v => by
    refine .fits fun path error hoffends => ?_
    obtain ⟨targets, w, ⟨htarget, -⟩, -⟩ := hoffends
    cases path <;> cases htarget
  | .tuple targets, v => by
    rcases unpack_tuple_cases settings targets v with
      ⟨error, hmisfits, hrun⟩ | ⟨hfits, ⟨hitems, hrun⟩ | ⟨items, hitems, hrun⟩⟩
    · rw [hrun]
      exact .misfit ⟨targets, v, ⟨rfl, rfl⟩, hmisfits⟩ fun other _ _ => not_precedes_nil other
    · have hleft (i : Nat) (path : List Nat) : v.part? ((0 + i) :: path) = none := by
        rw [Value.part?, hitems]
        rfl
      rw [hrun, Binding.leaves, Binding.map_received_leavesFrom hleft]
      exact .fits fun path error => not_offends_of_shapeless hitems hfits
    · have hlook (i : Nat) (path : List Nat) : v.part? ((0 + i) :: path) =
          items[i]?.bind fun item => item.part? path := by
        rw [Value.part?, hitems, Nat.zero_add]
        rfl
      rw [hrun]
      exact (verdict_unpackAll targets items 0 v.part? hlook).congr fun path error =>
        offends_tuple hitems hfits

theorem verdict_unpackAll : ∀ (targets : List Binding) (items : List Value) (index : Nat)
    (look : List Nat → Option Value),
    (∀ i path, look ((index + i) :: path) = items[i]?.bind fun item => item.part? path) →
    Verdict (Binding.OffendsAny settings targets items)
      ((Binding.leavesFrom index targets).map (Binding.received look))
      (Binding.unpackAll settings targets items).toExcept
  | [], items, index, look, _ => by
    refine .fits fun path error hoffends => ?_
    obtain ⟨i, inner, target, item, -, htarget, -⟩ := hoffends
    cases htarget
  | target :: rest, [], index, look, hlook => by
    rw [unpackAll_nil, Binding.map_received_leavesFrom hlook]
    refine .fits fun path error hoffends => ?_
    obtain ⟨i, inner, found, item, -, -, hitem, -⟩ := hoffends
    cases hitem
  | target :: rest, item :: items, index, look, hlook => by
    have hitem (leaf : List Nat × String) :
        Binding.received look (index :: leaf.1, leaf.2) = Binding.received item.part? leaf := by
      have hpart : look (index :: leaf.1) = item.part? leaf.1 := hlook 0 leaf.1
      rw [Binding.received, hpart]
      rfl
    have hrest (i : Nat) (path : List Nat) : look ((index + 1 + i) :: path) =
        items[i]?.bind fun item => item.part? path := by
      rw [Nat.add_right_comm]
      exact hlook (i + 1) path
    have hvalues : (Binding.leavesFrom index (target :: rest)).map (Binding.received look) =
        target.leaves.map (Binding.received item.part?) ++
          (Binding.leavesFrom (index + 1) rest).map (Binding.received look) := by
      rw [Binding.leavesFrom, List.map_append, List.map_map]
      exact congrArg (· ++ _) (List.map_congr_left fun leaf _ => hitem leaf)
    rw [hvalues, Binding.unpackAll]
    exact (verdict_unpack target item).cons
      (verdict_unpackAll rest items (index + 1) look hrest)

end

end

section
variable {settings looser : Unpacking} {targets : List Binding} {b : Binding} {v w : Value}
variable {path : List Nat} {error cause : RenderError} {values : List Value}

/-- A value that fits does so under looser settings. -/
theorem Value.Misfits.tighten (h : w.Misfits looser targets error)
    (hstrict : looser.isStrict = true → settings.isStrict = true)
    (hallows : settings.allowsNonIterable = true → looser.allowsNonIterable = true) :
    w.Misfits settings targets error := by
  cases h with
  | shapeless hforbids hitems =>
    refine .shapeless (Bool.eq_false_iff.mpr fun hallowed => ?_) hitems
    cases (hallows hallowed).symm.trans hforbids
  | count hcounts hitems hne => exact .count (hstrict hcounts) hitems hne

theorem Value.Misfits.unique (h : w.Misfits settings targets error)
    (h' : w.Misfits settings targets cause) : error = cause := by
  cases h with
  | shapeless _ hitems =>
    cases h' with
    | shapeless _ _ => rfl
    | count _ hitems' _ => cases hitems.symm.trans hitems'
  | count _ hitems _ =>
    cases h' with
    | shapeless _ hitems' => cases hitems.symm.trans hitems'
    | count _ hitems' _ =>
      cases hitems.symm.trans hitems'
      rfl

/-- What a value must be to fit. -/
theorem Value.fits_iff : (∀ error, ¬ w.Misfits settings targets error) ↔
    (w.sequence? ≠ none ∨ settings.allowsNonIterable = true) ∧
      (settings.isStrict = true → ∀ items, w.sequence? = some items →
        items.length = targets.length) := by
  constructor
  · intro h
    refine ⟨?_, fun hstrict items hitems => Classical.byContradiction fun hne => ?_⟩
    · cases hallows : settings.allowsNonIterable with
      | true => exact .inr rfl
      | false => exact .inl fun hitems => h _ (.shapeless hallows hitems)
    · exact h _ (.count hstrict hitems hne)
  · rintro ⟨hshape, hcount⟩ error hmisfits
    cases hmisfits with
    | shapeless hforbids hitems =>
      rcases hshape with hsome | hallows
      · exact hsome hitems
      · cases hallows.symm.trans hforbids
    | count hstrict hitems hne => exact hne (hcount hstrict _ hitems)

theorem Binding.Offends.unique (h : b.Offends settings v path error)
    (h' : b.Offends settings v path cause) : error = cause := by
  obtain ⟨targets, w, ⟨htarget, hpart⟩, hmisfits⟩ := h
  obtain ⟨others, x, ⟨hother, hfound⟩, hmisfits'⟩ := h'
  cases htarget.symm.trans hother
  cases hpart.symm.trans hfound
  exact hmisfits.unique hmisfits'

/-- A value that was taken apart has given each name what it is to receive. -/
theorem unpack_eq_ok_iff : (b.unpack settings v).toExcept = .ok values ↔
    (∀ path error, ¬ b.Offends settings v path error) ∧
      values = b.leaves.map (Binding.received v.part?) := by
  have hverdict := verdict_unpack settings b v
  constructor
  · intro hok
    rw [hok] at hverdict
    cases hverdict with
    | fits hnone => exact ⟨hnone, rfl⟩
  · rintro ⟨hnone, rfl⟩
    cases hanswer : (b.unpack settings v).toExcept with
    | ok found =>
      rw [hanswer] at hverdict
      cases hverdict
      rfl
    | error cause =>
      rw [hanswer] at hverdict
      cases hverdict with
      | misfit hoffends _ => exact absurd hoffends (hnone _ _)

/-- The error is that of the first tuple that does not fit. -/
theorem unpack_eq_error_iff : (b.unpack settings v).toExcept = .error error ↔
    ∃ path, b.Offends settings v path error ∧
      ∀ other cause, b.Offends settings v other cause → ¬ Precedes other path := by
  have hverdict := verdict_unpack settings b v
  constructor
  · intro herror
    rw [herror] at hverdict
    cases hverdict with
    | misfit hoffends hfirst => exact ⟨_, hoffends, hfirst⟩
  · rintro ⟨path, hoffends, hfirst⟩
    cases hanswer : (b.unpack settings v).toExcept with
    | ok found =>
      rw [hanswer] at hverdict
      cases hverdict with
      | fits hnone => exact absurd hoffends (hnone _ _)
    | error cause =>
      rw [hanswer] at hverdict
      cases hverdict with
      | misfit hoffends' hfirst' =>
        cases eq_of_not_precedes (hfirst _ _ hoffends') (hfirst' _ _ hoffends)
        rw [hoffends.unique hoffends']

/-- Every name receives exactly one value. -/
theorem length_of_unpack (h : (b.unpack settings v).toExcept = .ok values) :
    values.length = b.names.length := by
  rw [(unpack_eq_ok_iff.mp h).2, List.length_map, ← Binding.map_snd_leaves b, List.length_map]

end

/-! ## The law -/

/-- What becomes of a value that is taken apart. -/
structure UnpackingLaw (settings : Unpacking) (b : Binding) (v : Value) : Prop where
  /-- The paths of the names are those that lead to a name, from left to right. -/
  names : b.leaves.map Prod.snd = b.names
  paths : ∀ path n, (path, n) ∈ b.leaves ↔ b.target? path = some (.name n)
  ordered : b.leaves.Pairwise fun leaf next => Precedes leaf.1 next.1
  /-- It can be taken apart exactly if every tuple fits the value that it meets. -/
  succeeds_iff : (∃ values, (b.unpack settings v).toExcept = .ok values) ↔
    ∀ path targets w, b.Meets v path targets w →
      (w.sequence? ≠ none ∨ settings.allowsNonIterable = true) ∧
      (settings.isStrict = true → ∀ items, w.sequence? = some items →
        items.length = targets.length)
  /-- Then there is one value for each name: the part at its path, or its marker if the
  path leaves the value. -/
  values : ∀ values, (b.unpack settings v).toExcept = .ok values →
    values.length = b.names.length ∧
      values = b.leaves.map fun (path, n) => (v.part? path).getD (.undefined n)
  /-- It fails with the error of the first tuple that meets a value it does not fit. -/
  fails_iff : ∀ error, (b.unpack settings v).toExcept = .error error ↔
    ∃ path targets w, b.Meets v path targets w ∧ w.Misfits settings targets error ∧
      ∀ other others x cause, b.Meets v other others x → x.Misfits settings others cause →
        ¬ Precedes other path
  /-- Looser settings change nothing about a value that could be taken apart. -/
  loosened : ∀ looser : Unpacking, (looser.isStrict = true → settings.isStrict = true) →
    (settings.allowsNonIterable = true → looser.allowsNonIterable = true) →
    ∀ values, (b.unpack settings v).toExcept = .ok values →
      (b.unpack looser v).toExcept = .ok values

/-- Values are taken apart by position. -/
theorem unpackingLaw (settings : Unpacking) (b : Binding) (v : Value) :
    UnpackingLaw settings b v where
  names := Binding.map_snd_leaves b
  paths _ _ := Binding.mem_leaves_iff b
  ordered := Binding.pairwise_leaves b
  succeeds_iff := by
    constructor
    · rintro ⟨values, hok⟩ path targets w hmeets
      exact Value.fits_iff.mp fun error hmisfits =>
        (unpack_eq_ok_iff.mp hok).1 path error ⟨targets, w, hmeets, hmisfits⟩
    · intro hfits
      refine ⟨_, unpack_eq_ok_iff.mpr ⟨fun path error hoffends => ?_, rfl⟩⟩
      obtain ⟨targets, w, hmeets, hmisfits⟩ := hoffends
      exact Value.fits_iff.mpr (hfits path targets w hmeets) error hmisfits
  values values hok := ⟨length_of_unpack hok, (unpack_eq_ok_iff.mp hok).2⟩
  fails_iff error := by
    rw [unpack_eq_error_iff]
    constructor
    · rintro ⟨path, ⟨targets, w, hmeets, hmisfits⟩, hfirst⟩
      exact ⟨path, targets, w, hmeets, hmisfits, fun other others x cause hmet hother =>
        hfirst other cause ⟨others, x, hmet, hother⟩⟩
    · rintro ⟨path, targets, w, hmeets, hmisfits, hfirst⟩
      exact ⟨path, ⟨targets, w, hmeets, hmisfits⟩, fun other cause ⟨others, x, hmet, hother⟩ =>
        hfirst other others x cause hmet hother⟩
  loosened looser hstrict hallows values hok := by
    obtain ⟨hnone, hvalues⟩ := unpack_eq_ok_iff.mp hok
    refine unpack_eq_ok_iff.mpr ⟨fun path error hoffends => ?_, hvalues⟩
    obtain ⟨targets, w, hmeets, hmisfits⟩ := hoffends
    exact hnone path error ⟨targets, w, hmeets, hmisfits.tighten hstrict hallows⟩

end Templating
