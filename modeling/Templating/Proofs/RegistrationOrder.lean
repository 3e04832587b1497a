import Templating.Config.Basic
import Templating.Proofs.Chains

/-!
# The order of registrations

Block definitions, filters and tests are registered by name, one after another, and
what is registered under one name has no part in what is kept under another.  A
registry keeps everything that a name was given, in its order; a configuration keeps
what it was given last (`Table.given`).

Behind both stand tables, whose entries are in the order in which the names first
appeared, so sequences that mix the names in different ways leave different tables.
No answer tells them apart (`registrationLaw`): a lookup does not depend on the order
of the entries, and every listing is sorted.  For the same reason a table that keeps
its entries in any other order would do as well.  Only the summary of a registry,
which writes the entries down as they stand, shows their order.
-/
namespace Templating

/-! ## What a registry answers -/

namespace BlockRegistry

variable {α : Type} {r r' : BlockRegistry α}

/-- Two registries give the same answer to every question about a name, and list the
same names. -/
structure AnswersLike (r r' : BlockRegistry α) : Prop where
  chain? : ∀ name, r.chain? name = r'.chain? name
  depth : ∀ name, r.depth name = r'.depth name
  contains : ∀ name, r.contains name = r'.contains name
  names : r.names = r'.names
  /-- The same definition, or the same error with the same contents. -/
  resolve : ∀ name levelsUp, r.resolve name levelsUp = r'.resolve name levelsUp
  resolveLevel : ∀ name level, r.resolveLevel name level = r'.resolveLevel name level

/-- Every answer can be read off the chains. -/
theorem AnswersLike.of_chain? (h : ∀ name, r.chain? name = r'.chain? name) :
    r.AnswersLike r' := by
  have hnames : r.names = r'.names := Table.names_congr h
  have hresolve (name : String) (levelsUp : Nat) :
      r.resolve name levelsUp = r'.resolve name levelsUp := by
    rw [BlockRegistry.resolve, BlockRegistry.resolve, h, hnames]
  refine ⟨h, fun name => ?_, fun name => ?_, hnames, hresolve, fun name level => ?_⟩
  · rw [BlockRegistry.depth, BlockRegistry.depth, chain, chain, h]
  · show (r.chain? name).isSome = (r'.chain? name).isSome
    rw [h]
  · rw [BlockRegistry.resolveLevel, BlockRegistry.resolveLevel]
    cases levelsUpOfLevel level with
    | none => rfl
    | some levelsUp => exact hresolve name levelsUp

/-- Two sequences of registrations are told apart by what they give to each name, and
by nothing else. -/
theorem answersLike_registerAll_iff (r : BlockRegistry α) {first second : List (String × α)} :
    (r.registerAll first).AnswersLike (r.registerAll second) ↔
      ∀ name, Table.given first name = Table.given second name := by
  constructor
  · intro h name
    have hchain : (r.registerAll first).chain name = (r.registerAll second).chain name := by
      rw [chain, chain, h.chain?]
    -- What was there before is the same on both sides, behind what was registered.
    rw [chain_registerAll, chain_registerAll] at hchain
    exact List.reverse_injective (List.append_cancel_right hchain)
  · intro h
    refine .of_chain? fun name => ?_
    rw [chain?_registerAll, chain?_registerAll, h]

/-- The names in another order make another table and give the same answers. -/
example :
    let r := empty.registerAll [("title", 1), ("body", 2), ("title", 3)]
    let r' := empty.registerAll [("body", 2), ("title", 1), ("title", 3)]
    r.chains.keys ≠ r'.chains.keys ∧ r.names = r'.names ∧ r.chain? "title" = some [3, 1] ∧
      r'.chain? "title" = some [3, 1] := by decide

variable (registrations : List (String × α)) {name : String}

theorem chain_empty (name : String) : (empty : BlockRegistry α).chain name = [] := rfl

theorem chain?_registerAll_empty (name : String) :
    (empty.registerAll registrations).chain? name =
      if Table.given registrations name = [] then none
      else some (Table.given registrations name).reverse := by
  rw [chain?_registerAll, chain_empty, List.append_nil]
  rfl

theorem depth_registerAll_empty (name : String) :
    (empty.registerAll registrations).depth name = (registrations.map Prod.fst).count name := by
  rw [depth, chain_registerAll, chain_empty, List.append_nil, List.length_reverse,
    Table.length_given]

theorem mem_names_registerAll_empty :
    name ∈ (empty.registerAll registrations).names ↔
      1 ≤ (registrations.map Prod.fst).count name := by
  rw [mem_names_iff, ← Bool.not_eq_false, contains_eq_false_iff, chain?_registerAll_empty,
    ← Table.length_given, Nat.one_le_iff_ne_zero, Ne, List.length_eq_zero_iff]
  split <;> simp_all

/-- A registry that has the same entries in any order gives the same answers. -/
theorem AnswersLike.of_perm (h : r.chains.entries.Perm r'.chains.entries) : r.AnswersLike r' :=
  .of_chain? (Table.get?_of_perm h)

end BlockRegistry

/-! ## What a configuration answers -/

namespace Config

/-- What filters and tests are alike in. -/
abbrev Callable (β : Type) := Value → List Value → Except RenderError β

/-- The filters among the settings, with their names. -/
def filtersOf (settings : List Setting) : List (String × Filter) :=
  settings.filterMap fun
    | .filter name filter => some (name, filter)
    | _ => none

/-- The tests among the settings, with their names. -/
def testsOf (settings : List Setting) : List (String × Test) :=
  settings.filterMap fun
    | .test name test => some (name, test)
    | _ => none

/-- A table into which each setting writes one entry or none is written by those
that have an entry for it. -/
theorem foldl_set {γ : Type} (table : Config → Table γ)
    {written? : Setting → Option (String × γ)}
    (hset : ∀ config setting,
      table (config.set setting) = (table config).insertAll (written? setting).toList)
    (config : Config) (settings : List Setting) :
    table (settings.foldl set config) =
      (table config).insertAll (settings.filterMap written?) := by
  induction settings generalizing config with
  | nil => rfl
  | cons setting rest ih =>
    rw [List.foldl_cons, ih, hset, ← Table.insertAll_append, List.filterMap_cons]
    cases written? setting <;> rfl

theorem filters_build (settings : List Setting) :
    (build settings).filters = Table.ofList (filtersOf settings) :=
  foldl_set filters (fun _ setting => by cases setting <;> rfl) basic settings

theorem tests_build (settings : List Setting) :
    (build settings).tests = Table.ofList (testsOf settings) :=
  foldl_set tests (fun _ setting => by cases setting <;> rfl) basic settings

variable {β : Type}

/-- Calls by name reach what the settings gave to the name last; the rest of what was
set, and the order of it, have no part in them. -/
structure KeepsLast (entriesOf : List Setting → List (String × Callable β))
    (table : Config → Table (Callable β)) (call : Config → String → Callable β)
    (unknown : String → List String → LookupError) : Prop where
  /-- No call tells two sequences of settings apart that give the same to each name
  last. -/
  alike : ∀ {first second}, (∀ name, (Table.given (entriesOf first) name).getLast? =
      (Table.given (entriesOf second) name).getLast?) →
    ∀ name, call (build first) name = call (build second) name
  /-- What a name was given last is called. -/
  last : ∀ {settings name f}, (Table.given (entriesOf settings) name).getLast? = some f →
    call (build settings) name = f
  /-- Calling a name that was given nothing is an error, which tells the names that
  were given something, in increasing order. -/
  missing : ∀ {settings name}, name ∉ (entriesOf settings).map Prod.fst → ∃ known,
    (∀ v arguments,
      call (build settings) name v arguments = .error (.lookup (unknown name known))) ∧
    known.Pairwise (· < ·) ∧
    ∀ other, other ∈ known ↔ other ∈ (entriesOf settings).map Prod.fst
  /-- No call tells in which order the entries are kept. -/
  layout : ∀ {settings config},
    (table config).entries.Perm (table (build settings)).entries →
      ∀ name, call config name = call (build settings) name

/-- A table that is written by the settings is enough for that, if calls do no more
than look their name up. -/
theorem KeepsLast.of_table {entriesOf : List Setting → List (String × Callable β)}
    {table : Config → Table (Callable β)} {call : Config → String → Callable β}
    {unknown : String → List String → LookupError}
    (htable : ∀ settings, table (build settings) = Table.ofList (entriesOf settings))
    (hcall : ∀ config name v arguments, call config name v arguments =
      match (table config).get? name with
      | some f => f v arguments
      | none => .error (.lookup (unknown name (table config).names))) :
    KeepsLast entriesOf table call unknown := by
  have hget (settings : List Setting) (name : String) : (table (build settings)).get? name =
      (Table.given (entriesOf settings) name).getLast? := by
    rw [htable, Table.get?_ofList, Table.lookup_reverse_eq_getLast?]
  have hcongr {config other : Config}
      (h : ∀ name, (table config).get? name = (table other).get? name) (name : String) :
      call config name = call other name := by
    funext v arguments
    rw [hcall, hcall, h, Table.names_congr h]
  refine ⟨fun h => ?alike, fun h => ?last, fun {settings name} h => ?missing,
    fun {settings config} h => ?layout⟩
  case alike =>
    refine hcongr fun name => ?_
    rw [hget, hget, h]
  case last =>
    funext v arguments
    rw [hcall, hget, h]
  case missing =>
    have hnone : (table (build settings)).get? name = none := by
      rw [htable, Table.get?_ofList]
      exact Table.lookup_reverse_eq_none_iff.mpr h
    refine ⟨(table (build settings)).names, fun v arguments => ?_, Name.sorted_increasing _,
      fun other => ?_⟩
    · rw [hcall, hnone]
    · rw [htable, Table.mem_names_ofList]
  case layout => exact hcongr (Table.get?_of_perm h)

theorem keepsLast_callFilter : KeepsLast filtersOf filters callFilter .unknownFilter :=
  .of_table filters_build fun config name _ _ => by
    unfold callFilter
    cases config.filters.get? name <;> rfl

theorem keepsLast_callTest : KeepsLast testsOf tests callTest .unknownTest :=
  .of_table tests_build fun config name _ _ => by
    unfold callTest
    cases config.tests.get? name <;> rfl

end Config

/-! ## The law -/

open BlockRegistry in
/-- What is left of the order in which definitions, filters and tests were registered. -/
structure RegistrationLaw : Prop where
  /-- Two sequences of definitions, registered after the same others, lead to the same
  answers exactly if each name was given the same definitions in the same order. -/
  blocks : ∀ {α : Type} (r : BlockRegistry α) {first second},
    (r.registerAll first).AnswersLike (r.registerAll second) ↔
      ∀ name, Table.given first name = Table.given second name
  /-- The chain of a name is what it was given, the last of it first. -/
  chain : ∀ {α : Type} (registrations : List (String × α)) name,
    (empty.registerAll registrations).chain? name =
      if Table.given registrations name = [] then none
      else some (Table.given registrations name).reverse
  /-- It is as long as there were registrations of the name. -/
  depth : ∀ {α : Type} (registrations : List (String × α)) name,
    (empty.registerAll registrations).depth name = (registrations.map Prod.fst).count name
  /-- The names listed are in increasing order, each of them once, -/
  increasing : ∀ {α : Type} (r : BlockRegistry α), r.names.Pairwise (· < ·)
  /-- and are those that were registered at least once. -/
  names : ∀ {α : Type} (registrations : List (String × α)) name,
    name ∈ (empty.registerAll registrations).names ↔
      1 ≤ (registrations.map Prod.fst).count name
  /-- No answer tells in which order the chains are kept. -/
  layout : ∀ {α : Type} (registrations : List (String × α)) {r : BlockRegistry α},
    r.chains.entries.Perm (empty.registerAll registrations).chains.entries →
      r.AnswersLike (empty.registerAll registrations)
  /-- Of several filters of one name the last is kept, -/
  filters : Config.KeepsLast Config.filtersOf Config.filters Config.callFilter .unknownFilter
  /-- and likewise of several tests. -/
  tests : Config.KeepsLast Config.testsOf Config.tests Config.callTest .unknownTest

theorem registrationLaw : RegistrationLaw where
  blocks r := r.answersLike_registerAll_iff
  chain := BlockRegistry.chain?_registerAll_empty
  depth := BlockRegistry.depth_registerAll_empty
  increasing r := Name.sorted_increasing r.chains.keys
  names registrations _ := BlockRegistry.mem_names_registerAll_empty registrations
  layout _ _ h := .of_perm h
  filters := Config.keepsLast_callFilter
  tests := Config.keepsLast_callTest

end Templating
