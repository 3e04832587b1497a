import Templating.Proofs.Tables
import Templating.Render.Reach

/-!
# Chains made of templates

What is in a registry after several templates have registered their blocks: for
every name the definitions of those templates that have one, the template that
registered last in front (`BlockRegistry.Collects`).  Registering one more
template puts its definitions in front of all chains at once
(`BlockRegistry.Collects.registerAll`), because the table of its blocks holds no
name twice.

Looking a definition up counts from the other end
(`BlockRegistry.resolve_eq_ok_iff`).  What it comes to is a function of the
templates alone (`Template.resolveAmong`, `BlockRegistry.Collects.resolve`).
-/
namespace Templating

variable {α : Type}

namespace Template

/-- The definitions of a block in several templates, in the order of the
templates. -/
def definitions (ts : List Template) (name : String) : List Body :=
  ts.filterMap fun t => t.blocks.get? name

/-- The names of all blocks of several templates. -/
def definedNames (ts : List Template) : List String :=
  ts.flatMap fun t => t.blocks.keys

/-- The definition of a block that is `levelsUp` steps up from the most specific
one, where the templates stand from the most specific one on. -/
def resolveAmong (ts : List Template) (name : String) (levelsUp : Nat) :
    Except LookupError Body :=
  match (definitions ts name)[levelsUp]? with
  | some body => .ok body
  | none =>
    if definitions ts name = [] then .error (.blockNotFound name (Name.sorted (definedNames ts)))
    else .error (.blockLevelOverflow name levelsUp (definitions ts name).length)

/-- A template as it is built from its parts, with the default setup. -/
def Plain (t : Template) : Prop :=
  ∃ name root blocks, t = Template.build name root none blocks

theorem Plain.setup {t : Template} (h : t.Plain) : t.setup = none := by
  obtain ⟨name, root, blocks, rfl⟩ := h
  rfl

theorem definitions_cons (t : Template) (ts : List Template) (name : String) :
    definitions (t :: ts) name = (t.blocks.get? name).toList ++ definitions ts name := by
  rw [definitions, List.filterMap_cons]
  cases t.blocks.get? name <;> rfl

theorem definitions_reverse (ts : List Template) (name : String) :
    definitions ts.reverse name = (definitions ts name).reverse :=
  List.filterMap_reverse

theorem length_definitions_reverse (ts : List Template) (name : String) :
    (definitions ts.reverse name).length = (definitions ts name).length := by
  rw [definitions_reverse, List.length_reverse]

theorem definitions_eq_nil_iff (ts : List Template) (name : String) :
    definitions ts name = [] ↔ name ∉ definedNames ts := by
  induction ts with
  | nil => simp [definitions, definedNames]
  | cons t ts ih =>
    have hnames : definedNames (t :: ts) = t.blocks.keys ++ definedNames ts := rfl
    rw [definitions_cons, List.append_eq_nil_iff, ih, hnames, List.mem_append, not_or,
      t.blocks.mem_keys_iff, Table.contains]
    refine and_congr_left fun _ => ?_
    cases t.blocks.get? name <;> simp

variable {ts : List Template} {name : String} {levelsUp : Nat}

theorem resolveAmong_eq_ok_iff {body : Body} :
    resolveAmong ts name levelsUp = .ok body ↔ (definitions ts name)[levelsUp]? = some body := by
  unfold resolveAmong
  cases (definitions ts name)[levelsUp]? with
  | some found => simp
  | none => by_cases hnil : definitions ts name = [] <;> simp [hnil]

theorem resolveAmong_of_le (h : 1 ≤ (definitions ts name).length)
    (hle : (definitions ts name).length ≤ levelsUp) :
    resolveAmong ts name levelsUp =
      .error (.blockLevelOverflow name levelsUp (definitions ts name).length) := by
  have hnone : (definitions ts name)[levelsUp]? = none := List.getElem?_eq_none hle
  have hsome : definitions ts name ≠ [] := List.ne_nil_of_length_pos h
  simp only [resolveAmong, hnone, if_neg hsome]

theorem resolveAmong_of_nil (h : definitions ts name = []) :
    resolveAmong ts name levelsUp =
      .error (.blockNotFound name (Name.sorted (definedNames ts))) := by
  simp only [resolveAmong, h, List.getElem?_nil, if_true]

theorem sorted_definedNames_reverse (ts : List Template) :
    Name.sorted (definedNames ts.reverse) = Name.sorted (definedNames ts) := by
  refine Name.sorted_eq_of_mem_iff fun name => ?_
  rw [definedNames, definedNames]
  simp

end Template

/-! ## Looking a definition up -/

namespace BlockRegistry

variable {r : BlockRegistry α} {name : String} {levelsUp : Nat} {body : α}

theorem overrideAt?_eq (chain : List α) (levelsUp : Nat) :
    overrideAt? chain levelsUp = chain.reverse[levelsUp]? := by
  unfold overrideAt?
  split
  · next h =>
    rw [List.getElem?_reverse (by omega)]
    congr 1
    omega
  · next h =>
    rw [List.getElem?_eq_none]
    rw [List.length_reverse]
    omega

theorem contains_eq_false_iff (r : BlockRegistry α) :
    r.contains name = false ↔ r.chain? name = none := by
  rw [← Option.not_isSome_iff_eq_none, Bool.not_eq_true]
  rfl

/-- No chain is empty, so a name without definitions has none. -/
theorem chain_eq_nil_iff (r : BlockRegistry α) : r.chain name = [] ↔ r.chain? name = none := by
  rw [chain]
  cases hchain : r.chain? name with
  | none => exact iff_of_true rfl rfl
  | some chain => exact iff_of_false (r.occupied name chain hchain) (by simp)

/-- The names listed are those that have definitions. -/
theorem mem_names_iff (r : BlockRegistry α) : name ∈ r.names ↔ r.contains name = true := by
  rw [names, Table.mem_names_iff, Table.mem_keys_iff]
  rfl

/-- A definition is found where the chain, read from its other end, has it. -/
theorem resolve_eq_ok_iff_getElem? :
    r.resolve name levelsUp = .ok body ↔ (r.chain name).reverse[levelsUp]? = some body := by
  unfold resolve chain
  cases r.chain? name with
  | none => simp
  | some chain =>
    simp only [overrideAt?_eq, Option.getD_some]
    cases chain.reverse[levelsUp]? <;> simp

theorem resolve_of_lt (r : BlockRegistry α) (h : levelsUp < r.depth name) :
    ∃ body, (r.chain name).reverse[levelsUp]? = some body ∧ r.resolve name levelsUp = .ok body := by
  have hlength : levelsUp < (r.chain name).reverse.length := by
    rwa [List.length_reverse]
  have hget := List.getElem?_eq_getElem hlength
  exact ⟨_, hget, resolve_eq_ok_iff_getElem?.mpr hget⟩

/-- A definition is found at a level if exactly so many are more specific. -/
theorem resolve_eq_ok_iff :
    r.resolve name levelsUp = .ok body ↔
      ∃ below above, r.chain name = below ++ body :: above ∧ above.length = levelsUp := by
  rw [resolve_eq_ok_iff_getElem?]
  constructor
  · intro h
    obtain ⟨hlt, hget⟩ := List.getElem?_eq_some_iff.mp h
    have hsplit := List.take_append_drop levelsUp (r.chain name).reverse
    rw [List.drop_eq_getElem_cons hlt, hget] at hsplit
    refine ⟨((r.chain name).reverse.drop (levelsUp + 1)).reverse,
      ((r.chain name).reverse.take levelsUp).reverse, ?_, ?_⟩
    · have hreverse := congrArg List.reverse hsplit
      simpa using hreverse.symm
    · rw [List.length_reverse, List.length_take]
      omega
  · rintro ⟨below, above, hchain, habove⟩
    have hreverse : (r.chain name).reverse = above.reverse ++ (body :: below.reverse) := by
      rw [hchain]
      simp
    rw [hreverse, List.getElem?_append_right (by simp [habove])]
    simp [habove]

/-- A lookup can fail in two ways. -/
theorem resolve_eq_error_iff {cause : LookupError} :
    r.resolve name levelsUp = .error cause ↔
      (r.chain? name = none ∧ cause = .blockNotFound name r.names) ∨
      (r.chain? name ≠ none ∧ r.depth name ≤ levelsUp ∧
        cause = .blockLevelOverflow name levelsUp (r.depth name)) := by
  unfold resolve depth chain
  cases r.chain? name with
  | none => simp [eq_comm]
  | some chain =>
    simp only [overrideAt?_eq, Option.getD_some]
    by_cases h : chain.length ≤ levelsUp
    · rw [List.getElem?_eq_none (by rw [List.length_reverse]; exact h)]
      simp [h, eq_comm]
    · rw [List.getElem?_eq_getElem (by rw [List.length_reverse]; omega)]
      simp [h]

/-- What is found is one of the definitions. -/
theorem mem_chain_of_resolve (h : r.resolve name levelsUp = .ok body) : body ∈ r.chain name := by
  obtain ⟨below, above, hchain, -⟩ := resolve_eq_ok_iff.mp h
  rw [hchain]
  exact List.mem_append_right below (List.mem_cons_self ..)

end BlockRegistry

/-! ## Registering a template -/

namespace BlockRegistry

/-- What holds of a definition and of all others holds of all after it was
registered. -/
theorem forall_mem_chain_register {p : α → Prop} {r : BlockRegistry α} {name : String}
    {definition : α} (h : ∀ other, ∀ found ∈ r.chain other, p found) (hp : p definition) :
    ∀ other, ∀ found ∈ (r.register name definition).chain other, p found := by
  intro other found hfound
  rw [chain_register] at hfound
  split at hfound
  · rcases List.mem_cons.mp hfound with rfl | hold
    · exact hp
    · exact h name found hold
  · exact h other found hfound

/-- The registry after several definitions were added in turn. -/
def registerAll (r : BlockRegistry α) (blocks : List (String × α)) : BlockRegistry α :=
  blocks.foldl (fun r entry => r.register entry.1 entry.2) r

theorem chain?_register (r : BlockRegistry α) (name other : String) (definition : α) :
    (r.register name definition).chain? other =
      if other = name then some (definition :: r.chain name) else r.chain? other :=
  Table.get?_insert ..

/-- What a name was given stands in front of what it had, the last of it first. -/
theorem chain?_registerAll (r : BlockRegistry α) (blocks : List (String × α)) (name : String) :
    (r.registerAll blocks).chain? name =
      if Table.given blocks name = [] then r.chain? name
      else some ((Table.given blocks name).reverse ++ r.chain name) := by
  induction blocks generalizing r with
  | nil => rfl
  | cons entry rest ih =>
    obtain ⟨key, body⟩ := entry
    have hstep : (r.registerAll ((key, body) :: rest)).chain? name =
        ((r.register key body).registerAll rest).chain? name := rfl
    rw [hstep, ih, chain?_register, chain_register, Table.given_cons]
    by_cases hname : name = key
    · subst hname
      by_cases hrest : Table.given rest name = [] <;> simp [hrest]
    · rw [if_neg hname, if_neg hname, if_neg (Ne.symm hname)]

theorem chain_registerAll (r : BlockRegistry α) (blocks : List (String × α)) (name : String) :
    (r.registerAll blocks).chain name = (Table.given blocks name).reverse ++ r.chain name := by
  rw [chain, chain?_registerAll]
  split
  · next hnil =>
    rw [hnil]
    rfl
  · rfl

/-- The registry holds the definitions of the templates and nothing else; the
templates stand from the least specific one on. -/
def Collects (r : BlockRegistry Body) (ts : List Template) : Prop :=
  ∀ name, r.chain? name =
    if Template.definitions ts name = [] then none else some (Template.definitions ts name)

variable {r : BlockRegistry Body} {ts : List Template}

theorem collects_empty : (empty : BlockRegistry Body).Collects [] := fun _ => rfl

theorem Collects.chain (h : r.Collects ts) (name : String) :
    r.chain name = Template.definitions ts name := by
  rw [BlockRegistry.chain, h name]
  split
  · next hnil => rw [hnil]; rfl
  · rfl

/-- A template that registers its blocks comes before all others. -/
theorem Collects.registerAll (h : r.Collects ts) (t : Template) :
    (r.registerAll t.blocks.entries).Collects (t :: ts) := by
  intro name
  rw [chain?_registerAll, Table.given_entries, Template.definitions_cons, h.chain]
  cases t.blocks.get? name with
  | some body => rfl
  | none => exact h name

theorem Collects.names (h : r.Collects ts) :
    r.names = Name.sorted (Template.definedNames ts) := by
  refine Name.sorted_eq_of_mem_iff fun name => ?_
  have hchain : r.chains.get? name = _ := h name
  have hnil := Template.definitions_eq_nil_iff ts name
  rw [r.chains.mem_keys_iff, Table.contains, hchain]
  by_cases hname : name ∈ Template.definedNames ts
  · rw [if_neg fun h => hnil.mp h hname]
    exact ⟨fun _ => hname, fun _ => rfl⟩
  · rw [if_pos (hnil.mpr hname)]
    exact ⟨fun h => (by cases h), fun h => absurd h hname⟩

/-- What a lookup comes to, as a function of the templates. -/
theorem Collects.resolve (h : r.Collects ts) (name : String) (levelsUp : Nat) :
    r.resolve name levelsUp = Template.resolveAmong ts.reverse name levelsUp := by
  have hnames : Name.sorted (Template.definedNames ts.reverse) = r.names := by
    rw [h.names, Template.sorted_definedNames_reverse]
  rw [BlockRegistry.resolve, Template.resolveAmong, Template.definitions_reverse, hnames, h name]
  by_cases hnil : Template.definitions ts name = []
  · simp [hnil]
  · simp only [if_neg hnil, overrideAt?_eq, List.reverse_eq_nil_iff, List.length_reverse]
    cases (Template.definitions ts name).reverse[levelsUp]? <;> rfl

theorem Collects.resolve_eq_ok_iff (h : r.Collects ts) {name : String} {levelsUp : Nat}
    {body : Body} : r.resolve name levelsUp = .ok body ↔
      (Template.definitions ts.reverse name)[levelsUp]? = some body := by
  rw [h.resolve, Template.resolveAmong_eq_ok_iff]

theorem Collects.depth (h : r.Collects ts) (name : String) :
    r.depth name = (Template.definitions ts name).length := by
  rw [BlockRegistry.depth, h.chain]

end BlockRegistry

/-! ## Asking for a definition -/

section
variable {s : State} {name : String} {levelsUp : Nat} {body : Body}

theorem evaluateBlock_of_ok (h : s.session.blocks.resolve name levelsUp = .ok body)
    (invoke : Invoke) :
    Render.evaluateBlock invoke name levelsUp s =
      Action.bracket (State.enterBlock ⟨name, levelsUp⟩) State.leaveBlock (invoke body)
        (s.logged (.notice (.resolvedBlock name levelsUp (s.session.blocks.depth name)))) := by
  have hresolve : Render.resolveBlock name levelsUp s = (.done body,
      s.logged (.notice (.resolvedBlock name levelsUp (s.session.blocks.depth name)))) := by
    simp only [Render.resolveBlock, Action.bind_apply, Action.read, h]
    rfl
  rw [Render.evaluateBlock, Action.bind_of_done hresolve]

theorem evaluateBlock_of_error {cause : LookupError}
    (h : s.session.blocks.resolve name levelsUp = .error cause) (invoke : Invoke) :
    Render.evaluateBlock invoke name levelsUp s = (.failed (.lookup cause), s) := by
  have hresolve : Render.resolveBlock name levelsUp s = (.failed (.lookup cause), s) := by
    simp only [Render.resolveBlock, Action.bind_apply, Action.read, h]
    rfl
  rw [Render.evaluateBlock, Action.bind_of_failed hresolve]

/-- Asking for the definition that the running one overrides is asking for the
next level. -/
theorem superBlock_of_block {active : ActiveBlock} (h : s.block = some active) (invoke : Invoke) :
    Render.superBlock invoke s =
      Render.evaluateBlock invoke active.name (active.levelsUp + 1) s := by
  simp only [Render.superBlock, Action.bind_apply, Action.read, h]

end

section
variable {s : State} {ts : List Template} (hs : s.session.blocks.Collects ts)
variable {name : String} {levelsUp : Nat}
include hs

/-- A definition is found by counting from the most specific template. -/
theorem evaluateBlock_of_defined {body : Body}
    (hbody : (Template.definitions ts.reverse name)[levelsUp]? = some body) (invoke : Invoke) :
    Render.evaluateBlock invoke name levelsUp s =
      Action.bracket (State.enterBlock ⟨name, levelsUp⟩) State.leaveBlock (invoke body)
        (s.logged (.notice
          (.resolvedBlock name levelsUp (Template.definitions ts name).length))) := by
  rw [evaluateBlock_of_ok (hs.resolve_eq_ok_iff.mpr hbody), hs.depth]

theorem evaluateBlock_of_overflow (hsome : 1 ≤ (Template.definitions ts name).length)
    (hle : (Template.definitions ts name).length ≤ levelsUp) (invoke : Invoke) :
    Render.evaluateBlock invoke name levelsUp s =
      (.failed (.lookup (.blockLevelOverflow name levelsUp
        (Template.definitions ts name).length)), s) := by
  have hlength := Template.length_definitions_reverse ts name
  rw [← hlength] at hsome hle ⊢
  refine evaluateBlock_of_error ?_ invoke
  exact (hs.resolve name levelsUp).trans (Template.resolveAmong_of_le hsome hle)

theorem evaluateBlock_of_missing (hnil : Template.definitions ts name = []) (invoke : Invoke) :
    Render.evaluateBlock invoke name levelsUp s =
      (.failed (.lookup (.blockNotFound name (Name.sorted (Template.definedNames ts)))), s) := by
  have hnil' : Template.definitions ts.reverse name = [] := by
    rw [Template.definitions_reverse, hnil, List.reverse_nil]
  refine evaluateBlock_of_error ((hs.resolve name levelsUp).trans ?_) invoke
  rw [Template.resolveAmong_of_nil hnil', Template.sorted_definedNames_reverse]

/-- What a running definition overrides is the next one, if there is one. -/
theorem superBlock_of_defined {body : Body} (hblock : s.block = some ⟨name, levelsUp⟩)
    (hbody : (Template.definitions ts.reverse name)[levelsUp]? = some body) (invoke : Invoke) :
    Render.superBlock invoke s =
      match (Template.definitions ts.reverse name)[levelsUp + 1]? with
      | some overridden =>
        Action.bracket (State.enterBlock ⟨name, levelsUp + 1⟩) State.leaveBlock
          (invoke overridden) (s.logged (.notice
            (.resolvedBlock name (levelsUp + 1) (Template.definitions ts name).length)))
      | none =>
        (.failed (.lookup (.blockLevelOverflow name (levelsUp + 1) (levelsUp + 1))), s) := by
  rw [superBlock_of_block hblock]
  cases hnext : (Template.definitions ts.reverse name)[levelsUp + 1]? with
  | some overridden => exact evaluateBlock_of_defined hs hnext invoke
  | none =>
    -- The running definition is the last one, so its level tells how many there are.
    have hlength := Template.length_definitions_reverse ts name
    have hlt := (List.getElem?_eq_some_iff.mp hbody).1
    have hge := List.getElem?_eq_none_iff.mp hnext
    have hcount : (Template.definitions ts name).length = levelsUp + 1 := by omega
    dsimp only
    rw [evaluateBlock_of_overflow hs (by omega) (by omega), hcount]

end

end Templating
