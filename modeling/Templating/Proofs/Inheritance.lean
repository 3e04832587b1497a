import Templating.Proofs.Growth

/-!
# Inheritance

A template extends another one, which may extend a third, and so on.  The first
is rendered in a session of its own; every template but the last comes to one
`extends` in the course of its root, and registers blocks in no other way
(`Lineage`).  All have the default setup, so each has registered the definitions
of its blocks before its root starts.

When the root of the last template starts, the chain of every block consists of
the definitions in the templates, those of the last template in front
(`Lineage.collects`).  Hence a definition is found by counting the templates that
have one, from the template that was rendered; `super` in a definition leads to
the next of them (`Inherits`, `Lineage.inherits`).
-/
namespace Templating

open Relation (ReflTransGen)

/-- The root of the last of several templates starts, each of which but the last
extends the next; they are listed from the last one on. -/
inductive Lineage (config : Config) : List Template → Moment → Prop
  /-- The template that is rendered begins in a session of its own. -/
  | first {depth t context sink name world m} : t.Plain →
      Moment.Starts config depth t
        (State.begin config t context sink (some (Session.start config name)) world) m →
      Lineage config [t] m
  /-- In the course of its root, one statement that registers is reached, and it
  extends the next template. -/
  | extended {ts m e name t u m'} : Lineage config ts m →
      Moment.Inside config m e →
      Moment.Fetches config e .extending name t u →
      (∀ x, Moment.Inside config m x → x.Registers → x = e) →
      t.Plain →
      Moment.Starts config e.depth t (u.beginFetched config name .extending) m' →
      Lineage config (t :: ts) m'

/-! ## The registry along a lineage -/

theorem registerAll_blocks (blocks : List (String × Body)) (s : State) :
    (Render.registerAll blocks s).2.blocks = s.blocks.registerAll blocks := by
  induction blocks generalizing s with
  | nil => rfl
  | cons entry rest ih => exact ih (Render.registerBlock entry.1 entry.2 s).2

/-- When the root of a template starts that registers its blocks itself, they
stand in front of all others. -/
theorem collects_of_starts {config : Config} {depth : Nat} {t : Template} {s : State} {m : Moment}
    {ts : List Template} (ht : t.Plain) (hs : s.blocks.Collects ts)
    (hm : Moment.Starts config depth t s m) : m.state.blocks.Collects (t :: ts) := by
  cases hm with
  | setup hsetup =>
    -- The default setup is no code.
    rw [ht.setup] at hsetup
    cases hsetup
  | @root _ _ _ u hrun =>
    have hregistered := registerAll_blocks t.blocks.entries s
    have hrun' : Render.registerAll t.blocks.entries s = (.done (), u) := by
      rwa [Render.runSetup, ht.setup] at hrun
    rw [hrun'] at hregistered
    have hcollects := hs.registerAll t
    rwa [← hregistered] at hcollects

namespace Lineage

variable {config : Config} {ts : List Template} {m : Moment}

/-- The registry when the root of the last template starts. -/
theorem collects (h : Lineage config ts m) : m.state.blocks.Collects ts := by
  induction h with
  | @first depth t context sink name world m ht hstart =>
    have hempty : (State.begin config t context sink (some (Session.start config name))
      world).blocks.Collects [] := BlockRegistry.collects_empty
    exact collects_of_starts ht hempty hstart
  | @extended ts m e name t u m' _ hin hfetch honce ht hstart ih =>
    have hblocks : e.state.blocks = m.state.blocks := Moment.blocks_of_registers_once hin honce
    have hfetched : u.blocks = e.state.blocks := by
      cases hfetch with
      | extending hrun => exact ((Keeps.getTemplate isApart_blocks config _).at _).of_run hrun
    have hbegun : (u.beginFetched config name .extending).blocks = m.state.blocks :=
      hfetched.trans hblocks
    exact collects_of_starts ht (hbegun ▸ ih) hstart

end Lineage

/-! ## Definitions found -/

/-- Code stays in the definition in which it began. -/
theorem block_of_leads {config : Config} {m m' : Moment} (h : Moment.Leads config m m') :
    m'.state.block = m.state.block :=
  h.goesOn.block

/-- What becomes of the blocks when the root of the last of several templates
starts, each of which but the last extends the next; they are listed from the
last one on. -/
structure Inherits (config : Config) (ts : List Template) (m : Moment) : Prop where
  /-- The chain of a block, least specific definition first. -/
  chain : ∀ name, m.state.blocks.chain name = Template.definitions ts name
  /-- Definitions are counted from the template that was rendered. -/
  runs : ∀ {name levelsUp body}, (Template.definitions ts.reverse name)[levelsUp]? = some body →
    ∀ invoke, Render.evaluateBlock invoke name levelsUp m.state =
      Action.bracket (State.enterBlock ⟨name, levelsUp⟩) State.leaveBlock (invoke body)
        (m.state.logged (.notice
          (.resolvedBlock name levelsUp (Template.definitions ts name).length)))
  /-- Beyond the last definition there is an error that tells how many there are. -/
  overflows : ∀ {name levelsUp}, 1 ≤ (Template.definitions ts name).length →
    (Template.definitions ts name).length ≤ levelsUp →
    ∀ invoke, Render.evaluateBlock invoke name levelsUp m.state =
      (.failed (.lookup (.blockLevelOverflow name levelsUp
        (Template.definitions ts name).length)), m.state)
  /-- A block that no template defines is an error that lists those defined. -/
  missing : ∀ {name}, Template.definitions ts name = [] → ∀ levelsUp invoke,
    Render.evaluateBlock invoke name levelsUp m.state =
      (.failed (.lookup (.blockNotFound name (Name.sorted (Template.definedNames ts)))), m.state)
  /-- If the last template registers nothing, every definition that begins is the
  one its level stands for, and wherever it asks for the one it overrides, that is
  the next one. -/
  runsSuper : (∀ x, Moment.Inside config m x → ¬ x.Registers) →
    ∀ {y z}, Moment.Inside config m y → Moment.Calls y z →
    ∃ name levelsUp body, z.task = .code none body ∧ z.state.block = some ⟨name, levelsUp⟩ ∧
      (Template.definitions ts.reverse name)[levelsUp]? = some body ∧
      ∀ {x}, ReflTransGen (Moment.Leads config) z x → ∀ invoke,
        Render.superBlock invoke x.state =
          match (Template.definitions ts.reverse name)[levelsUp + 1]? with
          | some overridden =>
            Action.bracket (State.enterBlock ⟨name, levelsUp + 1⟩) State.leaveBlock
              (invoke overridden) (x.state.logged (.notice
                (.resolvedBlock name (levelsUp + 1) (Template.definitions ts name).length)))
          | none =>
            (.failed (.lookup (.blockLevelOverflow name (levelsUp + 1) (levelsUp + 1))), x.state)

/-- The law of inheritance. -/
theorem Lineage.inherits {config : Config} {ts : List Template} {m : Moment}
    (h : Lineage config ts m) : Inherits config ts m := by
  have hcollects := h.collects
  refine ⟨hcollects.chain, evaluateBlock_of_defined hcollects, evaluateBlock_of_overflow hcollects,
    fun hnil _ => evaluateBlock_of_missing hcollects hnil, ?_⟩
  intro hquiet y z hy hcall
  have hm : m.Undisturbed config m.state.blocks :=
    ⟨rfl, fun x hx hregisters => absurd hregisters (hquiet x hx)⟩
  have hy' := hm.inside hy
  have hz := hy'.calls hcall
  cases hcall with
  | @definition depth loop c rest active body s hc hresolve =>
    have hs : s.session.blocks.Collects ts :=
      (show s.session.blocks = m.state.blocks from hy'.blocks) ▸ hcollects
    have hbody := hs.resolve_eq_ok_iff.mp hresolve
    refine ⟨active.name, active.levelsUp, body, rfl, rfl, hbody, fun {x} hx invoke => ?_⟩
    -- As long as it runs, the definition knows its level.
    have hblock : x.state.block = some active := by
      induction hx with
      | refl => rfl
      | tail _ hstep ih => exact (block_of_leads hstep).trans ih
    have hinside : Moment.Inside config _ x := ReflTransGen.mono (fun _ _ => .inl) _ _ hx
    have hx' : x.state.session.blocks.Collects ts :=
      (show x.state.session.blocks = m.state.blocks from (hz.inside hinside).blocks) ▸ hcollects
    exact superBlock_of_defined hx' hblock hbody invoke

/-! ## A family of two -/

namespace Family

def parent : Template :=
  Template.build "parent" (some [.block "title" 0]) none [("title", [.write "Untitled"])]

def child : Template :=
  Template.build "child" (some [.extendTemplate "parent"]) none
    [("title", [.write "About - ", .superBlock])]

def config : Config := { Config.basic with loader := fun _ => .ok parent }

theorem plain_parent : parent.Plain := ⟨_, _, _, rfl⟩

theorem plain_child : child.Plain := ⟨_, _, _, rfl⟩

/-- The state in which the child begins. -/
def begun : State :=
  State.begin config child Table.empty (.stream none) (some (Session.start config (some "child")))
    (World.begin 0)

/-- The moment at which the root of the child starts. -/
def childStarts : Moment := ⟨2, .code none child.root, (Render.registerBlocks child begun).2⟩

/-- The state after the parent was fetched. -/
def fetched : State := (Render.getTemplate config "parent" childStarts.state).2

/-- The moment at which the root of the parent starts. -/
def parentStarts : Moment :=
  ⟨1, .code none parent.root,
    (Render.registerBlocks parent (fetched.beginFetched config "parent" .extending)).2⟩

/-- Nothing but the one statement of the child's root registers. -/
theorem registers_once {x : Moment} (hx : Moment.Inside config childStarts x)
    (hregisters : x.Registers) : x = childStarts := by
  rcases hx.cases_head with h | ⟨y, hy, hyx⟩
  · exact h.symm
  · -- After the statement, and among its operands, there is nothing more to run.
    have hover : y.task = .code none [] ∨ y.task = .operands [] := by
      rcases hy with hy | hy
      · cases hy with
        | next _ => exact .inl rfl
        | operands => exact .inr rfl
        | iteration hloop => cases hloop
      · cases hy with
        | definition hc => cases hc
    have hend : y = x := by
      rcases hyx.cases_head with h | ⟨z, hz, -⟩
      · exact h
      · obtain ⟨depth, task, state⟩ := y
        rcases hover with rfl | rfl <;> rcases hz with hz | hz <;> cases hz
    obtain ⟨loop, c, rest, htask, -⟩ := hend ▸ hregisters
    rcases hover with hover | hover <;> rw [hover] at htask <;> cases htask

theorem lineage : Lineage config [parent, child] parentStarts := by
  have hchild : Lineage config [child] childStarts :=
    .first plain_child (show Moment.Starts config 3 child begun childStarts from .root rfl)
  have hfetched : Moment.Fetches config childStarts .extending "parent" parent fetched :=
    .extending rfl
  have hparent : Moment.Starts config 2 parent (fetched.beginFetched config "parent" .extending)
      parentStarts := .root rfl
  exact .extended hchild .refl hfetched (fun _ => registers_once) plain_parent hparent

/-- Both templates define the title; the child's comes first, and the parent's is
the one above it. -/
theorem inherits_title :
    Lineage config [parent, child] parentStarts ∧
      Inherits config [parent, child] parentStarts ∧
      Template.definitions [parent, child] "title" = [[.write "Untitled"],
        [.write "About - ", .superBlock]] :=
  ⟨lineage, lineage.inherits, rfl⟩

end Family

end Templating
