import Templating.Proofs.Growth
import Templating.Proofs.Reachable

/-!
# The definition that is being run

A state may say that it is in a block, and at which level.  It then really is:
the chain of that block has a definition at the level, and the code that is about
to be run was entered through that definition (`Moment.Runs`).  Whatever is
registered meanwhile goes below it, so this stays true until the definition ends.

Hence `super` knows what it looks for.  It finds the definition below the running
one, and fails only if there is none at that moment, telling that there are as
many definitions as the level it looked for (`Moment.BlockLaw`,
`Moment.Reached.blockLaw`).
-/
namespace Templating

open Relation (ReflTransGen)

/-! ## Below the running definition -/

section
variable {s : State} {active : ActiveBlock} {body : Body} {below above : List Body}

/-- The definition that the running one overrides is the one right below it. -/
theorem superBlock_of_chain (hblock : s.block = some active)
    (hchain : s.blocks.chain active.name = below ++ body :: above)
    (hlevel : above.length = active.levelsUp) (invoke : Invoke) :
    Render.superBlock invoke s =
      match below.getLast? with
      | some overridden =>
        Action.bracket (State.enterBlock ⟨active.name, active.levelsUp + 1⟩) State.leaveBlock
          (invoke overridden) (s.logged (.notice (.resolvedBlock active.name
            (active.levelsUp + 1) (s.blocks.depth active.name))))
      | none =>
        (.failed (.lookup (.blockLevelOverflow active.name (active.levelsUp + 1)
          (active.levelsUp + 1))), s) := by
  rw [superBlock_of_block hblock]
  cases hbelow : below.getLast? with
  | some overridden =>
    obtain ⟨lower, rfl⟩ := List.getLast?_eq_some_iff.mp hbelow
    have hfound : s.blocks.resolve active.name (active.levelsUp + 1) = .ok overridden := by
      refine BlockRegistry.resolve_eq_ok_iff.mpr ⟨lower, body :: above, ?_, ?_⟩
      · rw [hchain, List.append_assoc, List.singleton_append]
      · rw [List.length_cons, hlevel]
    exact evaluateBlock_of_ok hfound invoke
  | none =>
    -- Nothing is below, so the chain is as long as the level that is asked for.
    obtain rfl : below = [] := List.getLast?_eq_none_iff.mp hbelow
    have hdepth : s.blocks.depth active.name = active.levelsUp + 1 := by
      rw [BlockRegistry.depth, hchain, List.nil_append, List.length_cons, hlevel]
    have hsome : s.blocks.chain? active.name ≠ none := by
      intro hnone
      rw [BlockRegistry.chain, hnone] at hchain
      cases hchain
    have hfailed : s.blocks.resolve active.name (active.levelsUp + 1) =
        .error (.blockLevelOverflow active.name (active.levelsUp + 1) (active.levelsUp + 1)) := by
      refine BlockRegistry.resolve_eq_error_iff.mpr (.inr ⟨hsome, Nat.le_of_eq hdepth, ?_⟩)
      rw [hdepth]
    exact evaluateBlock_of_error hfailed invoke

theorem superBlock_of_none (hblock : s.block = none) (invoke : Invoke) :
    Render.superBlock invoke s = (.failed (.lookup .notInBlock), s) := by
  simp only [Render.superBlock, Action.bind_apply, Action.read, hblock]
  rfl

end

namespace Moment

variable {config : Config} {m m' : Moment}

variable (config) in
/-- A definition is being run: its block has it at the level of the state, with
these definitions below and those above it, and the code that is about to be run
was entered through it. -/
structure Runs (m : Moment) (active : ActiveBlock) (below : List Body) (body : Body)
    (above : List Body) : Prop where
  chain : m.state.blocks.chain active.name = below ++ body :: above
  level : above.length = active.levelsUp
  entered : ∃ caller begun, caller.Reached config ∧ Calls caller begun ∧
    begun.task = .code none body ∧ begun.state.block = some active ∧
    ReflTransGen (Leads config) begun m

/-- The definition that begins is the one that was asked for. -/
theorem Calls.runs (hm : m.Reached config) (h : Calls m m') :
    ∃ active below body above,
      m'.state.block = some active ∧ m'.Runs config active below body above := by
  have hcalls := h
  cases h with
  | @definition depth loop c rest active body s hc hbody =>
    obtain ⟨below, above, hchain, habove⟩ := BlockRegistry.resolve_eq_ok_iff.mp hbody
    exact ⟨active, below, body, above, rfl, hchain, habove, _, _, hm, hcalls, rfl, rfl, .refl⟩

/-- As long as its code runs, the definition stays where it is in its chain; what
is added goes below it. -/
theorem Runs.leads {active : ActiveBlock} {below : List Body} {body : Body} {above : List Body}
    (hm : m.Runs config active below body above) (h : Leads config m m') :
    ∃ below', m'.Runs config active below' body above := by
  obtain ⟨front, hfront⟩ := h.goesOn.session.grows active.name
  obtain ⟨caller, begun, hcaller, hcalls, htask, hblock, hleads⟩ := hm.entered
  refine ⟨front ++ below, ?_, hm.level, caller, begun, hcaller, hcalls, htask, hblock,
    hleads.tail h⟩
  have hchain : m.state.session.blocks.chain active.name = _ := hm.chain
  rw [State.blocks, ← hfront, hchain, List.append_assoc]

/-- A template that begins is in no block. -/
theorem Starts.block_eq_none {depth : Nat} {t : Template} {s : State} (hs : s.block = none)
    (h : Starts config depth t s m) : m.state.block = none := by
  cases h with
  | setup _ => exact hs
  | @root depth _ _ u hrun =>
    have hC := (sound_sameFrame config).pairing
    have hruns := hC.runs (Vocabulary.closed_full config) (depth + 1)
    have hsetup := hC.runSetup hruns (Vocabulary.template_full t)
    exact (Course.done_of_alike hsetup trivial hrun).1.block.trans hs

theorem Enters.block_eq_none (h : Enters config m m') : m'.state.block = none := by
  obtain ⟨reach, name, t, u, -, hstart⟩ := h
  refine hstart.block_eq_none ?_
  cases reach <;> rfl

/-- The invariant: whoever says to be in a block is. -/
theorem Reached.runs (h : m.Reached config) : ∀ active, m.state.block = some active →
    ∃ below body above, m.Runs config active below body above := by
  induction h with
  | template _ hstart =>
    intro active hactive
    rw [hstart.block_eq_none rfl] at hactive
    cases hactive
  | code _ =>
    intro active hactive
    cases hactive
  | @step m m' hm hs ih =>
    intro active hactive
    rcases hs with hleads | hcalls | henters
    · rw [hleads.goesOn.block] at hactive
      obtain ⟨below, body, above, hruns⟩ := ih active hactive
      obtain ⟨below', hruns'⟩ := hruns.leads hleads
      exact ⟨below', body, above, hruns'⟩
    · obtain ⟨begun, below, body, above, hbegun, hruns⟩ := hcalls.runs hm
      rw [hbegun] at hactive
      cases hactive
      exact ⟨below, body, above, hruns⟩
    · rw [henters.block_eq_none] at hactive
      cases hactive

variable (config) in
/-- What a state that is in a block can count on, and what `super` does in it. -/
structure BlockLaw (m : Moment) : Prop where
  /-- A definition of the block is being run; `super` runs the one right below it,
  and fails if and only if there is none. -/
  running : ∀ {active}, m.state.block = some active →
    ∃ below body above, m.Runs config active below body above ∧
      ∀ invoke, Render.superBlock invoke m.state =
        match below.getLast? with
        | some overridden =>
          Action.bracket (State.enterBlock ⟨active.name, active.levelsUp + 1⟩) State.leaveBlock
            (invoke overridden) (m.state.logged (.notice (.resolvedBlock active.name
              (active.levelsUp + 1) (m.state.blocks.depth active.name))))
        | none =>
          (.failed (.lookup (.blockLevelOverflow active.name (active.levelsUp + 1)
            (active.levelsUp + 1))), m.state)
  level_lt : ∀ {active}, m.state.block = some active →
    active.levelsUp < m.state.blocks.depth active.name
  /-- Whatever the largest number is: if the number of definitions does not exceed
  it, the next level does not either. -/
  level_fits : ∀ {active}, m.state.block = some active → ∀ largest,
    m.state.blocks.depth active.name ≤ largest → active.levelsUp + 1 ≤ largest
  /-- Outside of any block, `super` is an error that changes nothing. -/
  outside : m.state.block = none → ∀ invoke,
    Render.superBlock invoke m.state = (.failed (.lookup .notInBlock), m.state)
  /-- However it is reached, another template begins outside of any block. -/
  enters : ∀ {m'}, Enters config m m' → m'.state.block = none

/-- At every moment of every render, the state's block is the one being run. -/
theorem Reached.blockLaw (h : m.Reached config) : m.BlockLaw config := by
  have hlevel {active : ActiveBlock} (hactive : m.state.block = some active) :
      active.levelsUp < m.state.blocks.depth active.name := by
    obtain ⟨below, body, above, hruns⟩ := h.runs active hactive
    rw [BlockRegistry.depth, hruns.chain, List.length_append, List.length_cons, hruns.level]
    omega
  refine ⟨fun {active} hactive => ?_, hlevel,
    fun hactive _ hlargest => Nat.le_trans (hlevel hactive) hlargest, superBlock_of_none,
    Enters.block_eq_none⟩
  obtain ⟨below, body, above, hruns⟩ := h.runs active hactive
  exact ⟨below, body, above, hruns, superBlock_of_chain hactive hruns.chain hruns.level⟩

end Moment

/-! ## A definition that is overtaken from below -/

namespace Page

/-- While the only definition of the body runs, another one is registered. -/
def body : Body := [.attempt [.superBlock], .registerBlock "body" [.write "below"], .superBlock]

def page : Template := Template.build "page" (some [.block "body" 0]) none [("body", body)]

def config : Config := Config.basic

/-- The moment at which the root of the page starts. -/
def starts : Moment :=
  ⟨2, .code none page.root, (Render.registerBlocks page (.begin config page Table.empty
    (.stream none) (some (Session.start config (some "page"))) (World.begin 0))).2⟩

/-- The moment at which the definition begins. -/
def begins : Moment :=
  ⟨1, .code none body, State.enterBlock ⟨"body", 0⟩ (starts.state.logged (.notice
    (.resolvedBlock "body" 0 1)))⟩

/-- The moment after the first `super`, which is an error that is caught. -/
def caught : Moment :=
  ⟨1, .code none body.tail,
    ((Stmt.attempt [.superBlock]).exec config (invoke config 1) none begins.state).2⟩

/-- The moment after the registration, at the second `super`. -/
def registered : Moment :=
  ⟨1, .code none [.superBlock],
    ((Stmt.registerBlock "body" [.write "below"]).exec config (invoke config 1) none
      caught.state).2⟩

theorem reached_registered : registered.Reached config := by
  have hstarts : starts.Reached config := .template (.started (some "page")) (.root rfl)
  have hbegins : begins.Reached config :=
    hstarts.step (.inr (.inl (show Moment.Calls starts begins from .definition rfl rfl)))
  have hcaught : caught.Reached config := hbegins.step (.inl (.next rfl))
  exact hcaught.step (.inl (.next rfl))

/-- After the registration the running definition has another one below it, so the
law says that `super` runs that one. -/
theorem blockLaw_registered :
    registered.Reached config ∧ registered.BlockLaw config ∧
      registered.state.block = some ⟨"body", 0⟩ ∧
      registered.state.blocks.chain "body" = [[.write "below"], body] :=
  ⟨reached_registered, reached_registered.blockLaw, rfl, rfl⟩

end Page

end Templating
