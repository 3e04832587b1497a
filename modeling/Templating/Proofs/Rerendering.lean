import Templating.Proofs.EchoCode
import Templating.Proofs.Inheritance
import Templating.Proofs.Uncaught

/-!
# Rendering again in the same session

A session that was rendered in can be used again.  Its registry then holds
whatever the first render has registered, its exports are filled and its cache is
warm.  If the same template is rendered in it with the same variables, all its
definitions are registered once more, below the old ones.  So each lookup finds an
old definition, namely the one that is there in the end; and if the first render
found a definition at that address, it is the same one.

Hence a second render writes what the first one wrote, provided that the first one
succeeded, that it found all definitions it asked for, even those whose absence it
would have survived, and that it left escaping as it was
(`evaluateTemplate_again`).  Where no code catches errors, a render that succeeds
has found all it asked for (`findsAll_of_uncaught`).

The instances that the second render makes have other numbers than those of the
first; the filters and tests are functions that cannot tell.
-/
namespace Templating

/-- What is noted afterwards is no chunk. -/
theorem State.Wrote.andLogged {s t : State} {chunks : List String} (h : s.Wrote chunks t)
    {e : Event} (he : e.chunk? = none) : s.Wrote chunks (t.logged e) := by
  have hlogged := h.trans (.logged t he)
  rwa [List.append_nil] at hlogged

/-- What was made before any instance that is shifted shows unchanged. -/
theorem Scope.showsShifted_root {σ : Shift} {context : Context}
    (h : Value.EntriesBelow σ.first context.row) :
    (Scope.root context).ShowsShifted σ (.root context) := by
  intro name
  have hcontext : context.map (Value.shifted σ) = context := by
    rw [Table.map, ← Value.shiftedEntries_eq, Value.shiftedEntries_of_below σ h]
  show context.get? name = (context.get? name).map (Value.shifted σ)
  rw [← Table.get?_map, hcontext]

section
variable {config : Config} {depth : Nat} {t : Template} {context : Context}
variable {sink : Sink} {name : Option String} {world : World} {ended : State}

/-- The state in which a render in a new session begins echoes itself. -/
theorem echoedBy_self (hcontext : Value.EntriesBelow world.nextInstance context.row)
    (hsink : sink.TakesAll) :
    (State.begin config t context sink (some (Session.start config name)) world).EchoedBy config
      ⟨world.nextInstance, 0⟩ .fresh
      (State.begin config t context sink (some (Session.start config name)) world) where
  scope := Scope.showsShifted_root hcontext
  frames := rfl
  block := rfl
  template := rfl
  autoescape := rfl
  session := ⟨rfl, rfl⟩
  first_le := Nat.le_refl _
  nextInstance := rfl
  faithful _ _ h := by cases h
  faithful' _ _ h := by cases h
  takesAll := hsink
  takesAll' := hsink

/-- A second render begins in a state that echoes the one in which the first
began: all definitions that it finds at first are those that were left. -/
theorem echoedBy_begin {sink' : Sink} {world' : World} {s : Session}
    (hcontext : Value.EntriesBelow world.nextInstance context.row)
    (hsink : sink.TakesAll) (hsink' : sink'.TakesAll)
    (hworld : world.nextInstance ≤ world'.nextInstance) (htemplate : s.template = name)
    (hfaithful : s.Faithful config)
    (hescape : s.autoescape = (Session.start config name).autoescape) :
    (State.begin config t context sink (some (Session.start config name)) world).EchoedBy config
      ⟨world.nextInstance, world'.nextInstance - world.nextInstance⟩ (.used s.blocks)
      (State.begin config t context sink' (some s) world') where
  scope := Scope.showsShifted_root hcontext
  frames := rfl
  block := rfl
  template := htemplate
  autoescape := hescape
  session _ := rfl
  first_le := Nat.le_refl _
  nextInstance := (Nat.add_sub_of_le hworld).symm
  faithful _ _ h := by cases h
  faithful' := hfaithful
  takesAll := hsink
  takesAll' := hsink'

/-- The counter of instances does not go back. -/
theorem nextInstance_le_of_evaluateTemplate (hnumbers : config.IgnoresNumbers world.nextInstance)
    (hcontext : Value.EntriesBelow world.nextInstance context.row) (hsink : sink.TakesAll) :
    world.nextInstance ≤ (config.evaluateTemplate depth t context sink
      (some (Session.start config name)) world).2.world.nextInstance := by
  have hruns := Echo.runsEchoing (σ := ⟨world.nextInstance, 0⟩) hnumbers depth
  let begun := State.begin config t context sink (some (Session.start config name)) world
  have hself : begun.EchoedBy config ⟨world.nextInstance, 0⟩ .fresh begun :=
    echoedBy_self hcontext hsink
  obtain ⟨-, hechoed, -⟩ := Echo.runTemplate_fresh hruns t begun begun hself
  exact hechoed.first_le

/-- What was found in a render at some moment is found in the registry that the
render leaves behind. -/
theorem State.FindsAll.findsAll_used {begun : State} (h : begun.FindsAll config depth t)
    {first : Moment} (hstart : Moment.Starts config depth t begun first) :
    first.FindsAll config
      (.used (Render.runTemplate (invoke config depth) t begun).2.blocks) := by
  intro m active hshares hasks
  obtain ⟨body, hbody⟩ := h first m active hstart hshares hasks
  exact ⟨body, hbody, (hshares.grows_ended.trans hstart.grows_ended).resolve hbody⟩

/-- A template that was rendered in a new session and is rendered in that session
once more, with the same variables, writes the same chunks. -/
theorem evaluateTemplate_again
    (hnumbers : config.IgnoresNumbers world.nextInstance)
    (hcontext : Value.EntriesBelow world.nextInstance context.row)
    (hsink : sink.TakesAll)
    (hrun : config.evaluateTemplate depth t context sink (some (Session.start config name)) world =
      (.done (), ended))
    (hfound : (State.begin config t context sink (some (Session.start config name))
      world).FindsAll config depth t)
    (hescape : ended.session.autoescape = (Session.start config name).autoescape)
    {sink' : Sink} {world' : World} (hsink' : sink'.TakesAll)
    (hworld : ended.world.nextInstance ≤ world'.nextInstance) :
    ∃ chunks ended',
      config.evaluateTemplate depth t context sink' (some ended.session) world' =
        (.done (), ended') ∧
      (State.begin config t context sink (some (Session.start config name)) world).Wrote chunks
        ended ∧
      (State.begin config t context sink' (some ended.session) world').Wrote chunks ended' := by
  have hused : (config.evaluateTemplate depth t context sink (some (Session.start config name))
      world).2.session.Used config := .rendered depth t context sink world (.started name)
  have hframe := sameFrame_evaluateTemplate config depth t context sink
    (some (Session.start config name)) world
  have hcount : world.nextInstance ≤ (config.evaluateTemplate depth t context sink
      (some (Session.start config name)) world).2.world.nextInstance :=
    nextInstance_le_of_evaluateTemplate hnumbers hcontext hsink
  rw [hrun] at hused hframe hcount
  rw [evaluateTemplate_eq] at hrun
  obtain ⟨hdone, rfl⟩ := Prod.mk.inj hrun
  have hbegun := echoedBy_begin (t := t) hcontext hsink hsink' (Nat.le_trans hcount hworld)
    hframe.session.template hused.faithful hescape
  -- The second run finds what the first one has left.
  have hruns := Echo.runsEchoing
    (σ := ⟨world.nextInstance, world'.nextInstance - world.nextInstance⟩) hnumbers depth
  obtain ⟨hout, -, chunks, hwrote, hwrote'⟩ := Echo.runTemplate hruns
    (fun first hstart => hfound.findsAll_used hstart) _ hbegun
  rw [hdone] at hout
  exact ⟨chunks, _, Prod.ext hout rfl, hwrote.andLogged rfl, hwrote'.andLogged rfl⟩

end

/-! ## The child of a family, rendered twice -/

namespace Family

theorem uncaught_parent : Vocabulary.uncaught.Template parent where
  root := ⟨trivial, trivial⟩
  setup _ hsetup := by cases hsetup
  blocks entry hentry := by
    cases List.mem_singleton.mp hentry
    exact ⟨trivial, trivial⟩

theorem uncaught_child : Vocabulary.uncaught.Template child where
  root := ⟨trivial, trivial⟩
  setup _ hsetup := by cases hsetup
  blocks entry hentry := by
    cases List.mem_singleton.mp hentry
    exact ⟨trivial, trivial, trivial⟩

/-- The state in which the render of the child ends. -/
def ended : State :=
  (config.evaluateTemplate 4 child Table.empty (.stream none)
    (some (Session.start config (some "child"))) (World.begin 0)).2

/-- The session of the child can be used again, although it has both titles
already, the one of the parent too. -/
theorem renders_again :
    config.evaluateTemplate 4 child Table.empty (.stream none)
        (some (Session.start config (some "child"))) (World.begin 0) = (.done (), ended) ∧
      begun.FindsAll config 4 child ∧
      ended.session.blocks.depth "title" = 2 ∧ ended.world.chunks = ["About - ", "Untitled"] ∧
      ∃ chunks ended',
        config.evaluateTemplate 4 child Table.empty (.stream none) (some ended.session)
          ended.world = (.done (), ended') ∧
        begun.Wrote chunks ended ∧
        (State.begin config child Table.empty (.stream none) (some ended.session)
          ended.world).Wrote chunks ended' := by
  have hnumbers : config.IgnoresNumbers 0 :=
    Config.ignoresNumbers_of_catalogue (fun _ _ h => by cases h) (fun _ _ h => by cases h) 0
  have hcontext : Value.EntriesBelow 0 (Table.empty : Context).row := trivial
  have hsink : (Sink.stream none).TakesAll := trivial
  have hrun : config.evaluateTemplate 4 child Table.empty (.stream none)
      (some (Session.start config (some "child"))) (World.begin 0) = (.done (), ended) := rfl
  have hloader (name : String) (t : Template) (ht : config.loader name = .ok t) :
      Vocabulary.uncaught.Template t := by
    cases ht
    exact uncaught_parent
  have hfound : begun.FindsAll config 4 child :=
    findsAll_of_uncaught hloader uncaught_child (Session.holdsCode_start _ config _) rfl
  have hescape : ended.session.autoescape = false := rfl
  exact ⟨hrun, hfound, rfl, rfl,
    evaluateTemplate_again hnumbers hcontext hsink hrun hfound hescape hsink (Nat.le_refl _)⟩

end Family

end Templating
