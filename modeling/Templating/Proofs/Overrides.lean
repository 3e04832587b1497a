import Templating.Proofs.Growth
import Templating.Session.Pool

/-!
# Overrides are stable

A host has many sessions in its hands and works with them in any order: it opens
them and derives them from one another, renders in them, and registers
definitions in them (`Pool.Step`).  In the middle of a render there are sessions
too, some of which work with a registry of the pool.  A `Point` is a place in all
this where a session can be asked for a definition, and `Point.Later` are the
points at which the same registry is met again.

What a registry has told at one point it keeps to at all later ones
(`Point.Later.honours`): a definition that was found stays the answer, chains only
get longer, and only a lookup that failed can be answered in another way.  It need
not succeed then: a name that had no definitions may have too few of them
(`BlockRegistry.Advances`, `Desk.too_few_definitions`).
-/
namespace Templating

open Relation (ReflTransGen)

/-! ## What a registry keeps to -/

namespace BlockRegistry

variable {α : Type} {r r' : BlockRegistry α}

/-- What the answer to a lookup can become.  A definition that was found stays the
answer.  A failure stays one or gives way to a definition, and never leads further away
from one: too few definitions of a name are not followed by none. -/
inductive Advances (name : String) (levelsUp : Nat) :
    Except LookupError α → Except LookupError α → Prop
  | same (answer : Except LookupError α) : Advances name levelsUp answer answer
  /-- Other names have got definitions. -/
  | unknown {known known' : List String} : known ⊆ known' →
      Advances name levelsUp (.error (.blockNotFound name known))
        (.error (.blockNotFound name known'))
  /-- This name has got definitions, but too few of them, -/
  | tooFew {known : List String} {depth : Nat} :
      Advances name levelsUp (.error (.blockNotFound name known))
        (.error (.blockLevelOverflow name levelsUp depth))
  /-- or enough. -/
  | defined {known : List String} {body : α} :
      Advances name levelsUp (.error (.blockNotFound name known)) (.ok body)
  /-- It has got more, which are still too few, -/
  | closer {depth depth' : Nat} : depth < depth' →
      Advances name levelsUp (.error (.blockLevelOverflow name levelsUp depth))
        (.error (.blockLevelOverflow name levelsUp depth'))
  /-- or enough. -/
  | reached {depth : Nat} {body : α} :
      Advances name levelsUp (.error (.blockLevelOverflow name levelsUp depth)) (.ok body)

/-- What the first registry has answered binds the second. -/
structure Honours (r r' : BlockRegistry α) : Prop where
  found : ∀ {name levelsUp body},
    r.resolve name levelsUp = .ok body → r'.resolve name levelsUp = .ok body
  depth_le : ∀ name, r.depth name ≤ r'.depth name
  /-- Only the answer to a lookup that failed can change. -/
  advances : ∀ name levelsUp,
    Advances name levelsUp (r.resolve name levelsUp) (r'.resolve name levelsUp)
  /-- Nothing is overridden, removed or moved: what is new is less specific than
  all that was there. -/
  below : ∀ name, ∃ lower, r'.chain name = lower ++ r.chain name

/-- A registry that grows comes closer to an answer to every lookup. -/
theorem Grows.advances (h : r.Grows r') (name : String) (levelsUp : Nat) :
    Advances name levelsUp (r.resolve name levelsUp) (r'.resolve name levelsUp) := by
  cases hbefore : r.resolve name levelsUp with
  | ok body =>
    rw [h.resolve hbefore]
    exact .same _
  | error cause =>
    rcases resolve_eq_error_iff.mp hbefore with ⟨-, rfl⟩ | ⟨hchain, -, rfl⟩
    · cases hafter : r'.resolve name levelsUp with
      | ok body => exact .defined
      | error cause' =>
        rcases resolve_eq_error_iff.mp hafter with ⟨-, rfl⟩ | ⟨-, -, rfl⟩
        · exact .unknown h.names_subset
        · exact .tooFew
    · cases hafter : r'.resolve name levelsUp with
      | ok body => exact .reached
      | error cause' =>
        rcases resolve_eq_error_iff.mp hafter with ⟨hnone, -⟩ | ⟨-, -, rfl⟩
        · exact absurd hnone (h.chain?_ne_none hchain)
        · rcases Nat.eq_or_lt_of_le (h.depth_le name) with heq | hlt
          · rw [heq]
            exact .same _
          · exact .closer hlt

theorem Honours.of_grows (h : r.Grows r') : r.Honours r' where
  found := h.resolve
  depth_le := h.depth_le
  advances := h.advances
  below name := by
    obtain ⟨lower, hlower⟩ := h name
    exact ⟨lower, hlower.symm⟩

theorem Grows.of_empty (r : BlockRegistry α) : BlockRegistry.empty.Grows r :=
  fun _ => List.nil_suffix

end BlockRegistry

/-! ## Operations on one session -/

theorem addsOnly_getTemplate (config : Config) (name : String) :
    AddsOnly (Render.getTemplate config name) :=
  .of_keeps (Keeps.getTemplate isApart_blocks config name)

theorem addsOnly_deriveSession (config : Config) (name : String) (reach : Reach) :
    AddsOnly (Render.deriveSession config name reach) :=
  fun _ => .refl _

theorem addsOnly_registerBlocks (config : Config) (t : Template) :
    AddsOnly (Render.registerBlocks t) :=
  .of_alike (Pairing.Sound.registerBlocks (sound_sameFrame config).pairing
    (Vocabulary.template_full t))

section

variable (config : Config)

/-- A host does something in a session, which leaves this state behind. -/
inductive Session.Operates (s : Session) (w : World) : State → Prop
  | fetched (name : String) (sink : Sink) :
      Operates s w (Render.getTemplate config name (.start s (.root Table.empty) sink w)).2
  /-- The blocks of a template are registered without it being run. -/
  | registered (t : Template) (sink : Sink) :
      Operates s w (Render.registerBlocks t (.start s (.root Table.empty) sink w)).2
  /-- Code is run, which may register definitions, to whatever end. -/
  | ran (depth : Nat) (body : Body) (scope : Scope) (sink : Sink) :
      Operates s w (Stmt.execAll config (invoke config depth) none body
        (.start s scope sink w)).2
  /-- A template is rendered, to whatever end. -/
  | rendered (depth : Nat) (t : Template) (context : Context) (sink : Sink) :
      Operates s w (config.evaluateTemplate depth t context sink (some s) w).2

/-- The first moments of what is run in a session, each with the state that is
left behind in the end. -/
inductive Session.Opens (s : Session) (w : World) : Moment → State → Prop
  | ran (depth : Nat) (body : Body) (scope : Scope) (sink : Sink) :
      Opens s w ⟨depth, .code none body, .start s scope sink w⟩
        (Stmt.execAll config (invoke config depth) none body (.start s scope sink w)).2
  | rendered {depth : Nat} {t : Template} {context : Context} {sink : Sink} {m : Moment} :
      Moment.Starts config depth t (.begin config t context sink (some s) w) m →
      Opens s w m (config.evaluateTemplate depth t context sink (some s) w).2

variable {config} {s : Session} {w : World} {ended : State} {m : Moment}

theorem Session.Operates.grows (h : s.Operates config w ended) :
    s.blocks.Grows ended.blocks := by
  cases h with
  | fetched name sink => exact addsOnly_getTemplate config name (.start s _ sink w)
  | registered t sink => exact addsOnly_registerBlocks config t (.start s _ sink w)
  | ran depth body scope sink =>
    exact addsOnly_execAll config depth none body (.start s scope sink w)
  | rendered depth t context sink =>
    exact (sameFrame_evaluateTemplate config depth t context sink (some s) w).session.grows

theorem Session.Opens.grows (h : s.Opens config w m ended) : s.blocks.Grows m.state.blocks := by
  cases h with
  | ran depth body scope sink => exact .refl _
  | rendered hstart => exact hstart.grows

theorem Session.Opens.grows_ended (h : s.Opens config w m ended) :
    (m.ended config).blocks.Grows ended.blocks := by
  cases h with
  | ran depth body scope sink => exact .refl _
  | rendered hstart => exact hstart.grows_ended

/-! ## Operations on a pool -/

namespace Pool

variable {p p' : Pool} {i j : Nat}

/-- The registry that a member works with. -/
def blocks (p : Pool) (i : Nat) : BlockRegistry Body :=
  ((p.members[i]?.map Member.registry).bind fun number => p.registries[number]?).getD .empty

/-- The pool after something was done in a member's session. -/
def after (p : Pool) (i : Nat) (ended : State) : Pool :=
  { p.commit i ended.session with world := ended.world }

variable (config) in
/-- A host does something with its sessions. -/
inductive Step : Pool → Pool → Prop
  | opened (p : Pool) (template : Option String) :
      Step p (p.add (Session.start config template))
  | derived (p : Pool) (i : Nat) (name : String) (reach : Reach) :
      Step p (p.derive config i name reach)
  | operated {p : Pool} {i : Nat} {s : Session} {ended : State} :
      p.session? i = some s → s.Operates config p.world ended → Step p (p.after i ended)

theorem exists_of_session (h : p.session? i = some s) :
    ∃ m, p.members[i]? = some m ∧ p.registries[m.registry]? = some s.blocks := by
  simp only [session?, Option.bind_eq_bind, Option.bind_eq_some_iff] at h
  obtain ⟨m, hm, blocks, hblocks, cache, -, hs⟩ := h
  cases hs
  exact ⟨m, hm, hblocks⟩

theorem blocks_of_session (h : p.session? i = some s) : p.blocks i = s.blocks := by
  obtain ⟨m, hm, hblocks⟩ := exists_of_session h
  simp [blocks, hm, hblocks]

theorem blocks_of_sharesBlocks (h : p.sharesBlocks i j = true) : p.blocks j = p.blocks i := by
  unfold sharesBlocks at h
  split at h
  · next a b hi hj =>
    rw [blocks, blocks, hi, hj, Option.map_some, Option.map_some, beq_iff_eq.mp h]
  · cases h

theorem sharesBlocks_self (h : p.session? i = some s) : p.sharesBlocks i i = true := by
  obtain ⟨m, hm, -⟩ := exists_of_session h
  simp only [sharesBlocks, hm, beq_self_eq_true]

/-- What comes back from a member is seen by all members with the same registry, and
by no others. -/
theorem blocks_commit (h : p.session? i = some s) (t : Session) (j : Nat) :
    (p.commit i t).blocks j = if p.sharesBlocks i j then t.blocks else p.blocks j := by
  obtain ⟨m, hm, hblocks⟩ := exists_of_session h
  obtain ⟨hi, -⟩ := Array.getElem?_eq_some_iff.mp hm
  obtain ⟨hregistry, -⟩ := Array.getElem?_eq_some_iff.mp hblocks
  -- The members keep the numbers of their registries.
  have hnumber : (p.commit i t).members[j]?.map Member.registry =
      p.members[j]?.map Member.registry := by
    simp only [commit, hm, Array.getElem?_setIfInBounds]
    by_cases hij : i = j
    · subst hij
      rw [if_pos rfl, if_pos hi, hm]
      rfl
    · rw [if_neg hij]
  have hregistries (number : Nat) : (p.commit i t).registries[number]? =
      if m.registry = number then some t.blocks else p.registries[number]? := by
    simp only [commit, hm, Array.getElem?_setIfInBounds, if_pos hregistry]
  rw [blocks, blocks, hnumber]
  cases hj : p.members[j]? with
  | none => simp [sharesBlocks, hj]
  | some other =>
    rw [Option.map_some, Option.bind_some, Option.bind_some, hregistries]
    simp only [sharesBlocks, hm, hj, beq_iff_eq]
    split <;> rfl

/-- If a session comes back with a registry that has grown, every member's has. -/
theorem grows_commit {t : Session} (h : p.session? i = some s) (hs : s.blocks.Grows t.blocks)
    (j : Nat) : (p.blocks j).Grows ((p.commit i t).blocks j) := by
  rw [blocks_commit h]
  split
  · next hshared =>
    rw [blocks_of_sharesBlocks hshared, blocks_of_session h]
    exact hs
  · exact .refl _

theorem grows_within {α : Type} {m : Render α} (hm : AddsOnly m) (i j : Nat) :
    (p.blocks j).Grows ((p.within i m).2.blocks j) := by
  unfold within
  split
  · exact .refl _
  · next s hs => exact grows_commit hs (hm (.start s _ _ _)) j

theorem getElem?_push_of_some {α : Type} {xs : Array α} {i : Nat} {a : α} (h : xs[i]? = some a)
    (b : α) : (xs.push b)[i]? = some a := by
  obtain ⟨hi, -⟩ := Array.getElem?_eq_some_iff.mp h
  rw [Array.getElem?_push_lt hi, ← h, Array.getElem?_eq_getElem hi]

/-- If members and registries are only added, no member loses a definition. -/
theorem grows_of_push
    (hmembers : ∀ (j : Nat) m, p.members[j]? = some m → p'.members[j]? = some m)
    (hregistries : ∀ (number : Nat) r,
      p.registries[number]? = some r → p'.registries[number]? = some r) (j : Nat) :
    (p.blocks j).Grows (p'.blocks j) := by
  cases hj : p.members[j]? with
  | none =>
    rw [blocks, hj]
    exact .of_empty _
  | some m =>
    cases hnumber : p.registries[m.registry]? with
    | none =>
      rw [blocks, hj, Option.map_some, Option.bind_some, hnumber]
      exact .of_empty _
    | some r =>
      refine .of_eq ?_
      rw [blocks, blocks, hj, hmembers j m hj, Option.map_some, Option.bind_some, Option.bind_some,
        hnumber, hregistries _ r hnumber]

theorem grows_add (p : Pool) (s : Session) (j : Nat) :
    (p.blocks j).Grows ((p.add s).blocks j) := by
  refine grows_of_push (fun j m h => ?_) (fun number r h => ?_) j
  · exact getElem?_push_of_some h _
  · exact getElem?_push_of_some h _

theorem grows_addDerived (p : Pool) (origin : Member) (s : Session) (reach : Reach) (j : Nat) :
    (p.blocks j).Grows ((p.addDerived origin s reach).blocks j) := by
  unfold addDerived
  split
  · refine grows_of_push (fun j m h => ?_) (fun number r h => ?_) j
    · exact getElem?_push_of_some h _
    · exact h
  · refine grows_of_push (fun j m h => ?_) (fun number r h => ?_) j
    · exact getElem?_push_of_some h _
    · exact getElem?_push_of_some h _

/-- The step lemma: no step takes a definition from any member. -/
theorem Step.grows (h : Step config p p') (j : Nat) : (p.blocks j).Grows (p'.blocks j) := by
  cases h with
  | opened template => exact grows_add p (Session.start config template) j
  | derived i name reach =>
    have hwithin := grows_within (p := p) (addsOnly_deriveSession config name reach) i j
    unfold derive
    rcases hresult : p.within i (Render.deriveSession config name reach) with ⟨outcome, q⟩
    rw [hresult] at hwithin
    cases p.members[i]? with
    | none => exact hwithin
    | some origin =>
      rcases outcome with _ | session | _ | _
      · exact hwithin
      · exact hwithin.trans (grows_addDerived _ origin session reach j)
      · exact hwithin
      · exact hwithin
  | operated hs hoperates => exact grows_commit hs hoperates.grows j

end Pool

/-! ## Points in the life of a registry -/

/-- A place where a session can be asked for a definition. -/
inductive Point where
  /-- Between the operations of a host: a member of its pool. -/
  | member (p : Pool) (i : Nat)
  /-- In the middle of an operation: the session at a moment. -/
  | running (m : Moment)

namespace Point

/-- The registry that is asked. -/
def blocks : Point → BlockRegistry Body
  | member p i => p.blocks i
  | running m => m.state.blocks

variable (config) in
/-- The same registry is met again at a later point. -/
inductive Next : Point → Point → Prop
  | stepped {p p' : Pool} (i : Nat) : p.Step config p' → Next (member p i) (member p' i)
  /-- Another session works with it. -/
  | peer {p : Pool} {i j : Nat} : p.sharesBlocks i j = true → Next (member p i) (member p j)
  /-- An operation on a member begins. -/
  | begins {p : Pool} {i : Nat} {s : Session} {m : Moment} {ended : State} :
      p.session? i = some s → s.Opens config p.world m ended → Next (member p i) (running m)
  /-- The operation goes on: in the same body, in the definition of a block, or in
  a template that is extended. -/
  | goes {m m' : Moment} : Moment.SharesNext config m m' → Next (running m) (running m')
  /-- The run that this moment belongs to is over, and another moment takes up the
  registry as it was left: a later statement, the next iteration, a root after its
  setup. -/
  | resumes {first m m' : Moment} : Moment.Shares config first m →
      m'.state.blocks = (first.ended config).blocks → Next (running m) (running m')
  /-- The operation that this moment belongs to is over. -/
  | ends {p : Pool} {i : Nat} {s : Session} {first m : Moment} {ended : State} :
      p.session? i = some s → s.Opens config p.world first ended →
      Moment.Shares config first m → Next (running m) (member (p.after i ended) i)

variable (config) in
/-- The points at which the same registry is met later on. -/
abbrev Later (a b : Point) : Prop := ReflTransGen (Next config) a b

variable {a b : Point}

/-- The step lemma. -/
theorem Next.grows (h : Next config a b) : a.blocks.Grows b.blocks := by
  cases h with
  | stepped i hstep => exact hstep.grows i
  | peer hshared => exact .of_eq (Pool.blocks_of_sharesBlocks hshared)
  | begins hs hopens =>
    show (Pool.blocks _ _).Grows _
    rw [Pool.blocks_of_session hs]
    exact hopens.grows
  | goes hnext => exact hnext.grows
  | resumes hshares htaken => exact hshares.grows_ended.trans (.of_eq htaken)
  | @ends p i s first m ended hs hopens hshares =>
    have hafter : (p.after i ended).blocks i = ended.blocks := by
      have hcommit := Pool.blocks_commit hs ended.session i
      rwa [if_pos (Pool.sharesBlocks_self hs)] at hcommit
    show m.state.blocks.Grows ((p.after i ended).blocks i)
    rw [hafter]
    exact hshares.grows_ended.trans hopens.grows_ended

/-- The run lemma: what a registry has told at one point it keeps to later. -/
theorem Later.honours (h : Later config a b) : a.blocks.Honours b.blocks := by
  suffices hgrows : a.blocks.Grows b.blocks from .of_grows hgrows
  induction h with
  | refl => exact .refl _
  | tail _ hnext ih => exact ih.trans hnext.grows

end Point

end

/-! ## A session and one that extends it -/

namespace Desk

def config : Config := Config.basic

/-- Register a definition of the body. -/
def define (text : String) : Body := [.registerBlock "body" [.write text]]

/-- A member registers a definition. -/
def defined (p : Pool) (i : Nat) (s : Session) (text : String) : Pool :=
  p.after i (Stmt.execAll config (invoke config 0) none (define text)
    (.start s (.root Table.empty) (.stream none) p.world)).2

def page : Session := Session.start config (some "page")

/-- A page is opened. -/
def opened : Pool := (Pool.empty (World.begin 0)).add page

/-- The page has a definition of its own. -/
def before : Pool := defined opened 0 page "page"

/-- The definition that this one overrides is asked for before there is any and then
when there is only this one.  The answer changes from one failure to another. -/
theorem too_few_definitions :
    Point.Later config (.member opened 0) (.member before 0) ∧
      (Point.member opened 0).blocks.resolve "body" 1 = .error (.blockNotFound "body" []) ∧
      (Point.member before 0).blocks.resolve "body" 1 =
        .error (.blockLevelOverflow "body" 1 1) := by
  have hdefined : opened.Step config before := .operated (show _ = some page from rfl) (.ran ..)
  exact ⟨.single (.stepped 0 hdefined), rfl, rfl⟩

def base : Session :=
  { Session.derive config page "base" .extending with blocks := before.blocks 0 }

/-- A session was derived from it and has registered another definition. -/
def after : Pool := defined (before.derive config 0 "base" .extending) 1 base "base"

theorem later : Point.Later config (.member before 0) (.member after 0) := by
  have hderived : before.Step config (before.derive config 0 "base" .extending) := .derived ..
  have hdefined : (before.derive config 0 "base" .extending).Step config after :=
    .operated (show _ = some base from rfl) (.ran ..)
  exact .tail (.single (.stepped 0 hderived)) (.stepped 0 hdefined)

/-- The definition of the extended template has gone below the other one, so the
page is still what it was. -/
theorem honours_extended :
    Point.Later config (.member before 0) (.member after 0) ∧
      (Point.member before 0).blocks.Honours (Point.member after 0).blocks ∧
      (before.blocks 0).chain "body" = [[.write "page"]] ∧
      (after.blocks 0).chain "body" = [[.write "base"], [.write "page"]] :=
  ⟨later, later.honours, rfl, rfl⟩

end Desk

end Templating
