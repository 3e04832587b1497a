import Templating.Render.Exec

/-!
# Pools of sessions

A render has one session at a time in its hands.  A pool keeps many of them, so
that one can work with a session and with those derived from it in any order.
What sessions share is kept once: each member of the pool tells the registry
and the cache it works with by their numbers, and two members share one exactly
if the numbers agree.

`session?` puts the parts of a member together and `commit` puts them back, so
whatever can be done to a session in a render can be done to a member.
-/
namespace Templating

/-- One session of a pool. -/
structure Member where
  template : Option String
  autoescape : Bool
  exports : Table Value
  /-- The number of its registry. -/
  registry : Nat
  /-- The number of its cache. -/
  cache : Nat

/-- Sessions, and what they share. -/
structure Pool where
  members : Array Member
  registries : Array (BlockRegistry Body)
  caches : Array (Table Template)
  world : World

namespace Pool

/-- The pool without sessions. -/
def empty (world : World) : Pool := ⟨#[], #[], #[], world⟩

/-- The session a member stands for. -/
def session? (p : Pool) (i : Nat) : Option Session := do
  let m ← p.members[i]?
  let blocks ← p.registries[m.registry]?
  let cache ← p.caches[m.cache]?
  return ⟨m.template, m.autoescape, m.exports, blocks, cache⟩

/-- Put the parts of a session back in their places. -/
def commit (p : Pool) (i : Nat) (s : Session) : Pool :=
  match p.members[i]? with
  | none => p
  | some m =>
    { p with
      members := p.members.setIfInBounds i
        { m with template := s.template, autoescape := s.autoescape, exports := s.exports }
      registries := p.registries.setIfInBounds m.registry s.blocks
      caches := p.caches.setIfInBounds m.cache s.cache }

/-- Add a session with a registry and a cache of its own. -/
def add (p : Pool) (s : Session) : Pool :=
  { p with
    members := p.members.push
      ⟨s.template, s.autoescape, s.exports, p.registries.size, p.caches.size⟩
    registries := p.registries.push s.blocks
    caches := p.caches.push s.cache }

/-- Add a session that works with the cache of a member, and with its registry
if the way it was reached shares that. -/
def addDerived (p : Pool) (origin : Member) (s : Session) (reach : Reach) : Pool :=
  if reach.sharesBlocks then
    { p with
      members := p.members.push
        ⟨s.template, s.autoescape, s.exports, origin.registry, origin.cache⟩ }
  else
    { p with
      members := p.members.push
        ⟨s.template, s.autoescape, s.exports, p.registries.size, origin.cache⟩
      registries := p.registries.push s.blocks }

/-- Do something in a member's session, at the top level of an empty scope, with
the output kept apart. -/
def within {α : Type} (p : Pool) (i : Nat) (m : Render α) : Option (Outcome α) × Pool :=
  match p.session? i with
  | none => (none, p)
  | some session =>
    let (outcome, ended) := m (State.start session (.root Table.empty) (.buffer "") p.world)
    (some outcome, { p.commit i ended.session with world := ended.world })

/-- Derive a session from a member. -/
def derive (config : Config) (p : Pool) (i : Nat) (name : String) (reach : Reach) : Pool :=
  match p.members[i]?, p.within i (Render.deriveSession config name reach) with
  | some origin, (some (.done session), p) => p.addDerived origin session reach
  | _, (_, p) => p

/-- Whether two members work with the same registry. -/
def sharesBlocks (p : Pool) (i j : Nat) : Bool :=
  match p.members[i]?, p.members[j]? with
  | some a, some b => a.registry == b.registry
  | _, _ => false

/-- Whether two members work with the same cache. -/
def sharesTemplates (p : Pool) (i j : Nat) : Bool :=
  match p.members[i]?, p.members[j]? with
  | some a, some b => a.cache == b.cache
  | _, _ => false

/-- Whether two members both find the template of a name.  A loader hands out one
template per name, so they find the same one. -/
def agreeOn (config : Config) (p : Pool) (i j : Nat) (name : String) : Bool × Pool :=
  let (first, p) := p.within i (Render.getTemplate config name)
  let (second, p) := p.within j (Render.getTemplate config name)
  match first, second with
  | some (.done _), some (.done _) => (true, p)
  | _, _ => (false, p)

/-- The text that the definition of a block writes when it is run by itself. -/
def textOfBlock (invoke : Invoke) (name : String) (levelsUp : Nat) : Render String := do
  let body ← Render.resolveBlock name levelsUp
  Render.capture (invoke body)

end Pool
end Templating
