import Templating.Render.Output

/-!
# Blocks in a render

Template code adds definitions to the registry of its session and asks for them
by name and distance.  A definition is a body, and bodies are run by a function
that is handed in (`Invoke`).  It runs in the session and the scope of whoever
asks for it, one frame deep, so what it assigns is never exported and ends with
it.  While it runs, the state tells which definition it is; the definition it
overrides is one level further up.

The definition is looked up before anything else happens, so a lookup that
fails changes nothing.
-/
namespace Templating

/-- How a body is run. -/
abbrev Invoke := Body → Render Unit

namespace Render

/-- Add a definition of a block. -/
def registerBlock (name : String) (body : Body) : Render Unit := fun s =>
  let blocks := s.session.blocks.register name body
  let t : State := { s with session := { s.session with blocks := blocks } }
  (.done (), t.logged (.notice (.registeredBlock name (blocks.depth name))))

/-- Add several definitions in turn. -/
def registerAll : List (String × Body) → Render Unit
  | [] => pure ()
  | (name, body) :: rest => do
    registerBlock name body
    registerAll rest

/-- Add the block definitions of a template. -/
def registerBlocks (t : Template) : Render Unit :=
  registerAll t.blocks.entries

/-- The definition of a block. -/
def resolveBlock (name : String) (levelsUp : Nat) : Render Body := do
  let blocks ← Action.read fun s => s.session.blocks
  match blocks.resolve name levelsUp with
  | .error cause => Action.fail (.lookup cause)
  | .ok body =>
    notify (.resolvedBlock name levelsUp (blocks.depth name))
    return body

/-- Run the definition of a block. -/
def evaluateBlock (invoke : Invoke) (name : String) (levelsUp : Nat) : Render Unit := do
  let body ← resolveBlock name levelsUp
  Action.bracket (State.enterBlock ⟨name, levelsUp⟩) State.leaveBlock (invoke body)

/-- Run the definition of a block at a negative level. -/
def evaluateBlockLevel (invoke : Invoke) (name : String) (level : Int) : Render Unit :=
  match levelsUpOfLevel level with
  | some levelsUp => evaluateBlock invoke name levelsUp
  | none => Action.fail (.lookup (.invalidBlockLevel name level))

/-- Run the definition that the running one overrides. -/
def superBlock (invoke : Invoke) : Render Unit := do
  match ← Action.read State.block with
  | some active => evaluateBlock invoke active.name (active.levelsUp + 1)
  | none => Action.fail (.lookup .notInBlock)

end Render
end Templating
