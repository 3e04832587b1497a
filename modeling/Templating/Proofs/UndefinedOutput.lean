import Templating.Config.Catalogue
import Templating.Proofs.Moment
import Templating.Proofs.Written

/-!
# Undefined values on their way to the sink

Two kinds of statement turn a value into text and write it: `emit`, whose value
is that of its operand, and a filtered part, whose value is what the filter has
made of the captured text (`Stmt.Outputs`).  The policy on undefined values says
what has to happen when that value is undefined (`UndefinedPolicy.Kept`): the
strict one makes an error of it before anything is written, the lenient one
writes one chunk without text.

`emit` asks the policy, a filtered part does not.  So the policy is kept exactly
where an `emit` is run or the policy is the lenient one
(`Stmt.Outputs.kept_iff`): under the strict policy an undefined value that a
filter yields is written as nothing.
-/
namespace Templating

/-- A statement has come to the value that it turns into text and writes, in the
state in which it has it. -/
inductive Stmt.Outputs (config : Config) (depth : Nat) (loop : Option LoopContext) :
    Stmt → State → Value → State → Prop
  | emitted {x s v t} :
      x.eval config (invoke config depth) s = (.done v, t) →
      Outputs config depth loop (.emit x) s v t
  | filtered {filter arguments body s given t text u v} :
      Expr.evalAll config (invoke config depth) arguments s = (.done given, t) →
      Render.withFrame (Render.capture (asWhole (Stmt.execAll config (invoke config depth) none
        body))) t = (.done text, u) →
      config.callFilter filter (.markup ⟨text⟩) given = .ok v →
      Outputs config depth loop (.filterBlock filter arguments body) s v u

/-- The policy is kept when the undefined value of a name is about to be written
in a state: the strict one by an error that leaves the state alone, the lenient
one by a chunk without text. -/
def UndefinedPolicy.Kept (policy : UndefinedPolicy) (name : String) (s : State)
    (result : Outcome Flow × State) : Prop :=
  match policy with
  | .strict => result = (.failed (.undefined name), s)
  | .lenient => result = simply (Render.write "") s

/-- Whether a statement writes the value of an operand. -/
def Stmt.isEmit : Stmt → Bool
  | .emit _ => true
  | _ => false

section
variable {config : Config} {depth : Nat} {loop : Option LoopContext} {s t : State} {v : Value}

theorem emit_undefined (config : Config) (name : String) (s : State) :
    config.undefinedPolicy.Kept name s (simply (Render.emit config (.undefined name)) s) := by
  unfold Render.emit Render.refuseUndefined
  cases config.undefinedPolicy with
  | strict => rfl
  | lenient =>
    show simply (do
      let autoescape ← Action.read fun s => s.session.autoescape
      Render.write (Value.finalize (.undefined name) autoescape)) s = simply (Render.write "") s
    -- No text is the same text, escaped or not.
    have htext (autoescape : Bool) : Value.finalize (.undefined name) autoescape = "" := by
      cases autoescape <;> rfl
    simp only [htext]
    rfl

theorem exec_emit {x : Expr} (h : x.eval config (invoke config depth) s = (.done v, t)) :
    (Stmt.emit x).exec config (invoke config depth) loop s = simply (Render.emit config v) t := by
  rw [Stmt.exec, simply, Action.bind_apply, Action.bind_of_done h]
  rfl

/-- What a filter yields is written without asking the policy. -/
theorem exec_filterBlock {filter : String} {arguments : List Expr} {body : Body}
    {given : List Value} {text : String} {u : State}
    (hgiven : Expr.evalAll config (invoke config depth) arguments s = (.done given, t))
    (htext : Render.withFrame (Render.capture (asWhole (Stmt.execAll config (invoke config depth)
      none body))) t = (.done text, u))
    (hv : config.callFilter filter (.markup ⟨text⟩) given = .ok v) :
    (Stmt.filterBlock filter arguments body).exec config (invoke config depth) loop s =
      simply (Render.write v.toText) u := by
  rw [Stmt.exec, simply, Action.bind_apply, Action.bind_of_done hgiven, Render.filterBlock,
    Action.bind_of_done htext, Action.bind_of_done (Action.ofExcept_of_ok hv u)]
  rfl

/-- Writing fails for want of room only. -/
theorem write_ne_undefined (text name : String) (s t : State) :
    simply (Render.write text) s ≠ (.failed (.undefined name), t) := by
  intro h
  rcases write_cases text s with ⟨sink, log, -, hrun⟩ | ⟨-, hrun⟩
  · rw [simply, Action.bind_of_done hrun] at h
    cases h
  · rw [simply, Action.bind_of_failed hrun] at h
    cases h

/-- When an undefined value is about to be written, the policy is kept exactly by
`emit` and by the lenient policy. -/
theorem Stmt.Outputs.kept_iff {c : Stmt} {name : String}
    (h : c.Outputs config depth loop s (.undefined name) t) :
    config.undefinedPolicy.Kept name t (c.exec config (invoke config depth) loop s) ↔
      c.isEmit = true ∨ config.undefinedPolicy = .lenient := by
  cases h with
  | emitted hv =>
    rw [exec_emit hv]
    exact iff_of_true (emit_undefined config name t) (.inl rfl)
  | filtered hgiven htext hv =>
    rw [exec_filterBlock hgiven htext hv]
    cases config.undefinedPolicy with
    | strict =>
      refine iff_of_false (write_ne_undefined _ name _ _) ?_
      rintro (hemit | hpolicy)
      · cases hemit
      · cases hpolicy
    | lenient => exact iff_of_true rfl (.inr rfl)

end

namespace Erasure

/-- Undefined values are errors, and a filter makes everything undefined. -/
def config : Config :=
  { Config.basic with
    filters := Table.ofList [("undef", FilterKind.undefined.filter)]
    undefinedPolicy := .strict }

/-- The word that is put through the filter. -/
def part : Stmt := .filterBlock "undef" [] [.write "x"]

/-- The state in which a render of the part begins. -/
def begun : State :=
  .begin config (Template.build "t" (some [part]) none []) Table.empty (.stream none) none
    (World.begin 0)

/-- The part comes to an undefined value, and would have to be an `emit`. -/
theorem kept_iff_part :
    part.Outputs config 1 none begun (.undefined "from_filter") begun ∧
      (config.undefinedPolicy.Kept "from_filter" begun
          (part.exec config (invoke config 1) none begun) ↔
        part.isEmit = true ∨ config.undefinedPolicy = .lenient) :=
  ⟨.filtered rfl rfl rfl, Stmt.Outputs.kept_iff (.filtered rfl rfl rfl)⟩

/-- Under the strict policy the part ends well, with a chunk without text. -/
theorem not_kept_part :
    config.undefinedPolicy = .strict ∧
      part.Outputs config 1 none begun (.undefined "from_filter") begun ∧
      part.exec config (invoke config 1) none begun =
        (.done .next, begun.logged (.output "")) ∧
      ¬ config.undefinedPolicy.Kept "from_filter" begun
          (part.exec config (invoke config 1) none begun) := by
  have hrun : part.exec config (invoke config 1) none begun =
      (.done .next, begun.logged (.output "")) := rfl
  refine ⟨rfl, .filtered rfl rfl rfl, hrun, fun h => ?_⟩
  rw [hrun] at h
  cases h

end Erasure

end Templating
