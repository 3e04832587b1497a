import Templating.Proofs.EscapedText
import Templating.Render.Exec

/-!
# What a value is written as

A value is turned into text in four ways: its plain text, its text marked as safe or not,
the text that is written out under a setting of escaping, and the markup that trusting or
escaping makes of it.  They agree on the text, and on which texts are left as they are
(`renderingLaw`).  The mark belongs to the value as a whole: a list is not safe, whatever
its elements are, and so the texts of safe elements are escaped with the rest.

Escaping a text twice is not escaping it once, but escaping a value twice is, since what
comes out the first time is marked.

Template code that trusts a value where escaping is on writes the same text where it is
off (`Render.trustIfEscaping_bind_emit`).  The undefined marker is left out of this, so
that it is not hidden from the policy on undefined values by being trusted.
-/
namespace Templating

namespace Value

/-! ## Texts -/

theorem toTexts_eq_map (items : List Value) : toTexts items = items.map toText := by
  induction items with
  | nil => rfl
  | cons item rest ih => rw [toTexts, ih, List.map_cons]

theorem finalize_true (v : Value) : v.finalize true = v.escape.text := by
  rw [finalize, escape, Bool.true_and]
  cases v.rendered.isSafe <;> rfl

theorem escape_markup (m : Markup) : (markup m).escape = m := rfl

/-- The elements of a list are escaped, those that are safe too. -/
theorem finalize_list (items : List Value) :
    (list items).finalize true =
      Entity.escape ("[" ++ ", ".intercalate (items.map toText) ++ "]") := by
  rw [← toTexts_eq_map]
  rfl

/-- The mark of an element is gone when the text of the list is made. -/
example : (list [markup ⟨"<b>"⟩]).finalize true = "[&lt;b&gt;]" := by decide

/-- With escaping on, the text is left as it is where it is safe or has nothing to escape. -/
theorem finalize_true_eq_toText_iff (v : Value) : v.finalize true = v.toText ↔
    v.rendered.isSafe = true ∨ ∀ c ∈ v.toText.toList, Entity.of? c = none := by
  unfold finalize
  rw [Bool.true_and, text_rendered]
  by_cases hsafe : v.rendered.isSafe = true
  · simp [hsafe]
  · rw [Bool.eq_false_iff.mpr hsafe]
    simp [Entity.escape_eq_self_iff]

end Value

/-! ## Trusting where escaping is on -/

namespace UnaryOp

/-- The undefined marker stays what it is, and nothing becomes one. -/
theorem isUndefined_trustIfEscaping (flag : Bool) (v : Value) :
    (trustIfEscaping.apply flag v).isUndefined = v.isUndefined := by
  cases flag with
  | false => rfl
  | true => cases v <;> rfl

/-- Where escaping is on, the text is safe or there is none. -/
theorem finalize_trustIfEscaping (flag : Bool) (v : Value) :
    (trustIfEscaping.apply flag v).finalize flag = v.toText := by
  cases flag with
  | false => exact v.finalize_false
  | true =>
    cases v with
    | undefined name => rfl
    | _ => exact (Value.finalize_markup _ true).trans (Value.text_rendered _)

theorem refuseUndefined_trustIfEscaping (config : Config) (flag : Bool) (v : Value) :
    Render.refuseUndefined config (trustIfEscaping.apply flag v) =
      Render.refuseUndefined config v := by
  cases flag with
  | false => rfl
  | true => cases v <;> rfl

end UnaryOp

namespace Render

/-- Trust the text of a value where escaping is on. -/
def trustIfEscaping (v : Value) : Render Value := do
  let autoescape ← Action.read fun s => s.session.autoescape
  return UnaryOp.trustIfEscaping.apply autoescape v

/-- Write the text of a value as it is, if the value may be written. -/
def emitText (config : Config) (v : Value) : Render Unit := do
  refuseUndefined config v
  write v.toText

/-- A trusted value is written as its text, whether escaping is on or off. -/
theorem trustIfEscaping_bind_emit (config : Config) (v : Value) :
    (trustIfEscaping v >>= emit config) = emitText config v := by
  funext s
  calc (trustIfEscaping v >>= emit config) s
      = emit config (UnaryOp.trustIfEscaping.apply s.session.autoescape v) s := rfl
    _ = (do
          refuseUndefined config (UnaryOp.trustIfEscaping.apply s.session.autoescape v)
          write ((UnaryOp.trustIfEscaping.apply s.session.autoescape v).finalize
            s.session.autoescape)) s := emit_of_flag config _ rfl
    _ = emitText config v s := by
      rw [UnaryOp.refuseUndefined_trustIfEscaping, UnaryOp.finalize_trustIfEscaping]
      rfl

theorem emitText_of_defined {config : Config} {v : Value} (h : v.isUndefined = false) :
    emitText config v = write v.toText := by
  cases v with
  | undefined name => cases h
  | _ => rfl

theorem emitText_undefined (config : Config) (name : String) :
    emitText config (.undefined name) =
      match config.undefinedPolicy with
      | .strict => Action.fail (.undefined name)
      | .lenient => write "" := by
  unfold emitText refuseUndefined
  cases config.undefinedPolicy <;> rfl

theorem write_setAutoescape (text : String) (s : State) (flag : Bool) :
    write text (s.setAutoescape flag) =
      ((write text s).1, (write text s).2.setAutoescape flag) := by
  obtain ⟨session, scope, frames, block, sink, world⟩ := s
  rcases sink with (_ | _ | room) | captured
  · rfl
  · rfl
  · rfl
  · rfl

/-- What is written as text does not depend on the flag, and leaves it as it is. -/
theorem emitText_setAutoescape (config : Config) (v : Value) (s : State) (flag : Bool) :
    emitText config v (s.setAutoescape flag) =
      ((emitText config v s).1, (emitText config v s).2.setAutoescape flag) := by
  cases hdefined : v.isUndefined with
  | false =>
    rw [emitText_of_defined hdefined]
    exact write_setAutoescape v.toText s flag
  | true =>
    cases v with
    | undefined name =>
      rw [emitText_undefined]
      cases config.undefinedPolicy with
      | strict => rfl
      | lenient => exact write_setAutoescape "" s flag
    | _ => cases hdefined

end Render

/-- In template code it is the same: a value that is trusted where escaping is on, and then
written, is written as its text. -/
theorem Stmt.exec_emit_trusted (config : Config) (invoke : Invoke) (loop : Option LoopContext)
    (x : Expr) : (Stmt.emit (.unary .trustIfEscaping x)).exec config invoke loop =
      simply (x.eval config invoke >>= Render.emitText config) := by
  have heval : (Expr.unary .trustIfEscaping x).eval config invoke =
      x.eval config invoke >>= Render.trustIfEscaping := by
    rw [Expr.eval]
    rfl
  have hassoc : x.eval config invoke >>= Render.trustIfEscaping >>= Render.emit config =
      x.eval config invoke >>= fun v => Render.trustIfEscaping v >>= Render.emit config :=
    Action.bind_assoc _ _ _
  rw [Stmt.exec, heval, hassoc]
  simp only [Render.trustIfEscaping_bind_emit]

/-! ## The law -/

open Value in
/-- The renderings of a value agree. -/
structure RenderingLaw : Prop where
  /-- The marked text is the plain one. -/
  marked : ∀ v : Value, v.rendered.text = v.toText
  /-- With escaping off the plain text is written, -/
  plain : ∀ v : Value, v.finalize false = v.toText
  /-- and with escaping on the text of the escaped value. -/
  escaped : ∀ v : Value, v.finalize true = v.escape.text
  /-- The two differ only if the value is not safe and its text has one of the five special
  characters. -/
  alike : ∀ v : Value, v.finalize true = v.toText ↔ v.rendered.isSafe = true ∨
    ∀ c ∈ v.toText.toList, c ≠ '&' ∧ c ≠ '>' ∧ c ≠ '<' ∧ c ≠ '\'' ∧ c ≠ '"'
  /-- The elements of a list are escaped with it, whether they are safe or not. -/
  lists : ∀ items, (list items).finalize true =
    Entity.escape ("[" ++ ", ".intercalate (items.map toText) ++ "]")
  /-- Trusted, a value is written as its plain text under either setting. -/
  trusted : ∀ (v : Value) flag, (markup v.trust).finalize flag = v.toText
  /-- Escaped, it is escaped and written as it is from then on, -/
  settled : ∀ (v : Value) flag,
    (markup v.escape).escape = v.escape ∧ (markup v.escape).finalize flag = v.escape.text
  /-- which is not so with texts. -/
  unsettled : ∃ text, Entity.escape (Entity.escape text) ≠ Entity.escape text
  /-- Trusting where escaping is on never hides that a value is undefined, -/
  marker : ∀ flag (v : Value),
    (UnaryOp.trustIfEscaping.apply flag v).isUndefined = v.isUndefined
  /-- nor under which name. -/
  named : ∀ flag name, UnaryOp.trustIfEscaping.apply flag (undefined name) = undefined name
  /-- What has been trusted so is written as text, -/
  sent : ∀ config v,
    (Render.trustIfEscaping v >>= Render.emit config) = Render.emitText config v
  /-- in one chunk, which is the plain text, -/
  chunk : ∀ {config v}, v.isUndefined = false ∨ config.undefinedPolicy = .lenient →
    Render.emitText config v = Render.write v.toText
  /-- or not at all under the strict policy, and with the same error. -/
  refused : ∀ {config}, config.undefinedPolicy = .strict → ∀ name,
    Render.emitText config (undefined name) = Action.fail (.undefined name)
  /-- The flag has no part in that, and stays as it is. -/
  flagless : ∀ config v s flag,
    (Render.trustIfEscaping v >>= Render.emit config) (s.setAutoescape flag) =
      (((Render.trustIfEscaping v >>= Render.emit config) s).1,
        ((Render.trustIfEscaping v >>= Render.emit config) s).2.setAutoescape flag)
  /-- So it is with the value of any operand in template code. -/
  code : ∀ config invoke loop x, (Stmt.emit (.unary .trustIfEscaping x)).exec config invoke loop =
    simply (x.eval config invoke >>= Render.emitText config)

/-- Whatever becomes of a value on its way out, it has one text. -/
theorem renderingLaw : RenderingLaw where
  marked := Value.text_rendered
  plain := Value.finalize_false
  escaped := Value.finalize_true
  alike v := by
    rw [Value.finalize_true_eq_toText_iff]
    exact or_congr_right (forall₂_congr fun c _ => Entity.of?_eq_none_iff)
  lists := Value.finalize_list
  trusted v flag := (Value.finalize_markup v.trust flag).trans v.text_rendered
  settled v flag := ⟨Value.escape_markup v.escape, Value.finalize_markup v.escape flag⟩
  unsettled := by
    refine ⟨"&", fun heq => ?_⟩
    have hplain := (Entity.escape_escape_iff "&").mp heq '&' (by decide)
    cases hplain
  marker := UnaryOp.isUndefined_trustIfEscaping
  named flag name := by
    cases flag <;> rfl
  sent := Render.trustIfEscaping_bind_emit
  chunk {config v} h := by
    cases v with
    | undefined name =>
      rcases h with hdefined | hpolicy
      · cases hdefined
      · rw [Render.emitText_undefined, hpolicy]
        rfl
    | _ => exact Render.emitText_of_defined rfl
  refused hpolicy name := by
    rw [Render.emitText_undefined, hpolicy]
  flagless config v s flag := by
    rw [Render.trustIfEscaping_bind_emit]
    exact Render.emitText_setAutoescape config v s flag
  code := Stmt.exec_emit_trusted

end Templating
