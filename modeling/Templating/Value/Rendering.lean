import Templating.Decimal.Notation
import Templating.Value.Basic

/-!
# The texts of a value

A value has one text.  The text comes with a mark that tells whether it is safe
already: markup is, the output of an imported template is, a host object
decides for itself, and nothing else is.  Escaping, trusting and writing out
are all defined from the marked text, so that they cannot disagree on which
texts are safe.
-/
namespace Templating

/-- A text and whether it must not be escaped again. -/
structure RenderedText where
  text : String
  isSafe : Bool
  deriving DecidableEq, Repr

namespace Value

mutual

/-- The text of a value, without any escaping. -/
def toText : Value → String
  | undefined _ => ""
  | null => ""
  | bool b => if b then "true" else "false"
  | int i => toString i
  | float x => Decimal.render Decimal.Notation.output x
  | text s => s
  | markup m => m.text
  | list items => "[" ++ ", ".intercalate (toTexts items) ++ "]"
  | map _ => "[object]"
  | loop _ context =>
    "<loop " ++ toString context.index ++ "/" ++ toString context.length ++ ">"
  | module _ _ body => body
  | object _ _ shown _ _ => shown

/-- The texts of several values. -/
def toTexts : List Value → List String
  | [] => []
  | item :: rest => toText item :: toTexts rest

end

/-- The text of a value and whether it is safe. -/
def rendered : Value → RenderedText
  | markup m => ⟨m.text, true⟩
  | module _ _ body => ⟨body, true⟩
  | object _ _ shown isSafe _ => ⟨shown, isSafe⟩
  | other => ⟨other.toText, false⟩

/-- The value as markup: a safe text as it is, any other escaped. -/
def escape (v : Value) : Markup :=
  if v.rendered.isSafe then ⟨v.rendered.text⟩ else Markup.escape v.rendered.text

/-- The value's text, vouched for. -/
def trust (v : Value) : Markup :=
  ⟨v.rendered.text⟩

/-- The text to write out, escaped if escaping is on and the text is not safe. -/
def finalize (v : Value) (autoescape : Bool) : String :=
  if autoescape && !v.rendered.isSafe then Entity.escape v.rendered.text else v.rendered.text

/-- The marked text is the text. -/
@[simp] theorem text_rendered (v : Value) : v.rendered.text = v.toText := by
  cases v <;> rfl

/-- Trusted text is written out as it is. -/
@[simp] theorem finalize_markup (m : Markup) (autoescape : Bool) :
    (markup m).finalize autoescape = m.text := by
  simp [finalize, rendered]

/-- With escaping off, a value is written out as its text. -/
@[simp] theorem finalize_false (v : Value) : v.finalize false = v.toText := by
  simp [finalize]

end Value
end Templating
