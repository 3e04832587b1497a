import Templating.Markup.Entity

/-!
# Markup: text that is not escaped again

A piece of markup is a text that somebody vouches for.  Markup joins markup as
it stands; a plain text is escaped on the way in, so joining never makes markup
out of text that nobody vouched for.
-/
namespace Templating

/-- Text that output takes as it is. -/
structure Markup where
  /-- The text itself. -/
  text : String
  deriving DecidableEq, Repr

namespace Markup

/-- The markup with no text. -/
def empty : Markup := ⟨""⟩

instance : Inhabited Markup := ⟨empty⟩

/-- Plain text made into markup. -/
def escape (text : String) : Markup := ⟨Entity.escape text⟩

/-- Whether there is no text. -/
def isEmpty (m : Markup) : Bool := m.text.isEmpty

/-- The length in bytes. -/
def byteLength (m : Markup) : Nat := m.text.utf8ByteSize

/-- Join markup at the end. -/
def append (m other : Markup) : Markup := ⟨m.text ++ other.text⟩

instance : Append Markup := ⟨append⟩

/-- Join plain text at the end, escaping it. -/
def appendText (m : Markup) (text : String) : Markup := m ++ escape text

@[simp] theorem text_append (m other : Markup) : (m ++ other).text = m.text ++ other.text := rfl

@[simp] theorem text_escape (text : String) : (escape text).text = Entity.escape text := rfl

end Markup
end Templating
