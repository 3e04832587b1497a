import Templating.Loop.Context
import Templating.Markup
import Templating.Table

/-!
# Values

Everything template code moves around is a value.  A lookup that finds nothing
yields the undefined marker, which remembers the name that was looked up and
differs from every real value.

Loops and host objects are instances: two of them are the same only if they
carry the same number, whatever they contain.  All other values are what they
contain.
-/
namespace Templating

/-- A value of the template language. -/
inductive Value where
  /-- The marker of a name that nothing binds. -/
  | undefined (name : String)
  /-- The explicit absence of a value. -/
  | null
  | bool (b : Bool)
  /-- A whole number. -/
  | int (i : Int)
  /-- A floating point number of double precision. -/
  | float (x : Float)
  /-- Plain text, escaped on output where escaping is on. -/
  | text (s : String)
  /-- Text that output takes as it is. -/
  | markup (m : Markup)
  /-- An ordered sequence. -/
  | list (items : List Value)
  /-- Values by key, in insertion order. -/
  | map (entries : Table Value)
  /-- One instance of a loop's context. -/
  | loop (id : InstanceId) (context : LoopContext)
  /-- An imported template: its exported variables and the output it produced. -/
  | module (name : String) (exports : Table Value) (body : String)
  /-- An object of the host program: its own text, whether that text is safe,
  and the attributes it answers. -/
  | object (id : InstanceId) (typeName text : String) (isSafe : Bool) (attributes : Table Value)

namespace Value

instance : Inhabited Value := ⟨null⟩

/-- The greatest whole number a value can hold, the greatest of sixty-four bits
with a sign. -/
def maxInt : Nat := 9223372036854775807

/-- A size as a value; one too great to hold becomes the greatest number that
can be held. -/
def ofSize (n : Nat) : Value := int (min n maxInt)

/-- A value that may be missing. -/
def ofOption (v : Option Value) : Value := v.getD null

/-- A list of texts. -/
def ofTexts (items : List String) : Value := list (items.map text)

/-- Whether this is the undefined marker. -/
def isUndefined : Value → Bool
  | undefined _ => true
  | _ => false

/-- Truth in conditions: what is empty, zero or absent is false. -/
def isTruthy : Value → Bool
  | undefined _ => false
  | null => false
  | bool b => b
  | int i => i != 0
  | float x => x != 0.0
  | text s => !s.isEmpty
  | markup m => !m.isEmpty
  | list items => !items.isEmpty
  | map entries => entries.size != 0
  | loop .. => true
  | module .. => true
  | object .. => true

/-- The short name of a value's type, used in error messages. -/
def typeName : Value → String
  | undefined _ => "undefined"
  | null => "none"
  | bool _ => "bool"
  | int _ => "int"
  | float _ => "float"
  | text _ => "string"
  | markup _ => "markup"
  | list _ => "list"
  | map _ => "map"
  | loop .. => "loop"
  | module .. => "module"
  | object _ typeName .. => typeName

end Value
end Templating
