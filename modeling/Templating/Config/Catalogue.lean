import Templating.Config.Basic

/-!
# A catalogue of filters, tests and joining rules

Each entry is known by the word under which a configuration may ask for it.
-/
namespace Templating

/-- The kinds of filters. -/
inductive FilterKind where
  | identity
  | upper
  | upperMarkup
  | repeated
  | arguments
  | fail
  | undefined
  | null
  | typeName
  | escape
  | trust
  | default

namespace FilterKind

/-- The kind that a word asks for. -/
def ofWord? (word : String) : Option FilterKind :=
  match word with
  | "identity" => some identity
  | "upper" => some upper
  | "upper_markup" => some upperMarkup
  | "repeat" => some repeated
  | "args" => some arguments
  | "fail" => some fail
  | "undef" => some undefined
  | "none" => some null
  | "type" => some typeName
  | "escape" => some escape
  | "safe" => some trust
  | "default" => some default
  | _ => none

/-- The text with its ASCII letters in upper case. -/
def upperCase (text : String) : String :=
  String.ofList (text.toList.map Char.toUpper)

/-- The text written out several times.  The empty text is set apart because
it stays empty however large the count is. -/
def repeatText (count : Nat) (text : String) : String :=
  if text.isEmpty then "" else String.join (List.replicate count text)

/-- What a filter of this kind does. -/
def filter (kind : FilterKind) : Filter := fun v given =>
  match kind with
  | identity => .ok v
  | upper => .ok (.text (upperCase v.toText))
  | upperMarkup => .ok (.markup ⟨upperCase v.toText⟩)
  | repeated =>
    match given with
    | .int count :: _ =>
      if count < 0 then .error (.filter "repeat" "count must not be negative")
      else .ok (.text (repeatText count.toNat v.toText))
    | _ => .error (.filter "repeat" "expected a count")
  | arguments => .ok (.list (v :: given))
  | fail =>
    match given with
    | reason :: _ => .error (.filter "fail" reason.toText)
    | [] => .error (.filter "fail" "no reason")
  | undefined => .ok (.undefined "from_filter")
  | null => .ok .null
  | typeName => .ok (.text v.typeName)
  | escape => .ok (.markup v.escape)
  | trust => .ok (.markup v.trust)
  | default => .ok (if v.isUndefined then given.head?.getD (.text "") else v)

end FilterKind

/-- The kinds of tests. -/
inductive TestKind where
  | defined
  | truthy
  | even
  | equal
  | fail

namespace TestKind

/-- The kind that a word asks for. -/
def ofWord? (word : String) : Option TestKind :=
  match word with
  | "defined" => some defined
  | "truthy" => some truthy
  | "even" => some even
  | "eq" => some equal
  | "fail" => some fail
  | _ => none

/-- What a test of this kind does. -/
def test (kind : TestKind) : Test := fun v given =>
  match kind with
  | defined => .ok !v.isUndefined
  | truthy => .ok v.isTruthy
  | even =>
    match v with
    | .int i => .ok (i % 2 == 0)
    | _ => .ok false
  | equal =>
    match given with
    | other :: _ => .ok (v.equals other)
    | [] => .ok false
  | fail => .error (.filter "fail" "test failed")

end TestKind

namespace PathJoiner

/-- The part of a name before its last slash, if it has one. -/
def directory? (name : String) : Option String :=
  let upToSlash := name.toList.reverse.dropWhile (· != '/')
  match upToSlash with
  | [] => none
  | _ :: before => some (String.ofList before.reverse)

/-- References are relative to the directory of the template they stand in. -/
def directory : PathJoiner := fun name origin =>
  match origin.bind directory? with
  | some directory => directory ++ "/" ++ name
  | none => name

/-- References tell where they stand. -/
def tagged : PathJoiner := fun name origin =>
  origin.getD "-" ++ ">" ++ name

/-- The joining rule that a word asks for. -/
def ofWord? (word : String) : Option PathJoiner :=
  match word with
  | "dir" => some directory
  | "tag" => some tagged
  | _ => none

end PathJoiner
end Templating
