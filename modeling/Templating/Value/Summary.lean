import Templating.Decimal.Notation
import Templating.Text.Summary
import Templating.Value.Basic

/-!
# Summaries of values

The one-line form in which diagnostics show a value: the kind of the value
wraps what it contains.
-/
namespace Templating

namespace LoopContext

/-- The summary of a position and of the positions around it. -/
def summarize : List LoopPosition → String
  | [] => "None"
  | position :: rest =>
    let parent :=
      match rest with
      | [] => Summary.option none
      | _ :: _ => Summary.option (some (summarize rest))
    Summary.record "LoopContext"
      [("index0", toString position.index0), ("length", toString position.length),
        ("parent", parent)]

/-- The summary of a context. -/
def summary (c : LoopContext) : String := summarize c.positions

end LoopContext

namespace Value

mutual

/-- The summary of a value. -/
def summary : Value → String
  | undefined name =>
    Summary.wrapped "Undefined" (Summary.record "Undefined" [("name", Text.quoted name)])
  | null => "None"
  | bool b => Summary.wrapped "Bool" (Summary.bool b)
  | int i => Summary.wrapped "Int" (toString i)
  | float x => Summary.wrapped "Float" (Decimal.render Decimal.Notation.summary x)
  | text s => Summary.wrapped "String" (Text.quoted s)
  | markup m => Summary.wrapped "Markup" (Summary.wrapped "Markup" (Text.quoted m.text))
  | list items => Summary.wrapped "List" (Summary.list (summaries items))
  | map ⟨_, _, entries⟩ => Summary.wrapped "Map" (Summary.table (entrySummaries entries))
  | loop _ context => Summary.wrapped "Loop" context.summary
  | module name ⟨_, _, exports⟩ body =>
    Summary.wrapped "Module" (Summary.record "Module"
      [("name", Text.quoted name), ("exports", Summary.table (entrySummaries exports)),
        ("body", Text.quoted body)])
  | object _ typeName shown isSafe ⟨_, _, attributes⟩ =>
    Summary.wrapped "Object" (Summary.record "Object"
      [("type_name", Text.quoted typeName), ("text", Text.quoted shown),
        ("safe", Summary.bool isSafe), ("attrs", Summary.table (entrySummaries attributes))])

/-- The summaries of several values. -/
def summaries : List Value → List String
  | [] => []
  | item :: rest => summary item :: summaries rest

/-- The entries of a table with their summaries. -/
def entrySummaries : {names : List String} → Table.Row Value names → List (String × String)
  | [], .nil => []
  | key :: _, .cons v rest => (key, summary v) :: entrySummaries rest

end

end Value
end Templating
