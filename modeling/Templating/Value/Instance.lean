import Templating.Value.Basic

/-!
# New instances

A literal in template code stands for new loops and new host objects each time
it is evaluated.  Renewing a value numbers every instance inside it afresh,
from a counter that only grows, and leaves all else as it is.
-/
namespace Templating

namespace LoopContext

/-- Number the surrounding loops afresh, beginning at `next`. -/
def renumber (next : InstanceId) : List (InstanceId × LoopPosition) →
    List (InstanceId × LoopPosition)
  | [] => []
  | (_, position) :: rest => (next, position) :: renumber (next + 1) rest

/-- The context with new instances of the surrounding loops. -/
def renew (c : LoopContext) (next : InstanceId) : LoopContext :=
  ⟨c.position, renumber next c.enclosing⟩

end LoopContext

namespace Value

mutual

/-- The value with new instances, numbered from `next`, and the first number
not used. -/
def renew : Value → InstanceId → Value × InstanceId
  | list items, next =>
    let (items, next) := renewItems items next
    (list items, next)
  | map ⟨names, hnames, entries⟩, next =>
    let (entries, next) := renewEntries entries next
    (map ⟨names, hnames, entries⟩, next)
  | loop _ context, next =>
    (loop next (context.renew (next + 1)), next + 1 + context.enclosing.length)
  | module name ⟨names, hnames, exports⟩ body, next =>
    let (exports, next) := renewEntries exports next
    (module name ⟨names, hnames, exports⟩ body, next)
  | object _ typeName shown isSafe ⟨names, hnames, attributes⟩, next =>
    let (attributes, after) := renewEntries attributes (next + 1)
    (object next typeName shown isSafe ⟨names, hnames, attributes⟩, after)
  | other, next => (other, next)

/-- The items with new instances. -/
def renewItems : List Value → InstanceId → List Value × InstanceId
  | [], next => ([], next)
  | item :: rest, next =>
    let (item, next) := renew item next
    let (rest, next) := renewItems rest next
    (item :: rest, next)

/-- The entries with new instances. -/
def renewEntries : {names : List String} → Table.Row Value names → InstanceId →
    Table.Row Value names × InstanceId
  | [], .nil, next => (.nil, next)
  | _ :: _, .cons v rest, next =>
    let (v, next) := renew v next
    let (rest, next) := renewEntries rest next
    (.cons v rest, next)

end

end Value
end Templating
