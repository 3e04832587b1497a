import Templating.Loop.Iteration
import Templating.Value.Equality

/-!
# Template code

A compiled template is data: expressions that yield values, statements that act
on a render, and bodies, which are lists of statements.  Keeping code as data
lets the block registry hold bodies and lets facts about all templates be
proved by induction on their code.

Expressions whose operands are values already are gathered in two families of
operators, each with one function that says what the operator does.
-/
namespace Templating

/-- An operation on one value. -/
inductive UnaryOp where
  | attr (name : String)
  /-- Trust the value's text where escaping is on; an undefined marker stays
  what it is. -/
  | trustIfEscaping
  | trust
  | escape
  | finalize (autoescape : Bool)
  | isTruthy
  | isFalsy
  | isUndefined
  | toText
  | typeName
  /-- The text and whether it is safe, as a list of two. -/
  | rendered
  /-- The list of elements, nothing if the value cannot be iterated. -/
  | sequence

namespace UnaryOp

/-- What an operation makes of a value.  Whether escaping is on matters to one
of them only. -/
def apply (op : UnaryOp) (autoescape : Bool) (v : Value) : Value :=
  match op with
  | attr name => v.attr name
  | trustIfEscaping => if autoescape && !v.isUndefined then .markup v.trust else v
  | trust => .markup v.trust
  | escape => .markup v.escape
  | finalize flag => .text (v.finalize flag)
  | isTruthy => .bool v.isTruthy
  | isFalsy => .bool !v.isTruthy
  | isUndefined => .bool v.isUndefined
  | toText => .text v.toText
  | typeName => .text v.typeName
  | rendered => .list [.text v.rendered.text, .bool v.rendered.isSafe]
  | sequence => .ofOption (v.sequence?.map Value.list)

end UnaryOp

/-- An operation on two values. -/
inductive BinaryOp where
  | item
  | equals
  /-- Whether two loops stand at the same positions, nothing if one of the
  values is no loop. -/
  | samePositions

namespace BinaryOp

/-- What an operation makes of two values. -/
def apply (op : BinaryOp) (v w : Value) : Value :=
  match op with
  | item => v.item w
  | equals => .bool (v.equals w)
  | samePositions =>
    match v, w with
    | .loop _ c, .loop _ d => .bool (c.samePositions d)
    | _, _ => .null

end BinaryOp

/-- An expression. -/
inductive Expr where
  | var (name : String)
  /-- A value written in the code; each evaluation makes new instances of the
  loops and objects in it. -/
  | literal (v : Value)
  | unary (op : UnaryOp) (operand : Expr)
  | binary (op : BinaryOp) (first second : Expr)
  | call (receiver : Expr) (method : String) (arguments : List Expr)
  | filter (name : String) (operand : Expr) (arguments : List Expr)
  | test (name : String) (operand : Expr) (arguments : List Expr)
  | list (items : List Expr)
  /-- Render another template and yield it as a module. -/
  | importTemplate (name : String)

/-- A statement.  Bodies are lists of statements. -/
inductive Stmt where
  /-- Write text as it is. -/
  | write (text : String)
  /-- Write a value, escaped where escaping is on. -/
  | emit (value : Expr)
  | assign (name : String) (value : Expr)
  | assignBinding (binding : Binding) (value : Expr)
  /-- Record a variable for importers, whatever the frame. -/
  | exportVar (name : String) (value : Expr)
  /-- Run a body whose bindings end with it. -/
  | frame (body : List Stmt)
  /-- Run a body with escaping on or off. -/
  | escaping (enabled : Bool) (body : List Stmt)
  /-- Turn escaping on or off from here on. -/
  | setEscaping (enabled : Bool)
  | choose (condition : Expr) (yes no : List Stmt)
  /-- Loop over a value; tell afterwards, if a name is given, whether there was
  an element. -/
  | forEach (iterable : Expr) (binding : Binding) (body : List Stmt) (visited : Option String)
  /-- Loop over a value, or run the other body if there is no element. -/
  | forElse (iterable : Expr) (binding : Binding) (body otherwise : List Stmt)
  /-- End the bodies up to the nearest loop, and that loop too. -/
  | breakLoop
  /-- End the bodies up to the nearest loop. -/
  | continueLoop
  /-- Run the definition of a block. -/
  | block (name : String) (levelsUp : Nat)
  /-- Run the definition of a block at a negative level. -/
  | blockLevel (name : String) (level : Int)
  /-- Run the definition that the running one overrides. -/
  | superBlock
  | extendTemplate (name : String)
  | includeTemplate (name : String) (ignoreMissing : Bool)
  | includeFirstOf (names : List String) (ignoreMissing : Bool)
  | importAs (name target : String)
  | fromImport (name : String) (items : List (String × String))
  /-- Run a body, put what it writes through a filter and write the result. -/
  | filterBlock (filter : String) (arguments : List Expr) (body : List Stmt)
  /-- Add a definition of a block. -/
  | registerBlock (name : String) (body : List Stmt)
  /-- Add the block definitions of another template. -/
  | registerTemplate (name : String)
  /-- Note a value. -/
  | log (value : Expr)
  /-- Note the context of the loop around this statement. -/
  | context
  /-- Note what can be seen here. -/
  | probe
  /-- Note the summary of the state. -/
  | summarize
  /-- Run a body and note its error, if it ends with one. -/
  | attempt (body : List Stmt)

/-- Code that is run as a whole: a root, a setup, a block definition. -/
abbrev Body := List Stmt

/-- How a body ended that did not fail. -/
inductive Flow where
  | next
  | breakLoop
  | continueLoop
  deriving DecidableEq, Repr

/-- What the end of its body means to a loop. -/
def Flow.toLoopStep : Flow → LoopStep
  | next => .goOn
  | breakLoop => .stop
  | continueLoop => .goOn

end Templating
