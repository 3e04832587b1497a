import Templating.Render.Evaluate

/-!
# What may occur in a run

Many facts about runs hold of some template code only, and of the values and
texts that such code comes across.  A `Vocabulary` says which values, which
chunks of text, which expressions and which statements may occur.  Code is of
the vocabulary if each of its statements and expressions is, however deep it
stands (`Vocabulary.Code`); nothing is asked of the code that a name stands for
at run time, since that code comes from the registry or from a loader.

A vocabulary is **closed** (`Vocabulary.Closed`) if its code makes values of the
vocabulary from values of the vocabulary.  These are the facts about values
that an argument over all runs needs, and the only ones.
-/
namespace Templating

mutual

/-- Whether something holds of an expression and of all expressions in it. -/
def Expr.Every (p : Expr → Prop) : Expr → Prop
  | .var name => p (.var name)
  | .literal v => p (.literal v)
  | .unary op operand => p (.unary op operand) ∧ Expr.Every p operand
  | .binary op first second =>
    p (.binary op first second) ∧ Expr.Every p first ∧ Expr.Every p second
  | .call receiver method arguments =>
    p (.call receiver method arguments) ∧ Expr.Every p receiver ∧ Expr.EveryOf p arguments
  | .filter name operand arguments =>
    p (.filter name operand arguments) ∧ Expr.Every p operand ∧ Expr.EveryOf p arguments
  | .test name operand arguments =>
    p (.test name operand arguments) ∧ Expr.Every p operand ∧ Expr.EveryOf p arguments
  | .list items => p (.list items) ∧ Expr.EveryOf p items
  | .importTemplate name => p (.importTemplate name)

/-- Whether something holds of several expressions and of all expressions in
them. -/
def Expr.EveryOf (p : Expr → Prop) : List Expr → Prop
  | [] => True
  | x :: rest => Expr.Every p x ∧ Expr.EveryOf p rest

end

mutual

/-- Whether something holds of a statement and of all statements in it, and
something else of all expressions in it. -/
def Stmt.Every (p : Stmt → Prop) (q : Expr → Prop) : Stmt → Prop
  | .write text => p (.write text)
  | .emit x => p (.emit x) ∧ x.Every q
  | .assign name x => p (.assign name x) ∧ x.Every q
  | .assignBinding binding x => p (.assignBinding binding x) ∧ x.Every q
  | .exportVar name x => p (.exportVar name x) ∧ x.Every q
  | .frame body => p (.frame body) ∧ Stmt.EveryOf p q body
  | .escaping enabled body => p (.escaping enabled body) ∧ Stmt.EveryOf p q body
  | .setEscaping enabled => p (.setEscaping enabled)
  | .choose condition yes no =>
    p (.choose condition yes no) ∧ condition.Every q ∧ Stmt.EveryOf p q yes ∧ Stmt.EveryOf p q no
  | .forEach iterable binding body visited =>
    p (.forEach iterable binding body visited) ∧ iterable.Every q ∧ Stmt.EveryOf p q body
  | .forElse iterable binding body otherwise =>
    p (.forElse iterable binding body otherwise) ∧ iterable.Every q ∧
      Stmt.EveryOf p q body ∧ Stmt.EveryOf p q otherwise
  | .breakLoop => p .breakLoop
  | .continueLoop => p .continueLoop
  | .block name levelsUp => p (.block name levelsUp)
  | .blockLevel name level => p (.blockLevel name level)
  | .superBlock => p .superBlock
  | .extendTemplate name => p (.extendTemplate name)
  | .includeTemplate name ignoreMissing => p (.includeTemplate name ignoreMissing)
  | .includeFirstOf names ignoreMissing => p (.includeFirstOf names ignoreMissing)
  | .importAs name target => p (.importAs name target)
  | .fromImport name items => p (.fromImport name items)
  | .filterBlock filter arguments body =>
    p (.filterBlock filter arguments body) ∧ Expr.EveryOf q arguments ∧ Stmt.EveryOf p q body
  | .registerBlock name body => p (.registerBlock name body) ∧ Stmt.EveryOf p q body
  | .registerTemplate name => p (.registerTemplate name)
  | .log x => p (.log x) ∧ x.Every q
  | .context => p .context
  | .probe => p .probe
  | .summarize => p .summarize
  | .attempt body => p (.attempt body) ∧ Stmt.EveryOf p q body

/-- Whether something holds of several statements and of all statements in them,
and something else of all expressions in them. -/
def Stmt.EveryOf (p : Stmt → Prop) (q : Expr → Prop) : List Stmt → Prop
  | [] => True
  | statement :: rest => Stmt.Every p q statement ∧ Stmt.EveryOf p q rest

end

/-- The values, chunks of text and code that may occur in a run. -/
structure Vocabulary where
  value : Value → Prop
  text : String → Prop
  expr : Expr → Prop
  stmt : Stmt → Prop

namespace Vocabulary

variable (V : Vocabulary)

/-- The code of a vocabulary. -/
def Code (body : Body) : Prop :=
  Stmt.EveryOf V.stmt V.expr body

/-- The templates of a vocabulary: all their code is. -/
structure Template (t : Templating.Template) : Prop where
  root : V.Code t.root
  setup : ∀ setup, t.setup = some setup → V.Code setup
  blocks : ∀ entry ∈ t.blocks.entries, V.Code entry.2

/-- A vocabulary whose code makes values of the vocabulary from values of the
vocabulary. -/
structure Closed (config : Config) : Prop where
  bool : ∀ b, V.value (.bool b)
  list : ∀ {items}, (∀ v ∈ items, V.value v) → V.value (.list items)
  /-- Contexts of loops are made by the loops themselves. -/
  loop : ∀ id context, V.value (.loop id context)
  /-- What a template has exported and written makes a module. -/
  module : ∀ {name exports body}, (∀ entry ∈ exports.entries, V.value entry.2) →
    V.text body → V.value (.module name exports body)
  literal : ∀ {v}, V.expr (.literal v) → ∀ next, V.value (v.renew next).1
  unary : ∀ {op operand v}, V.expr (.unary op operand) → V.value v →
    ∀ autoescape, V.value (op.apply autoescape v)
  binary : ∀ {op v w}, V.value v → V.value w → V.value (BinaryOp.apply op v w)
  attr : ∀ {v}, V.value v → ∀ name, V.value (v.attr name)
  call : ∀ {v method arguments w}, V.value v → (∀ a ∈ arguments, V.value a) →
    v.callMethod method arguments = .ok w → V.value w
  filter : ∀ {v name arguments w}, V.value v → (∀ a ∈ arguments, V.value a) →
    config.callFilter name v arguments = .ok w → V.value w
  /-- The elements a loop runs over. -/
  items : ∀ {v items}, V.value v → Iteration.itemsOf v = .ok items → ∀ w ∈ items, V.value w
  /-- The parts an element is taken apart into. -/
  parts : ∀ {v}, V.value v → ∀ binding : Binding, ∀ w ∈ (binding.unpack config.unpacking v).values,
    V.value w
  write : ∀ {text}, V.stmt (.write text) → V.text text
  /-- What is written after a captured text went through a filter. -/
  filterBlock : ∀ {filter operands body captured arguments w},
    V.stmt (.filterBlock filter operands body) → V.text captured → (∀ a ∈ arguments, V.value a) →
    config.callFilter filter (.markup ⟨captured⟩) arguments = .ok w → V.text w.toText

variable {V} {config : Config}

/-- The values that an element is taken apart into without an error. -/
theorem Closed.unpacked (hV : V.Closed config) {v : Value} (hv : V.value v) {binding : Binding}
    {values : List Value} (h : (binding.unpack config.unpacking v).toExcept = .ok values) :
    ∀ w ∈ values, V.value w := by
  intro w hw
  unfold Unpacked.toExcept at h
  split at h
  · cases h
  · cases h
    exact hV.parts hv binding w hw

end Vocabulary

/-! ## The vocabulary without bounds -/

mutual

theorem Expr.every_of_forall {p : Expr → Prop} (h : ∀ x, p x) : ∀ x : Expr, x.Every p
  | .var _ | .literal _ | .importTemplate _ => h _
  | .unary _ operand => ⟨h _, operand.every_of_forall h⟩
  | .binary _ first second => ⟨h _, first.every_of_forall h, second.every_of_forall h⟩
  | .call receiver _ arguments => ⟨h _, receiver.every_of_forall h, everyOf_of_forall h arguments⟩
  | .filter _ operand arguments => ⟨h _, operand.every_of_forall h, everyOf_of_forall h arguments⟩
  | .test _ operand arguments => ⟨h _, operand.every_of_forall h, everyOf_of_forall h arguments⟩
  | .list items => ⟨h _, everyOf_of_forall h items⟩

theorem Expr.everyOf_of_forall {p : Expr → Prop} (h : ∀ x, p x) :
    ∀ xs : List Expr, Expr.EveryOf p xs
  | [] => trivial
  | x :: rest => ⟨x.every_of_forall h, everyOf_of_forall h rest⟩

end

mutual

theorem Stmt.every_of_forall {p : Stmt → Prop} {q : Expr → Prop} (h : ∀ c, p c) (hq : ∀ x, q x) :
    ∀ c : Stmt, c.Every p q
  | .write _ | .setEscaping _ | .breakLoop | .continueLoop | .block .. | .blockLevel .. |
    .superBlock | .extendTemplate _ | .includeTemplate .. | .includeFirstOf .. | .importAs .. |
    .fromImport .. | .registerTemplate _ | .context | .probe | .summarize => h _
  | .emit x | .assign _ x | .assignBinding _ x | .exportVar _ x | .log x =>
    ⟨h _, x.every_of_forall hq⟩
  | .frame body | .escaping _ body | .registerBlock _ body | .attempt body =>
    ⟨h _, everyOf_of_forall h hq body⟩
  | .choose condition yes no =>
    ⟨h _, condition.every_of_forall hq, everyOf_of_forall h hq yes, everyOf_of_forall h hq no⟩
  | .forEach iterable _ body _ =>
    ⟨h _, iterable.every_of_forall hq, everyOf_of_forall h hq body⟩
  | .forElse iterable _ body otherwise =>
    ⟨h _, iterable.every_of_forall hq, everyOf_of_forall h hq body,
      everyOf_of_forall h hq otherwise⟩
  | .filterBlock _ arguments body =>
    ⟨h _, Expr.everyOf_of_forall hq arguments, everyOf_of_forall h hq body⟩

theorem Stmt.everyOf_of_forall {p : Stmt → Prop} {q : Expr → Prop} (h : ∀ c, p c)
    (hq : ∀ x, q x) : ∀ body : List Stmt, Stmt.EveryOf p q body
  | [] => trivial
  | c :: rest => ⟨c.every_of_forall h hq, everyOf_of_forall h hq rest⟩

end

/-- The vocabulary that has everything. -/
def Vocabulary.full : Vocabulary where
  value _ := True
  text _ := True
  expr _ := True
  stmt _ := True

namespace Vocabulary

theorem code_full (body : Body) : full.Code body :=
  Stmt.everyOf_of_forall (fun _ => trivial) (fun _ => trivial) body

theorem template_full (t : Templating.Template) : full.Template t :=
  ⟨code_full _, fun _ _ => code_full _, fun _ _ => code_full _⟩

theorem closed_full (config : Config) : full.Closed config := by
  constructor <;> intros <;> trivial

end Vocabulary
end Templating
