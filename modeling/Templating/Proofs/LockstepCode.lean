import Templating.Proofs.LockstepOperations

/-!
# Code in lockstep

The induction over template code that all facts about runs share.  It is on the
code at hand, with one case for each kind of expression and of statement, and
outside of that on the depth to which bodies may run others
(`Pairing.Sound.runs`): a body found at run time is of the vocabulary because
the pairing says so of the registry and of the templates that are fetched.

Expressions ask for less than statements do (`Pairing.Evaluates`): all they do
to a state is to number new instances and to import.
-/
namespace Templating
namespace Pairing

/-- What expressions do to a state does to a pairing what it should. -/
structure Evaluates (P : Pairing) (V : Vocabulary) (config : Config) (invoke : Invoke) : Prop where
  autoescape : ∀ {a b}, P.Rel a b → a.session.autoescape = b.session.autoescape
  lookup : ∀ name, P.Alike (Render.lookup name) (Render.lookup name) V.value
  instantiate : ∀ {v}, V.expr (.literal v) →
    P.Alike (Render.instantiate v) (Render.instantiate v) V.value
  importTemplate : ∀ name, P.Alike (Render.importTemplate config invoke name)
    (Render.importTemplate config invoke name) V.value

variable {P : Pairing} {V : Vocabulary} {config : Config} {invoke : Invoke}

mutual

theorem Evaluates.eval (h : P.Evaluates V config invoke) (hV : V.Closed config) :
    ∀ {x : Expr}, x.Every V.expr →
      P.Alike (x.eval config invoke) (x.eval config invoke) V.value
  | .var name, _ => h.lookup name
  | .literal _, hx => h.instantiate hx
  | .unary _ _, hx =>
    (h.eval hV hx.2).bind fun _ hv => alike_read_bind fun a b hab => by
      rw [h.autoescape hab]
      exact alike_pure (hV.unary hx.1 hv _)
  | .binary _ _ _, hx =>
    (h.eval hV hx.2.1).bind fun _ hv => (h.eval hV hx.2.2).bind fun _ hw =>
      alike_pure (hV.binary hv hw)
  | .call _ _ _, hx =>
    (h.eval hV hx.2.1).bind fun _ hv => (h.evalAll hV hx.2.2).bind fun _ hargs =>
      alike_ofExcept fun _ hw => hV.call hv hargs hw
  | .filter _ _ _, hx =>
    (h.eval hV hx.2.1).bind fun _ hv => (h.evalAll hV hx.2.2).bind fun _ hargs =>
      alike_ofExcept fun _ hw => hV.filter hv hargs hw
  | .test _ _ _, hx =>
    (h.eval hV hx.2.1).bind fun _ _ => (h.evalAll hV hx.2.2).bind fun _ _ =>
      (alike_ofExcept (Q := fun _ => True) fun _ _ => trivial).bind fun _ _ =>
        alike_pure (hV.bool _)
  | .list _, hx => (h.evalAll hV hx.2).bind fun _ hvs => alike_pure (hV.list hvs)
  | .importTemplate name, _ => h.importTemplate name

theorem Evaluates.evalAll (h : P.Evaluates V config invoke) (hV : V.Closed config) :
    ∀ {xs : List Expr}, Expr.EveryOf V.expr xs →
      P.Alike (Expr.evalAll config invoke xs) (Expr.evalAll config invoke xs)
        fun values => ∀ v ∈ values, V.value v
  | [], _ => alike_pure fun _ hv => by cases hv
  | _ :: _, hxs =>
    (h.eval hV hxs.1).bind fun v hv => (h.evalAll hV hxs.2).bind fun values hvalues =>
      alike_pure fun w hw => by
        rcases List.mem_cons.mp hw with rfl | hw
        · exact hv
        · exact hvalues w hw

end

namespace Sound

theorem evaluates (h : P.Sound V config) (hV : V.Closed config) (hinvoke : Runs P V invoke) :
    P.Evaluates V config invoke where
  autoescape hab := (h.looks hab).autoescape
  lookup := h.lookup
  instantiate := h.instantiate hV
  importTemplate := h.importTemplate hinvoke hV

/-- What statements and bodies have to be under a pairing. -/
abbrev RunsAlike (P : Pairing) (m : Render Flow) : Prop := P.Alike m m fun _ => True

theorem simply {m : Render Unit} (hm : P.Alike m m fun _ => True) :
    RunsAlike P (Templating.simply m) :=
  hm.bind fun _ _ => alike_pure trivial

theorem asWhole {m : Render Flow} (hm : RunsAlike P m) :
    P.Alike (Templating.asWhole m) (Templating.asWhole m) fun _ => True :=
  hm.bind fun _ _ => alike_pure trivial

theorem asIteration {m : Render Flow} (hm : RunsAlike P m) :
    P.Alike (Templating.asIteration m) (Templating.asIteration m) fun _ => True :=
  hm.bind fun _ _ => alike_pure trivial

mutual

theorem exec (h : P.Sound V config) (hV : V.Closed config) (hinvoke : Runs P V invoke) :
    ∀ {c : Stmt}, c.Every V.stmt V.expr → ∀ loop : Option LoopContext,
      RunsAlike P (c.exec config invoke loop)
  | .write _, hc, _ => simply (h.write (hV.write hc))
  | .emit _, hc, _ => simply (((h.evaluates hV hinvoke).eval hV hc.2).bind fun _ hv => h.emit hv)
  | .assign name _, hc, _ =>
    simply (((h.evaluates hV hinvoke).eval hV hc.2).bind fun _ hv => h.assignValue hv name)
  | .assignBinding binding _, hc, _ =>
    simply (((h.evaluates hV hinvoke).eval hV hc.2).bind fun _ hv => h.assignBinding hV hv binding)
  | .exportVar name _, hc, _ =>
    simply (((h.evaluates hV hinvoke).eval hV hc.2).bind fun _ hv => h.exportValue hv name)
  | .frame _, hc, loop => h.withFrame (h.execAll hV hinvoke hc.2 loop)
  | .escaping _ _, hc, loop => h.withAutoescape hc.1 (h.execAll hV hinvoke hc.2 loop)
  | .setEscaping _, hc, _ => simply (h.switchEscaping hc)
  | .choose _ _ _, hc, loop =>
    ((h.evaluates hV hinvoke).eval hV hc.2.1).bind fun v _ => by
      cases v.isTruthy with
      | true => exact h.execAll hV hinvoke hc.2.2.1 loop
      | false => exact h.execAll hV hinvoke hc.2.2.2 loop
  | .forEach _ binding _ visited, hc, _ =>
    simply (((h.evaluates hV hinvoke).eval hV hc.2.1).bind fun _ hv =>
      (h.forLoop hV hv binding fun context =>
        asIteration (h.execAll hV hinvoke hc.2.2 (some context))).bind fun _ _ => by
          cases visited with
          | some name => exact h.assignValue (hV.bool _) name
          | none => exact alike_pure trivial)
  | .forElse _ binding _ _, hc, _ =>
    simply (((h.evaluates hV hinvoke).eval hV hc.2.1).bind fun _ hv =>
      h.forLoopElse hV hv binding
        (fun context => asIteration (h.execAll hV hinvoke hc.2.2.1 (some context)))
        (asWhole (h.execAll hV hinvoke hc.2.2.2 none)))
  | .breakLoop, _, _ => alike_pure trivial
  | .continueLoop, _, _ => alike_pure trivial
  | .block name levelsUp, _, _ => simply (h.evaluateBlock hinvoke name levelsUp)
  | .blockLevel name level, _, _ => simply (h.evaluateBlockLevel hinvoke name level)
  | .superBlock, _, _ => simply (h.superBlock hinvoke)
  | .extendTemplate name, _, _ => simply (h.extendTemplate hinvoke name)
  | .includeTemplate name ignoreMissing, _, _ =>
    simply (h.includeTemplate hinvoke name ignoreMissing)
  | .includeFirstOf names ignoreMissing, _, _ =>
    simply (h.includeFirstOf hinvoke names ignoreMissing)
  | .importAs name target, _, _ =>
    simply ((h.importTemplate hinvoke hV name).bind fun _ hv => h.assignValue hv target)
  | .fromImport name items, _, _ => simply (h.fromImport hinvoke hV name items)
  | .filterBlock _ _ _, hc, _ =>
    simply (((h.evaluates hV hinvoke).evalAll hV hc.2.1).bind fun _ hargs =>
      h.filterBlock hV hc.1 hargs (asWhole (h.execAll hV hinvoke hc.2.2 none)))
  | .registerBlock name _, hc, _ => simply (h.registerBlock name hc.2)
  | .registerTemplate name, _, _ =>
    simply ((h.fetch name).bind fun _ ht => h.registerBlocks ht)
  | .log _, hc, _ => simply (((h.evaluates hV hinvoke).eval hV hc.2).bind fun _ _ => h.log rfl)
  | .context, _, _ => simply (h.log rfl)
  | .probe, _, _ => simply (h.noteOf (e := fun s => .probed s.probe) fun _ => rfl)
  | .summarize, _, _ => simply (h.noteOf (e := fun s => .summarized s.summary) fun _ => rfl)
  | .attempt _, hc, loop =>
    (h.execAll hV hinvoke hc.2 loop).attempt.bind fun r _ => by
      cases r with
      | ok flow => exact alike_pure trivial
      | error error => exact (h.log rfl).bind fun _ _ => alike_pure trivial

theorem execAll (h : P.Sound V config) (hV : V.Closed config) (hinvoke : Runs P V invoke) :
    ∀ {body : List Stmt}, Stmt.EveryOf V.stmt V.expr body → ∀ loop : Option LoopContext,
      RunsAlike P (Stmt.execAll config invoke loop body)
  | [], _, _ => alike_pure trivial
  | _ :: _, hbody, loop =>
    (h.exec hV hinvoke hbody.1 loop).bind fun flow _ => by
      cases flow with
      | next => exact h.execAll hV hinvoke hbody.2 loop
      | breakLoop | continueLoop => exact alike_pure trivial

end

/-- Code of the vocabulary runs alike, to whatever depth. -/
theorem runs (h : P.Sound V config) (hV : V.Closed config) :
    ∀ depth, Runs P V (Templating.invoke config depth)
  | 0, _, _ => alike_unfinished
  | depth + 1, _, hbody => asWhole (h.execAll hV (h.runs hV depth) hbody none)

end Sound
end Pairing
end Templating
