import Templating.Proofs.Echo

/-!
# Code that echoes

The induction on code for a run that echoes another one.  The second run finds the
definitions that the first one finds, wherever one is asked for
(`Moment.FindsAll`): if its session was used before, then what it finds at an
address is what was left there, and that has to be what the first run found.  The
condition is about the moments that the first run comes to in the sessions that
share its registry, and it is handed on from each of them to the next.

A template that is included or imported has a registry of its own on both sides,
in which both runs register the same; there is no condition on what goes on in
it.
-/
namespace Templating

/-- A definition that is asked for is found in both sessions. -/
def Reuse.Finds (reuse : Reuse) (blocks : BlockRegistry Body) (active : ActiveBlock) : Prop :=
  match reuse with
  | fresh => True
  | used left => ∃ body, blocks.resolve active.name active.levelsUp = .ok body ∧
    left.resolve active.name active.levelsUp = .ok body

/-- Whatever definition is asked for from here on is found in both sessions. -/
def Moment.FindsAll (config : Config) (reuse : Reuse) (m : Moment) : Prop :=
  ∀ m' active, Moment.Shares config m m' → m'.AsksFor active →
    reuse.Finds m'.state.blocks active

theorem Moment.FindsAll.next {config : Config} {reuse : Reuse} {m m' : Moment}
    (h : m.FindsAll config reuse) (hs : Moment.SharesNext config m m') :
    m'.FindsAll config reuse :=
  fun m'' active hlater => h m'' active (.head hs hlater)

theorem Moment.findsAll_fresh (config : Config) (m : Moment) : m.FindsAll config .fresh :=
  fun _ _ _ _ => trivial

/-- Below what was left there is only what is new, so what was left is found. -/
theorem State.EchoedBy.resolve {config : Config} {σ : Shift} {reuse : Reuse} {a b : State}
    (h : a.EchoedBy config σ reuse b) {active : ActiveBlock}
    (hfinds : reuse.Finds a.blocks active) :
    b.blocks.resolve active.name active.levelsUp =
      a.blocks.resolve active.name active.levelsUp := by
  have hsession := h.session
  cases reuse with
  | fresh => exact congrArg (·.resolve active.name active.levelsUp) hsession.2
  | used left =>
    obtain ⟨body, hbody, hleft⟩ := hfinds
    have hgrows : left.Grows b.blocks := by
      intro name
      rw [State.blocks, hsession name]
      exact List.suffix_append _ _
    rw [hbody, hgrows.resolve hleft]

namespace Echo

open Pairing

variable {config : Config} {σ : Shift} {reuse : Reuse} {depth : Nat}

/-- What is run at this depth echoes, wherever all is found. -/
def RunsEchoing (config : Config) (σ : Shift) (depth : Nat) : Prop :=
  ∀ (reuse : Reuse) (body : Body) (s : State),
    (∀ d, depth = d + 1 → Moment.FindsAll config reuse ⟨d, .code none body, s⟩) →
    EchoesAt config σ reuse id s (invoke config depth body) (invoke config depth body)

/-- An action as another template echoes if it does in the derived session. -/
theorem asTemplate {α β : Type} {f : α → β} {m : Render α} {n : Render β} {reuse' : Reuse}
    {name : String} {reach : Reach} {a : State}
    (he : ∀ a b, a.EchoedBy config σ reuse b →
      (a.enterDerived config name reach).EchoedBy config σ reuse'
        (b.enterDerived config name reach) ∧
      ∀ a' b', a'.EchoedBy config σ reuse' b' → (State.leaveTemplate reach a a').EchoedBy config σ
        reuse (State.leaveTemplate reach b b'))
    (h : EchoesAt config σ reuse' f ((a.logged (.notice (.derivingSession a.session.template name
      reach))).enterDerived config name reach) m n) :
    EchoesAt config σ reuse f a (Render.asTemplate config name reach m)
      (Render.asTemplate config name reach n) := by
  intro b hab
  have hnoted : (Pairing.echo config σ reuse).To a b
      (a.logged (.notice (.derivingSession a.session.template name reach)))
      (b.logged (.notice (.derivingSession b.session.template name reach))) :=
    hab.noted rfl rfl
  obtain ⟨hin, hleave⟩ := he _ _ hnoted.1
  obtain ⟨hout, hechoed, chunks, ha, hb⟩ := h _ hin
  exact ⟨hout, (Pairing.echo config σ reuse).trans hnoted
    ⟨hleave _ _ hechoed, chunks, ha, hb⟩⟩

/-- A template that is extended works with the same two registries. -/
theorem extending (name : String) (a b : State) (hab : a.EchoedBy config σ reuse b) :
    (a.enterDerived config name .extending).EchoedBy config σ reuse
        (b.enterDerived config name .extending) ∧
      ∀ a' b', a'.EchoedBy config σ reuse b' →
        (State.leaveTemplate .extending a a').EchoedBy config σ reuse
          (State.leaveTemplate .extending b b') := by
  have hsession := hab.session
  constructor
  · refine { hab with
      frames := rfl, block := rfl, template := rfl, autoescape := rfl, session := ?_ }
    cases reuse with
    | fresh => exact ⟨rfl, hsession.2⟩
    | used left => exact hsession
  · intro a' b' hab'
    have hsession' := hab'.session
    refine { hab with
      session := ?_
      first_le := hab'.first_le
      nextInstance := hab'.nextInstance
      faithful := hab'.faithful
      faithful' := hab'.faithful'
      takesAll := hab'.takesAll
      takesAll' := hab'.takesAll' }
    cases reuse with
    | fresh => exact ⟨hsession.1, hsession'.2⟩
    | used left => exact hsession'

/-- A template that is included or imported begins with new registries. -/
theorem reaching {reach : Reach} (hreach : reach.sharesBlocks = false) (name : String)
    (a b : State) (hab : a.EchoedBy config σ reuse b) :
    (a.enterDerived config name reach).EchoedBy config σ .fresh
        (b.enterDerived config name reach) ∧
      ∀ a' b', a'.EchoedBy config σ .fresh b' →
        (State.leaveTemplate reach a a').EchoedBy config σ reuse
          (State.leaveTemplate reach b b') := by
  have hblocks : (b.session.derive config name reach).blocks =
      (a.session.derive config name reach).blocks := by
    simp only [Session.derive, hreach]
    rfl
  constructor
  · exact { hab with
      frames := rfl, block := rfl, template := rfl, autoescape := rfl, session := ⟨rfl, hblocks⟩ }
  · intro a' b' hab'
    refine { hab with
      session := ?_
      first_le := hab'.first_le
      nextInstance := hab'.nextInstance
      faithful := hab'.faithful
      faithful' := hab'.faithful'
      takesAll := hab'.takesAll
      takesAll' := hab'.takesAll' }
    have hsession := hab.session
    simp only [State.leaveTemplate, Session.rejoin, hreach]
    exact hsession

section
variable (hruns : RunsEchoing config σ depth)
include hruns

/-! ## Templates -/

/-- A template echoes if all is found in its setup and in its root. -/
theorem runTemplate {t : Template} {s : State}
    (h : ∀ m, Moment.Starts config depth t s m → m.FindsAll config reuse) :
    EchoesAt config σ reuse id s (Render.runTemplate (invoke config depth) t)
      (Render.runTemplate (invoke config depth) t) := by
  have hsetup : EchoesAt config σ reuse id s (Render.runSetup (invoke config depth) t)
      (Render.runSetup (invoke config depth) t) := by
    unfold Render.runSetup
    cases hsetup : t.setup with
    | some setup =>
      refine hruns reuse setup s fun d hd => ?_
      subst hd
      exact h _ (.setup hsetup)
    | none => exact registerBlocks t s
  refine hsetup.bind fun _ u hrun => hruns reuse t.root u fun d hd => ?_
  subst hd
  exact h _ (.root hrun)

theorem runTemplate_fresh (t : Template) (s : State) :
    EchoesAt config σ .fresh id s (Render.runTemplate (invoke config depth) t)
      (Render.runTemplate (invoke config depth) t) :=
  runTemplate hruns fun m _ => m.findsAll_fresh config

theorem extendTemplate {loop : Option LoopContext} {name : String} {rest : List Stmt} {s : State}
    (h : Moment.FindsAll config reuse ⟨depth, .code loop (.extendTemplate name :: rest), s⟩) :
    EchoesAt config σ reuse id s (Render.extendTemplate config (invoke config depth) name)
      (Render.extendTemplate config (invoke config depth) name) := by
  refine (resolveName name s).bind fun resolved t hresolved => ?_
  cases hresolved
  refine ((fetch config _).at s).bind fun found u hfound => ?_
  refine asTemplate (extending _) (runTemplate hruns fun m hstart => ?_)
  exact h.next (.inr (.inr ⟨_, found, u, .extending hfound, hstart⟩))

theorem includeTemplate (name : String) (ignoreMissing : Bool) (a : State) :
    EchoesAt config σ reuse id a
      (Render.includeTemplate config (invoke config depth) name ignoreMissing)
      (Render.includeTemplate config (invoke config depth) name ignoreMissing) := by
  refine (resolveName name a).bind fun resolved t _ => ?_
  refine ((Sound.getOptional (fetch config) alikeNotify _ _).at t).bind fun found u _ => ?_
  cases found with
  | some template => exact asTemplate (reaching rfl _) (runTemplate_fresh hruns template _)
  | none => exact alikeAt_pure id u ()

theorem includeFirstOf (names : List String) (ignoreMissing : Bool) (a : State) :
    EchoesAt config σ reuse id a
      (Render.includeFirstOf config (invoke config depth) names ignoreMissing)
      (Render.includeFirstOf config (invoke config depth) names ignoreMissing) := by
  refine alikeAt_read_bind fun b hab => ?_
  rw [hab.template]
  refine ((Sound.selectOptional (fetch config) alikeNotify _ _).at a).bind fun found u _ => ?_
  cases found with
  | some found => exact asTemplate (reaching rfl _) (runTemplate_fresh hruns found.2 _)
  | none => exact alikeAt_pure id u ()

theorem importTemplate (name : String) (a : State) :
    EchoesAt config σ reuse (Value.shifted σ) a
      (Render.importTemplate config (invoke config depth) name)
      (Render.importTemplate config (invoke config depth) name) := by
  refine (resolveName name a).bind fun resolved t _ => ?_
  refine ((fetch config _).at t).bind fun template u _ => ?_
  refine asTemplate (reaching rfl _) ?_
  refine (captureText (runTemplate_fresh hruns template _)).bind fun body w _ => ?_
  refine alikeAt_read fun b hab => ?_
  rw [Session.toModule, Session.toModule, Value.shifted_module, hab.session.1]
  rfl

/-! ## Blocks -/

/-- The definition that a statement asks for echoes. -/
theorem evaluateBlock {loop : Option LoopContext} {c : Stmt} {rest : List Stmt} {s : State}
    {name : String} {levelsUp : Nat} (hc : c.asksFor s = some ⟨name, levelsUp⟩)
    (h : Moment.FindsAll config reuse ⟨depth, .code loop (c :: rest), s⟩) :
    EchoesAt config σ reuse id s (Render.evaluateBlock (invoke config depth) name levelsUp)
      (Render.evaluateBlock (invoke config depth) name levelsUp) := by
  intro b hab
  have hresolve := hab.resolve (h _ ⟨name, levelsUp⟩ .refl ⟨loop, c, rest, rfl, hc⟩)
  cases hbody : s.blocks.resolve name levelsUp with
  | error cause =>
    rw [evaluateBlock_of_error hbody, evaluateBlock_of_error (hresolve.trans hbody)]
    exact ⟨rfl, (Pairing.echo config σ reuse).refl hab⟩
  | ok body =>
    rw [evaluateBlock_of_ok hbody, evaluateBlock_of_ok (hresolve.trans hbody)]
    have hnoted : (Pairing.echo config σ reuse).To s b
        (s.logged (.notice (.resolvedBlock name levelsUp (s.blocks.depth name))))
        (b.logged (.notice (.resolvedBlock name levelsUp (b.blocks.depth name)))) :=
      hab.noted rfl rfl
    have hbegun : EchoesAt config σ reuse id (State.enterBlock ⟨name, levelsUp⟩
        (s.logged (.notice (.resolvedBlock name levelsUp (s.blocks.depth name)))))
        (invoke config depth body) (invoke config depth body) := by
      refine hruns reuse body _ fun d hd => ?_
      subst hd
      exact h.next (.inr (.inl (.definition hc hbody)))
    obtain ⟨hout, hto⟩ := hbegun.of_brackets (block _) _ hnoted.1
    exact ⟨hout, (Pairing.echo config σ reuse).trans hnoted hto⟩

end

/-! ## Expressions -/

mutual

theorem eval (hruns : RunsEchoing config σ depth) (hnumbers : config.IgnoresNumbers σ.first) :
    ∀ (x : Expr) (a : State),
      EchoesAt config σ reuse (Value.shifted σ) a (x.eval config (invoke config depth))
        (x.eval config (invoke config depth))
  | .var name, a => lookup name a
  | .literal v, a => instantiate v a
  | .unary op operand, a => by
    refine (eval hruns hnumbers operand a).bind fun v t _ => alikeAt_read_bind fun b hab => ?_
    rw [hab.autoescape, ← op.apply_shifted]
    exact alikeAt_pure _ t _
  | .binary op first second, a => by
    refine (eval hruns hnumbers first a).bind fun v t _ => ?_
    refine (eval hruns hnumbers second t).bind fun w u _ => ?_
    rw [← op.apply_shifted]
    exact alikeAt_pure _ u _
  | .call receiver method arguments, a =>
    (eval hruns hnumbers receiver a).bind fun v t _ =>
      (evalAll hruns hnumbers arguments t).bind fun given u _ =>
        alikeAt_ofExcept (v.callMethod_shifted σ method given)
  | .filter name operand arguments, a =>
    (eval hruns hnumbers operand a).bind fun v t _ =>
      (evalAll hruns hnumbers arguments t).bind fun given u _ =>
        alikeAt_ofExcept (hnumbers.filter σ.distance name v given)
  | .test name operand arguments, a => by
    refine (eval hruns hnumbers operand a).bind fun v t _ => ?_
    refine (evalAll hruns hnumbers arguments t).bind fun given u _ => ?_
    have htest : config.callTest name (v.shifted σ) (given.map (Value.shifted σ)) =
        (config.callTest name v given).map id := by
      rw [Except.map_id]
      exact hnumbers.test σ.distance name v given
    refine (alikeAt_ofExcept htest).bind fun answer w _ => ?_
    exact alikeAt_pure (Value.shifted σ) w (.bool answer)
  | .list items, a => by
    refine (evalAll hruns hnumbers items a).bind fun values t _ => ?_
    rw [← Value.shifted_list]
    exact alikeAt_pure _ t _
  | .importTemplate name, a => importTemplate hruns name a

theorem evalAll (hruns : RunsEchoing config σ depth) (hnumbers : config.IgnoresNumbers σ.first) :
    ∀ (xs : List Expr) (a : State),
      EchoesAt config σ reuse (List.map (Value.shifted σ)) a
        (Expr.evalAll config (invoke config depth) xs)
        (Expr.evalAll config (invoke config depth) xs)
  | [], a => alikeAt_pure _ a []
  | x :: rest, a => by
    refine (eval hruns hnumbers x a).bind fun v t _ => ?_
    refine (evalAll hruns hnumbers rest t).bind fun values u _ => ?_
    exact alikeAt_pure (List.map (Value.shifted σ)) u (v :: values)

end

/-! ## Statements -/

theorem simply {a : State} {m n : Render Unit} (h : EchoesAt config σ reuse id a m n) :
    EchoesAt config σ reuse id a (Templating.simply m) (Templating.simply n) :=
  h.bind fun _ t _ => alikeAt_pure id t Flow.next

theorem asWhole {a : State} {m n : Render Flow} (h : EchoesAt config σ reuse id a m n) :
    EchoesAt config σ reuse id a (Templating.asWhole m) (Templating.asWhole n) :=
  h.bind fun _ t _ => alikeAt_pure id t ()

theorem asIteration {a : State} {m n : Render Flow} (h : EchoesAt config σ reuse id a m n) :
    EchoesAt config σ reuse id a (Templating.asIteration m) (Templating.asIteration n) :=
  h.bind fun flow t _ => alikeAt_pure id t flow.toLoopStep

/-- A loop echoes if its body does wherever all is found. -/
theorem loop {loop : Option LoopContext} {c : Stmt} {rest : List Stmt} {s t : State}
    {iterable : Expr} {binding : Binding} {body : Body} {v : Value}
    (hloop : c.loop? = some (iterable, binding, body))
    (h : Moment.FindsAll config reuse ⟨depth, .code loop (c :: rest), s⟩)
    (hv : iterable.eval config (invoke config depth) s = (.done v, t))
    (hbody : ∀ context context' u,
      Moment.FindsAll config reuse ⟨depth, .code (some context) body, u⟩ →
      EchoesAt config σ reuse id u
        (Stmt.execAll config (invoke config depth) (some context) body)
        (Stmt.execAll config (invoke config depth) (some context') body)) :
    EchoesAt config σ reuse id t
      (Render.forLoop config v binding fun context =>
        Templating.asIteration (Stmt.execAll config (invoke config depth) (some context) body))
      (Render.forLoop config (v.shifted σ) binding fun context => Templating.asIteration
        (Stmt.execAll config (invoke config depth) (some context) body)) := by
  refine forLoop v binding t fun context u hdefined hi => ?_
  exact asIteration (hbody context _ u (h.next (.inl (.iteration hloop hv hdefined hi))))

mutual

/-- The induction on code. -/
theorem exec (hruns : RunsEchoing config σ depth) (hnumbers : config.IgnoresNumbers σ.first) :
    ∀ (c : Stmt) (rest : List Stmt) (loop loop' : Option LoopContext) (s : State),
      Moment.FindsAll config reuse ⟨depth, .code loop (c :: rest), s⟩ →
      EchoesAt config σ reuse id s (c.exec config (invoke config depth) loop)
        (c.exec config (invoke config depth) loop')
  | .write text, _, _, _, s, _ => simply (write text s)
  | .emit x, _, _, _, s, _ =>
    simply ((eval hruns hnumbers x s).bind fun v t _ => emit v t)
  | .assign name x, _, _, _, s, _ =>
    simply ((eval hruns hnumbers x s).bind fun v t _ => assign name v t)
  | .assignBinding binding x, _, _, _, s, _ =>
    simply ((eval hruns hnumbers x s).bind fun v t _ => assignBinding binding v t)
  | .exportVar name x, _, _, _, s, _ =>
    simply ((eval hruns hnumbers x s).bind fun v t _ => exportVar name v t)
  | .frame body, _, loop, loop', s, h =>
    AlikeAt.of_brackets frame
      (execAll hruns hnumbers body loop loop' s.enterFrame (h.next (.inl .frame)))
  | .escaping enabled body, _, loop, loop', s, h =>
    AlikeAt.of_brackets (escaping enabled)
      (execAll hruns hnumbers body loop loop' (s.setAutoescape enabled) (h.next (.inl .escaping)))
  | .setEscaping enabled, _, _, _, s, _ => simply (setAutoescape enabled s)
  | .choose condition yes no, rest, loop, loop', s, h => by
    refine (eval hruns hnumbers condition s).bind fun v t hv => ?_
    have hbranch := h.next (.inl (.branch hv))
    rw [Value.isTruthy_shifted]
    cases htrue : v.isTruthy with
    | true =>
      rw [htrue] at hbranch
      exact execAll hruns hnumbers yes loop loop' t hbranch
    | false =>
      rw [htrue] at hbranch
      exact execAll hruns hnumbers no loop loop' t hbranch
  | .forEach iterable binding body visited, rest, loop, _, s, h => by
    refine simply ((eval hruns hnumbers iterable s).bind fun v t hv => ?_)
    have hlooped := Echo.loop (σ := σ) rfl h hv fun context context' u hu =>
      execAll hruns hnumbers body (some context) (some context') u hu
    refine hlooped.bind fun any u _ => ?_
    cases visited with
    | some name => exact assign name (.bool any) u
    | none => exact alikeAt_pure id u ()
  | .forElse iterable binding body otherwise, rest, loop, _, s, h => by
    refine simply ((eval hruns hnumbers iterable s).bind fun v t hv => ?_)
    have hlooped := Echo.loop (σ := σ) rfl h hv fun context context' u hu =>
      execAll hruns hnumbers body (some context) (some context') u hu
    refine hlooped.bind fun any u hany => ?_
    cases any with
    | true => exact alikeAt_pure id u ()
    | false =>
      have helse := h.next (.inl (.otherwise hv hany))
      have hotherwise := execAll hruns hnumbers otherwise none none u.enterFrame helse
      exact AlikeAt.of_brackets frame (asWhole hotherwise)
  | .breakLoop, _, _, _, s, _ => alikeAt_pure id s Flow.breakLoop
  | .continueLoop, _, _, _, s, _ => alikeAt_pure id s Flow.continueLoop
  | .block name levelsUp, _, _, _, s, h => simply (evaluateBlock hruns rfl h)
  | .blockLevel name level, _, _, _, s, h => by
    refine simply ?_
    unfold Render.evaluateBlockLevel
    cases hlevel : levelsUpOfLevel level with
    | some levelsUp =>
      refine evaluateBlock hruns ?_ h
      rw [Stmt.asksFor, hlevel]
      rfl
    | none => exact alikeAt_fail id s _
  | .superBlock, _, _, _, s, h => by
    refine simply (alikeAt_read_bind fun b hab => ?_)
    rw [hab.block]
    cases hactive : s.block with
    | some active =>
      refine evaluateBlock hruns ?_ h
      rw [Stmt.asksFor, hactive]
      rfl
    | none => exact alikeAt_fail id s _
  | .extendTemplate name, _, _, _, s, h => simply (extendTemplate hruns h)
  | .includeTemplate name ignoreMissing, _, _, _, s, _ =>
    simply (includeTemplate hruns name ignoreMissing s)
  | .includeFirstOf names ignoreMissing, _, _, _, s, _ =>
    simply (includeFirstOf hruns names ignoreMissing s)
  | .importAs name target, _, _, _, s, _ =>
    simply ((importTemplate hruns name s).bind fun v t _ => assign target v t)
  | .fromImport name items, _, _, _, s, _ => by
    refine simply ((importTemplate hruns name s).bind fun v t _ => ?_)
    have hbindings : (items.map fun item => (item.2, (v.shifted σ).attr item.1)) =
        (items.map fun item => (item.2, v.attr item.1)).map σ.onBinding := by
      simp [Shift.onBinding, Function.comp_def]
    exact hbindings ▸ assignAll _ t
  | .filterBlock filter arguments body, _, _, _, s, h => by
    refine simply ((evalAll hruns hnumbers arguments s).bind fun given t hgiven => ?_)
    have hbody := execAll hruns hnumbers body none none _ (h.next (.inl (.filtered hgiven)))
    have hcaptured := AlikeAt.of_brackets frame (captureText (asWhole hbody))
    refine hcaptured.bind fun text u _ => ?_
    have hfiltered := hnumbers.filter σ.distance filter (.markup ⟨text⟩) given
    refine (alikeAt_ofExcept hfiltered).bind fun filtered w _ => ?_
    rw [Value.toText_shifted]
    exact write _ w
  | .registerBlock name body, _, _, _, s, _ => simply (registerBlock name body s)
  | .registerTemplate name, _, _, _, s, _ =>
    simply (((fetch config name).at s).bind fun t u _ => registerBlocks t u)
  | .log x, _, _, _, s, _ =>
    simply ((eval hruns hnumbers x s).bind fun v t _ => log rfl rfl t)
  | .context, _, _, _, s, _ => simply (log rfl rfl s)
  | .probe, _, _, _, s, _ => simply (alikeAt_read_bind fun _ _ => log rfl rfl s)
  | .summarize, _, _, _, s, _ => simply (alikeAt_read_bind fun _ _ => log rfl rfl s)
  | .attempt body, _, loop, loop', s, h => by
    have hbody := execAll hruns hnumbers body loop loop' s (h.next (.inl .attempted))
    refine hbody.attempt.bind fun outcome t _ => ?_
    cases outcome with
    | ok flow => exact alikeAt_pure id t flow
    | error error => exact (log rfl rfl t).bind fun _ u _ => alikeAt_pure id u Flow.next

theorem execAll (hruns : RunsEchoing config σ depth) (hnumbers : config.IgnoresNumbers σ.first) :
    ∀ (body : List Stmt) (loop loop' : Option LoopContext) (s : State),
      Moment.FindsAll config reuse ⟨depth, .code loop body, s⟩ →
      EchoesAt config σ reuse id s (Stmt.execAll config (invoke config depth) loop body)
        (Stmt.execAll config (invoke config depth) loop' body)
  | [], _, _, s, _ => alikeAt_pure id s Flow.next
  | c :: rest, loop, loop', s, h => by
    refine (exec hruns hnumbers c rest loop loop' s h).bind fun flow t ht => ?_
    cases flow with
    | next => exact execAll hruns hnumbers rest loop loop' t (h.next (.inl (.next ht)))
    | breakLoop => exact alikeAt_pure id t Flow.breakLoop
    | continueLoop => exact alikeAt_pure id t Flow.continueLoop

end

/-- The run lemma: whatever is run echoes, wherever all is found. -/
theorem runsEchoing (hnumbers : config.IgnoresNumbers σ.first) :
    ∀ depth, RunsEchoing config σ depth
  | 0 => fun _ _ s _ => alikeAt_unfinished id s
  | depth + 1 => fun _ body s h =>
    asWhole (execAll (runsEchoing hnumbers depth) hnumbers body none none s (h depth rfl))

end Echo

end Templating
