import Templating.Proofs.Uncaught

/-!
# What is open at a moment

A moment of a run lies inside everything that was entered on the way to it and
has not ended since.  Three things matter to the code inside them: an iteration
of a loop, a stretch with escaping on or off, and a template reached from another
one (`Opening`).

`Moment.Nests` is the step of a run together with what it opens, and
`Moment.Opens` collects the openings from the moment on at which the run began,
innermost first.  Nothing has to be said about closing.  A statement that has
ended, well or with an error that was caught, has ended with all that it opened,
so the step to the statement after it opens nothing.

What holds of a part of the state where nothing is opened is the same for every
part that code gives back as it was (`Steady`): only the openings change it, and
so it is known from them (`Steady.opens`).
-/
namespace Templating

/-- Something that is open while the code inside it runs. -/
inductive Opening where
  /-- An iteration of a loop, which stands here. -/
  | iteration (position : LoopPosition)
  /-- A stretch with escaping on or off. -/
  | escaping (enabled : Bool)
  /-- Another template, under the name by which it was fetched. -/
  | template (name : String)
  deriving DecidableEq, Repr

/-- Whether some code in a statement runs inside an opening. -/
def Stmt.opens : Stmt → Bool
  | .forEach .. | .forElse .. | .escaping .. => true
  | _ => false

/-- A statement that loops opens its iterations. -/
theorem Stmt.opens_of_loop {c : Stmt} {iterable : Expr} {binding : Binding} {body : Body}
    (h : c.loop? = some (iterable, binding, body)) : c.opens = true := by
  cases c with
  | forEach | forElse => rfl
  | _ => cases h

namespace Moment

variable (config : Config)

/-- The next moment, and what is opened on the way to it. -/
inductive Nests : Moment → Option Opening → Moment → Prop
  /-- Whatever the statement has opened, it has ended with it. -/
  | next {depth loop c rest s t} :
      c.exec config (invoke config depth) loop s = (.done .next, t) →
      Nests ⟨depth, .code loop (c :: rest), s⟩ none ⟨depth, .code loop rest, t⟩
  /-- Operands come before anything is opened. -/
  | operands {depth loop c rest s} :
      Nests ⟨depth, .code loop (c :: rest), s⟩ none ⟨depth, .operands c.operands, s⟩
  /-- The other steps within a body, if there is nothing to be opened. -/
  | plain {m m'} :
      (∀ loop c rest, m.task = .code loop (c :: rest) → c.opens = false) →
      Leads config m m' → Nests m none m'
  | iteration {depth loop c rest iterable binding body s v t context u} :
      c.loop? = some (iterable, binding, body) →
      iterable.eval config (invoke config depth) s = (.done v, t) →
      Render.refuseUndefined config v t = (.done (), t) →
      Render.Iterates config v binding (fun context =>
        asIteration (Stmt.execAll config (invoke config depth) (some context) body)) t context u →
      Nests ⟨depth, .code loop (c :: rest), s⟩ (some (.iteration context.position))
        ⟨depth, .code (some context) body, u⟩
  /-- The loop is over when the other body begins. -/
  | otherwise {depth loop iterable binding body otherwise rest s v t u} :
      iterable.eval config (invoke config depth) s = (.done v, t) →
      Render.forLoop config v binding (fun context =>
        asIteration (Stmt.execAll config (invoke config depth) (some context) body)) t =
          (.done false, u) →
      Nests ⟨depth, .code loop (.forElse iterable binding body otherwise :: rest), s⟩ none
        ⟨depth, .code none otherwise, u.enterFrame⟩
  | escaping {depth loop enabled body rest s} :
      Nests ⟨depth, .code loop (.escaping enabled body :: rest), s⟩ (some (.escaping enabled))
        ⟨depth, .code loop body, s.setAutoescape enabled⟩
  /-- The definition of a block runs in the template that asks for it. -/
  | calls {m m'} : Calls m m' → Nests m none m'
  | enters {m m' reach name t u} :
      Fetches config m reach name t u →
      Starts config m.depth t (u.beginFetched config name reach) m' →
      Nests m (some (.template name)) m'

variable {config} {m m' : Moment}

theorem Nests.step {o : Option Opening} (h : Nests config m o m') : Step config m m' := by
  cases h with
  | next hrun => exact .inl (.next hrun)
  | operands => exact .inl .operands
  | plain _ hleads => exact .inl hleads
  | iteration hloop hrun hrefuse hi => exact .inl (.iteration hloop hrun hrefuse hi)
  | otherwise hrun hloop => exact .inl (.otherwise hrun hloop)
  | escaping => exact .inl .escaping
  | calls hcalls => exact .inr (.inl hcalls)
  | enters hfetch hstart => exact .inr (.inr ⟨_, _, _, _, hfetch, hstart⟩)

/-- A step out of a statement that opens nothing for its code. -/
theorem Leads.nests_of_plain {depth : Nat} {loop : Option LoopContext} {c : Stmt}
    {rest : List Stmt} {s : State} (hc : c.opens = false)
    (h : Leads config ⟨depth, .code loop (c :: rest), s⟩ m') :
    Nests config ⟨depth, .code loop (c :: rest), s⟩ none m' := by
  refine .plain (fun _ _ _ htask => ?_) h
  cases htask
  exact hc

theorem Leads.nests_of_operands {depth : Nat} {xs : List Expr} {s : State}
    (h : Leads config ⟨depth, .operands xs, s⟩ m') :
    Nests config ⟨depth, .operands xs, s⟩ none m' :=
  .plain (fun _ _ _ htask => by cases htask) h

/-- Every step opens one thing or nothing. -/
theorem Step.nests (h : Step config m m') : ∃ o, Nests config m o m' := by
  rcases h with hleads | hcalls | ⟨reach, name, t, u, hfetch, hstart⟩
  · cases hleads with
    | next hrun => exact ⟨_, .next hrun⟩
    | operands => exact ⟨_, .operands⟩
    | nextOperand hrun => exact ⟨_, Leads.nests_of_operands (.nextOperand hrun)⟩
    | innerOperands => exact ⟨_, Leads.nests_of_operands .innerOperands⟩
    | frame => exact ⟨_, Leads.nests_of_plain rfl .frame⟩
    | escaping => exact ⟨_, .escaping⟩
    | branch hrun => exact ⟨_, Leads.nests_of_plain rfl (.branch hrun)⟩
    | iteration hloop hrun hrefuse hi => exact ⟨_, .iteration hloop hrun hrefuse hi⟩
    | otherwise hrun hloop => exact ⟨_, .otherwise hrun hloop⟩
    | filtered hrun => exact ⟨_, Leads.nests_of_plain rfl (.filtered hrun)⟩
    | attempted => exact ⟨_, Leads.nests_of_plain rfl .attempted⟩
  · exact ⟨_, .calls hcalls⟩
  · exact ⟨_, .enters hfetch hstart⟩

variable (config) in
/-- What is open at a moment, innermost first, of all that was opened since the
first one. -/
inductive Opens (first : Moment) : List Opening → Moment → Prop
  | begin : Opens first [] first
  | stay {openings m m'} : Opens first openings m → Nests config m none m' →
      Opens first openings m'
  | into {openings opening m m'} : Opens first openings m → Nests config m (some opening) m' →
      Opens first (opening :: openings) m'

/-- What is open can be told at every later moment. -/
theorem Later.opens {first : Moment} (h : Later config first m) :
    ∃ openings, Opens config first openings m := by
  induction h with
  | refl => exact ⟨[], .begin⟩
  | tail _ hstep ih =>
    obtain ⟨openings, hopens⟩ := ih
    obtain ⟨_ | opening, hnests⟩ := hstep.nests
    · exact ⟨openings, hopens.stay hnests⟩
    · exact ⟨opening :: openings, hopens.into hnests⟩

theorem Opens.later {first : Moment} {openings : List Opening}
    (h : Opens config first openings m) : Later config first m := by
  induction h with
  | begin => exact .refl
  | stay _ hnests ih | into _ hnests ih => exact ih.tail hnests.step

end Moment

/-! ## Programs of a vocabulary -/

/-- The sessions of a host that runs no other code than that of a vocabulary. -/
inductive Session.Made (config : Config) (V : Vocabulary) : Session → Prop
  | started (template : Option String) : Made config V (Session.start config template)
  | derived {s : Session} (name : String) (reach : Reach) :
      Made config V s → Made config V (s.derive config name reach)
  /-- What two sessions share has been used in the other one. -/
  | shared {s t : Session} (reach : Reach) :
      Made config V s → Made config V t → Made config V (s.rejoin reach t)
  /-- A template was fetched. -/
  | fetched {s : Session} (name : String) (scope : Scope) (sink : Sink) (world : World) :
      Made config V s →
      Made config V (Render.getTemplate config name (.start s scope sink world)).2.session
  /-- Code has run in it, to whatever end. -/
  | ran {s : Session} (depth : Nat) {body : Body} (scope : Scope) (sink : Sink) (world : World) :
      Made config V s → V.Code body →
      Made config V (Stmt.execAll config (invoke config depth) none body
        (.start s scope sink world)).2.session
  /-- A template has been rendered in it, to whatever end. -/
  | rendered {s : Session} (depth : Nat) {t : Template} (context : Context) (sink : Sink)
      (world : World) : Made config V s → V.Template t →
      Made config V (config.evaluateTemplate depth t context sink (some s) world).2.session

/-- The moments at which a run of a vocabulary begins in a session, with a scope
that the host has filled. -/
inductive Moment.Begins (config : Config) (V : Vocabulary) (own : Session) :
    Scope → Moment → Prop
  /-- A template is rendered. -/
  | template {depth t context sink world m} : V.Template t →
      Starts config depth t (.begin config t context sink (some own) world) m →
      Begins config V own (.root context) m
  /-- A host runs code of its own. -/
  | code {depth body scope sink world} : V.Code body →
      Begins config V own scope ⟨depth, .code none body, .start own scope sink world⟩

/-- All code is of these statements: what is about to be run here, and what the
session holds. -/
abbrev Moment.KeepsTo (p : Stmt → Prop) (m : Moment) : Prop :=
  m.Holds (.holdingCode (.ofStatements p)) (.ofStatements p)

section
variable {p : Stmt → Prop} {config : Config} {own : Session} {scope : Scope}
variable (hloader : ∀ name t, config.loader name = .ok t → (Vocabulary.ofStatements p).Template t)
include hloader

/-- The run lemma: a host's sessions hold no other code than the host runs. -/
theorem Session.Made.holdsCode (h : own.Made config (.ofStatements p)) :
    own.HoldsCode (.ofStatements p) := by
  have hC := sound_holdingCode hloader
  have hV := Vocabulary.closed_ofStatements p config
  induction h with
  | started name => exact Session.holdsCode_start _ config name
  | derived name reach _ ih => exact ih.derive config name reach
  | shared reach _ _ ih ih' => exact ih.rejoin ih' reach
  | @fetched s name scope sink world _ ih =>
    exact (Course.of_alike (hC.fetch name) (s := .start s scope sink world) ih).1
  | @ran s depth body scope sink world _ hbody ih =>
    exact (Course.of_alike (hC.execAll hV hbody depth none) (s := .start s scope sink world) ih).1
  | @rendered s depth t context sink world _ ht ih =>
    have hbegun : (Course.holdingCode (.ofStatements p)).Inv
      (.begin config t context sink (some s) world) := ih
    exact hC.evaluateTemplate hV ht depth hbegun

namespace Moment

theorem Begins.holds {first : Moment} (hown : own.Made config (.ofStatements p))
    (h : Begins config (.ofStatements p) own scope first) : first.KeepsTo p := by
  have hheld := hown.holdsCode hloader
  cases h with
  | @template depth t context sink world _ ht hstart =>
    have hbegun : (Course.holdingCode (.ofStatements p)).Inv
      (.begin config t context sink (some own) world) := hheld
    exact (sound_holdingCode hloader).starts (Vocabulary.closed_ofStatements p config) hbegun ht
      hstart
  | code hbody => exact ⟨hheld, hbody⟩

theorem Opens.holds {first m : Moment} {openings : List Opening}
    (hfirst : first.KeepsTo p) (h : Opens config first openings m) : m.KeepsTo p :=
  (sound_holdingCode hloader).later (Vocabulary.closed_ofStatements p config) hfirst h.later

end Moment
end

/-! ## Parts of the state that only openings change -/

/-- A part of the state that all code of some statements gives back as it was, and
that frames, blocks, captured parts and registrations do not concern. -/
structure Steady {γ : Type} (config : Config) (p : Stmt → Prop) (f : State → γ) : Prop where
  apart : IsApart f
  frame : ∀ s : State, f s.enterFrame = f s
  block : ∀ active s, f (State.enterBlock active s) = f s
  register : ∀ (s : State) name body, f (s.register name body) = f s
  template : ∀ reach s t, f (State.leaveTemplate reach s t) = f s
  exec : ∀ {c : Stmt}, c.Every p (fun _ => True) → ∀ depth loop (s : State),
    s.session.HoldsCode (.ofStatements p) →
    KeepsAt f s (c.exec config (invoke config depth) loop)
  forLoop : ∀ {body : Body}, (Vocabulary.ofStatements p).Code body → ∀ v binding depth (s : State),
    s.session.HoldsCode (.ofStatements p) →
    KeepsAt f s (Render.forLoop config v binding fun context =>
      asIteration (Stmt.execAll config (invoke config depth) (some context) body))

namespace Steady

variable {γ : Type} {p : Stmt → Prop} {config : Config} {f : State → γ}
variable (h : Steady config p f) (hloader : ∀ name t, config.loader name = .ok t →
  (Vocabulary.ofStatements p).Template t)
include h

theorem capture (s : State) : f s.enterCapture = f s := h.apart.sink s _

theorem eval (x : Expr) (depth : Nat) : Keeps f (x.eval config (invoke config depth)) :=
  Keeps.eval h.apart (h.template .importing) x

theorem evalAll (xs : List Expr) (depth : Nat) :
    Keeps f (Expr.evalAll config (invoke config depth) xs) :=
  Keeps.evalAll h.apart (h.template .importing) xs

include hloader

/-- Statements keep it one after the other, since each leaves the session with
code of the vocabulary. -/
theorem execAll : ∀ {body : List Stmt}, Stmt.EveryOf p (fun _ => True) body →
    ∀ depth loop (s : State), s.session.HoldsCode (.ofStatements p) →
    KeepsAt f s (Stmt.execAll config (invoke config depth) loop body)
  | [], _, _, _, _, _ => rfl
  | c :: rest, hbody, depth, loop, s, hs => by
    refine (h.exec hbody.1 depth loop s hs).seq fun flow t hrun => ?_
    have hheld := (Course.done_of_alike ((sound_holdingCode hloader).exec
      (Vocabulary.closed_ofStatements p config) hbody.1 depth loop) hs hrun).1
    cases flow with
    | next => exact execAll hbody.2 depth loop t hheld
    | breakLoop | continueLoop => rfl

theorem runSetup {t : Template} (ht : (Vocabulary.ofStatements p).Template t) (depth : Nat)
    (s : State) (hs : s.session.HoldsCode (.ofStatements p)) :
    KeepsAt f s (Render.runSetup (invoke config depth) t) := by
  unfold Render.runSetup
  cases hsetup : t.setup with
  | none => exact (Keeps.registerBlocks h.apart h.register t).at s
  | some setup =>
    cases depth with
    | zero => rfl
    | succ depth => exact (h.execAll hloader (ht.setup setup hsetup) depth none s hs).asWhole

/-- A template starts with what it begins with. -/
theorem starts {depth : Nat} {t : Template} {s : State} {m : Moment}
    (ht : (Vocabulary.ofStatements p).Template t) (hs : s.session.HoldsCode (.ofStatements p))
    (hm : Moment.Starts config depth t s m) : f m.state = f s := by
  cases hm with
  | setup => rfl
  | @root depth _ _ u hrun => exact (h.runSetup hloader ht (depth + 1) s hs).of_run hrun

omit hloader in
theorem leads {m m' : Moment} (hm : m.KeepsTo p)
    (hplain : ∀ loop c rest, m.task = .code loop (c :: rest) → c.opens = false)
    (hs : Moment.Leads config m m') : f m'.state = f m.state := by
  obtain ⟨hheld, htask⟩ := hm
  cases hs with
  | @next depth loop _ _ _ _ hrun => exact (h.exec htask.1 depth loop _ hheld).of_run hrun
  | operands | innerOperands | attempted => rfl
  | @nextOperand depth x _ s _ _ hrun => exact ((h.eval x depth).at s).of_run hrun
  | frame => exact h.frame _
  -- Stretches and loops are not plain: what they open may well change it.
  | escaping => cases hplain _ _ _ rfl
  | @branch depth _ condition _ _ _ s _ _ hrun => exact ((h.eval condition depth).at s).of_run hrun
  | iteration hloop =>
    have hopens := hplain _ _ _ rfl
    rw [Stmt.opens_of_loop hloop] at hopens
    cases hopens
  | otherwise => cases hplain _ _ _ rfl
  | @filtered depth _ _ arguments _ _ s _ _ hrun =>
    have hkept := ((h.evalAll arguments depth).at s).of_run hrun
    exact (h.capture _).trans ((h.frame _).trans hkept)

/-- The step lemma: where nothing is opened, nothing changes. -/
theorem nests {m m' : Moment} (hm : m.KeepsTo p) (hs : Moment.Nests config m none m') :
    f m'.state = f m.state := by
  cases hs with
  | @next depth loop _ _ _ _ hrun => exact (h.exec hm.task.1 depth loop _ hm.state).of_run hrun
  | operands => rfl
  | plain hplain hleads => exact h.leads hm hplain hleads
  | @otherwise depth _ iterable binding body _ _ s v t u hrun hloop =>
    -- The loop has ended before the other body begins, and nothing is left of it.
    have hevaluated := ((h.eval iterable depth).at s).of_run hrun
    have hheld := (Course.done_of_alike ((sound_holdingCode hloader).eval
      (Vocabulary.closed_ofStatements p config) hm.task.1.2.1 depth) hm.state hrun).1
    have hlooped := (h.forLoop hm.task.1.2.2.1 v binding depth t hheld).of_run hloop
    exact (h.frame _).trans (hlooped.trans hevaluated)
  | calls hcalls =>
    cases hcalls
    exact (h.block _ _).trans (h.apart.logged _ _)

/-- The run lemma: what the first moment and every opening say of it holds at every
moment, for the openings of that moment. -/
theorem opens {R : List Opening → γ → Prop} {first m : Moment} {openings : List Opening}
    (hfirst : first.KeepsTo p) (hbegin : R [] (f first.state))
    (hinto : ∀ {openings opening m m'}, m.KeepsTo p → R openings (f m.state) →
      Moment.Nests config m (some opening) m' → R (opening :: openings) (f m'.state))
    (hm : Moment.Opens config first openings m) : R openings (f m.state) := by
  induction hm with
  | begin => exact hbegin
  | stay hopens hnests ih =>
    rw [h.nests hloader (hopens.holds hloader hfirst) hnests]
    exact ih
  | into hopens hnests ih => exact hinto (hopens.holds hloader hfirst) ih hnests

end Steady
end Templating
