import Templating.Proofs.Course

/-!
# What the sink has no part in

Most of what a render does is the same wherever its output goes.  An action is
**silent** (`Silent`) if it is: with another sink it ends in the same way and in the
same state but for that sink, and none of the events that it logs is a chunk of
output.

Evaluating an expression is silent, and so is capturing: whatever the captured code
writes, and however it ends, the sink outside is neither asked nor changed.  What
is left over are the operations that write.
-/
namespace Templating

/-- The state with another sink. -/
def State.withSink (s : State) (sink : Sink) : State := { s with sink := sink }

/-- The chunks among some events. -/
def chunksOf (events : List Event) : List String := events.filterMap Event.chunk?

theorem chunksOf_append (events more : List Event) :
    chunksOf (events ++ more) = chunksOf events ++ chunksOf more :=
  List.filterMap_append

/-- These events were logged between two states. -/
def State.Logs (s : State) (events : List Event) (t : State) : Prop :=
  t.world.log.toList = s.world.log.toList ++ events

namespace State.Logs

variable {s t u : State} {events more : List Event}

theorem refl (s : State) : s.Logs [] s := (List.append_nil _).symm

theorem trans (h : s.Logs events t) (h' : t.Logs more u) : s.Logs (events ++ more) u := by
  have hlog : t.world.log.toList = s.world.log.toList ++ events := h
  have hlog' : u.world.log.toList = t.world.log.toList ++ more := h'
  show u.world.log.toList = s.world.log.toList ++ (events ++ more)
  rw [hlog', hlog, List.append_assoc]

theorem logged (s : State) (e : Event) : s.Logs [e] (s.logged e) := Array.toList_push

theorem of_log (h : t.world.log = s.world.log) : s.Logs [] t := by
  show t.world.log.toList = s.world.log.toList ++ []
  rw [h, List.append_nil]

end State.Logs

/-- Only events that are no chunks were logged between two states. -/
def State.Mutes (s t : State) : Prop := ∃ events, s.Logs events t ∧ chunksOf events = []

namespace State.Mutes

variable {s t u : State}

theorem refl (s : State) : s.Mutes s := ⟨[], .refl s, rfl⟩

theorem trans (h : s.Mutes t) (h' : t.Mutes u) : s.Mutes u := by
  obtain ⟨events, hlogs, hnone⟩ := h
  obtain ⟨more, hlogs', hnone'⟩ := h'
  refine ⟨events ++ more, hlogs.trans hlogs', ?_⟩
  rw [chunksOf_append, hnone, hnone']
  rfl

theorem of_log (h : t.world.log = s.world.log) : s.Mutes t := ⟨[], .of_log h, rfl⟩

theorem logged (s : State) {e : Event} (he : e.chunk? = none) : s.Mutes (s.logged e) := by
  refine ⟨[e], .logged s e, ?_⟩
  simp [chunksOf, he]

end State.Mutes

/-! ## Captured code -/

/-- The course of a run whose output is captured. -/
def Course.capturing : Course where
  Inv s := ∃ text, s.sink = .buffer text
  To s t := (∃ text, t.sink = .buffer text) ∧ s.Mutes t
  refl hs := ⟨hs, .refl _⟩
  trans h h' := ⟨h'.1, h.2.trans h'.2⟩
  inv _ h := h.1

/-- The step lemma: what is captured is no event. -/
theorem sound_capturing (config : Config) : Course.capturing.Sound Vocabulary.full config where
  looked _ _ := trivial
  exported _ _ _ := trivial
  defined _ _ _ _ _ := Vocabulary.code_full _
  cached _ _ _ _ := Vocabulary.template_full _
  loaded _ := Vocabulary.template_full _
  remember hs _ _ _ _ := ⟨hs, .of_log rfl⟩
  note {s} hs _ he := ⟨hs, .logged s he⟩
  write {s} hs text _ := by
    obtain ⟨captured, hsink⟩ := hs
    rw [Render.write, hsink]
    exact ⟨⟨captured ++ text, rfl⟩, .of_log rfl⟩
  emitted _ _ _ := trivial
  count hs _ := ⟨hs, .of_log rfl⟩
  assign hs _ _ _ := ⟨hs, .of_log rfl⟩
  exportVar hs _ _ _ := ⟨hs, .of_log rfl⟩
  setEscaping hs _ _ := ⟨hs, .of_log rfl⟩
  register hs _ _ _ := ⟨hs, .of_log rfl⟩
  rebind _ hs _ _ := ⟨hs, .of_log rfl⟩
  frame _ hs := ⟨hs, fun _ ht => ht⟩
  escaping _ _ hs := ⟨hs, fun _ ht => ht⟩
  block _ _ hs := ⟨hs, fun _ ht => ht⟩
  template _ _ _ hs := ⟨hs, fun _ ht => ht⟩
  capture _ hs := ⟨⟨"", rfl⟩, fun _ ht => ⟨hs, ht.2⟩⟩
  captured _ _ _ := trivial

/-! ## Silent actions -/

/-- Two runs that differ in nothing but where output goes, and write nothing. -/
def Pairing.silent : Pairing where
  Rel a b := b = a.withSink b.sink
  To a b a' b' := a'.sink = a.sink ∧ b' = a'.withSink b.sink ∧ a.Mutes a'
  refl h := ⟨rfl, h, .refl _⟩
  trans {a b a' b' a'' b''} h h' := by
    obtain ⟨hsink, hother, hmutes⟩ := h
    obtain ⟨hsink', hother', hmutes'⟩ := h'
    have hkept : b'.sink = b.sink := by rw [hother]; rfl
    exact ⟨hsink'.trans hsink, by rw [hother', hkept], hmutes.trans hmutes'⟩
  rel {a b a' b'} _ h := by
    have hkept : b'.sink = b.sink := by rw [h.2.1]; rfl
    rw [hkept]
    exact h.2.1

/-- An action that does the same whatever the sink is, and nothing to it. -/
abbrev Silent {α : Type} (m : Render α) : Prop := Pairing.silent.Alike m m fun _ => True

namespace Silent

open Pairing

variable {α β : Type} {config : Config} {invoke : Invoke}

theorem of_forall {m : Render α}
    (h : ∀ s sink, m (s.withSink sink) = ((m s).1, (m s).2.withSink sink))
    (hlog : ∀ s : State, s.Mutes (m s).2) : Silent m := by
  intro a b hab
  have hself := h a a.sink
  have hother := h a b.sink
  rw [← hab] at hother
  have hsink : (m a).2.sink = a.sink := congrArg (State.sink ∘ Prod.snd) hself
  exact ⟨(congrArg Prod.fst hother).symm, ⟨hsink, congrArg Prod.snd hother, hlog a⟩,
    fun _ _ => trivial⟩

/-- What a silent action does with another sink. -/
theorem apply {m : Render α} (h : Silent m) (s : State) (sink : Sink) :
    m (s.withSink sink) = ((m s).1, (m s).2.withSink sink) := by
  obtain ⟨hout, ⟨-, hother, -⟩, -⟩ := h s (s.withSink sink) rfl
  exact Prod.ext hout.symm hother

theorem sink {m : Render α} (h : Silent m) (s : State) : (m s).2.sink = s.sink :=
  (h s s rfl).2.1.1

theorem mutes {m : Render α} (h : Silent m) (s : State) : s.Mutes (m s).2 :=
  (h s s rfl).2.1.2.2

theorem pure (a : α) : Silent (pure a) := alike_pure trivial

theorem seq {m : Render α} {k : α → Render β} (hm : Silent m) (hk : ∀ a, Silent (k a)) :
    Silent (m >>= k) :=
  hm.bind fun a _ => hk a

theorem ofExcept (e : Except RenderError α) : Silent (Action.ofExcept e) :=
  alike_ofExcept fun _ _ => trivial

/-- Reading a part of the state that is not the sink. -/
theorem read {f : State → α} (h : ∀ s sink, f (s.withSink sink) = f s) : Silent (Action.read f) :=
  of_forall (fun s sink => by rw [Action.read, Action.read, h]) fun s => .refl s

/-- Changing a part of the state that is neither the sink nor the log. -/
theorem modify {f : State → State} (h : ∀ s sink, f (s.withSink sink) = (f s).withSink sink)
    (hlog : ∀ s, (f s).world.log = s.world.log) : Silent (Action.modify f) :=
  of_forall (fun s sink => by rw [Action.modify, Action.modify, h]) fun s => .of_log (hlog s)

theorem noteOf {e : State → Event} (he : ∀ s, (e s).chunk? = none)
    (hsame : ∀ s sink, e (s.withSink sink) = e s) :
    Silent (Action.modify fun s => s.logged (e s)) := by
  refine of_forall (fun s sink => ?_) fun s => .logged s (he s)
  rw [Action.modify, Action.modify, hsame]
  rfl

theorem log {e : Event} (he : e.chunk? = none) : Silent (Render.log e) :=
  noteOf (fun _ => he) fun _ _ => rfl

theorem notify (n : Notice) : Silent (Render.notify n) := log rfl

theorem refuseUndefined (v : Value) : Silent (Render.refuseUndefined config v) :=
  Sound.refuseUndefined v

theorem lookup (name : String) : Silent (Render.lookup name) := read fun _ _ => rfl

theorem assign (name : String) (v : Value) : Silent (Render.assign name v) :=
  modify (fun _ _ => rfl) fun _ => rfl

theorem assignAll : ∀ bindings : List (String × Value), Silent (Render.assignAll bindings)
  | [] => pure _
  | (name, v) :: rest => (assign name v).seq fun _ => assignAll rest

theorem assignBinding (binding : Binding) (v : Value) :
    Silent (Render.assignBinding config binding v) :=
  (ofExcept _).seq fun _ => assignAll _

theorem exportVar (name : String) (v : Value) : Silent (Render.exportVar name v) :=
  modify (fun _ _ => rfl) fun _ => rfl

theorem setAutoescape (enabled : Bool) : Silent (Render.setAutoescape enabled) :=
  modify (fun _ _ => rfl) fun _ => rfl

theorem instantiate (v : Value) : Silent (Render.instantiate v) :=
  of_forall (fun _ _ => rfl) fun _ => .of_log rfl

theorem newInstance : Silent Render.newInstance :=
  of_forall (fun _ _ => rfl) fun _ => .of_log rfl

theorem copyEnclosing : Silent Render.copyEnclosing := by
  refine (lookup _).seq fun v => ?_
  split
  · exact newInstance.seq fun _ => pure _
  · exact pure _

theorem beginIteration (scope : Scope) (binding : Binding) (context : LoopContext)
    (values : List Value) : Silent (Render.beginIteration scope binding context values) :=
  newInstance.seq fun _ => modify (fun _ _ => rfl) fun _ => rfl

theorem registerBlock (name : String) (body : Body) : Silent (Render.registerBlock name body) :=
  of_forall (fun _ _ => rfl) fun s =>
    (State.Mutes.of_log rfl).trans (.logged (s.register name body)
      (e := .notice (.registeredBlock name _)) rfl)

theorem registerBlocks (t : Template) : Silent (Render.registerBlocks t) := by
  unfold Render.registerBlocks
  induction t.blocks.entries with
  | nil => exact pure _
  | cons entry rest ih => exact (registerBlock entry.1 entry.2).seq fun _ => ih

theorem resolveBlock (name : String) (levelsUp : Nat) :
    Silent (Render.resolveBlock name levelsUp) := by
  refine (read fun _ _ => rfl).seq fun blocks => ?_
  cases blocks.resolve name levelsUp with
  | error cause => exact alike_fail _
  | ok body => exact (notify _).seq fun _ => pure _

theorem remember (name : String) (t : Template) : Silent (Render.remember name t) :=
  modify (fun _ _ => rfl) fun _ => rfl

theorem getTemplate (name : String) : Silent (Render.getTemplate config name) := by
  refine (read fun _ _ => rfl).seq fun found => ?_
  cases found with
  | some t => exact (notify _).seq fun _ => pure t
  | none =>
    refine seq ?_ fun t => (remember name t).seq fun _ => pure t
    exact (notify _).seq fun _ => (log rfl).seq fun _ => ofExcept _

theorem fetch (name : String) : Pairing.silent.Alike (Render.getTemplate config name)
    (Render.getTemplate config name) Vocabulary.full.Template :=
  (getTemplate name).mono fun t _ => Vocabulary.template_full t

theorem getOptional (name : String) (ignoreMissing : Bool) :
    Silent (Render.getOptional config name ignoreMissing) :=
  (Sound.getOptional fetch notify name ignoreMissing).any

theorem selectOptional (names : List String) (ignoreMissing : Bool) :
    Silent (Render.selectOptional config names ignoreMissing) :=
  (Sound.selectOptional fetch notify names ignoreMissing).any

theorem deriveSession (name : String) (reach : Reach) :
    Silent (Render.deriveSession config name reach) :=
  (read fun _ _ => rfl).seq fun _ => (notify _).seq fun _ => pure _

/-- The code that is captured may write whatever it likes. -/
theorem capture {m : Render Unit} (hm : Course.capturing.pairing.Alike m m fun _ => True) :
    Silent (Render.capture m) := by
  refine of_forall (fun s sink => rfl) fun s => ?_
  obtain ⟨⟨-, hmutes⟩, -⟩ := Course.of_alike hm (s := s.enterCapture) ⟨"", rfl⟩
  rw [Sound.capture_apply]
  exact (State.Mutes.of_log rfl).trans (hmutes.trans (.of_log rfl))

/-- A template that is reached silently. -/
theorem asTemplate {name : String} {reach : Reach} {m : Render α} (hm : Silent m) :
    Silent (Render.asTemplate config name reach m) := by
  refine (deriveSession name reach).seq fun session => of_forall (fun s sink => ?_) fun s => ?_
  · have hinner := hm.apply (s.enterTemplate session) sink
    rw [Action.bracket_apply, Action.bracket_apply]
    have henter : (s.withSink sink).enterTemplate session =
        (s.enterTemplate session).withSink sink := rfl
    rw [henter, hinner]
    rfl
  · have hmutes := hm.mutes (s.enterTemplate session)
    rw [Action.bracket_apply]
    exact (State.Mutes.of_log rfl).trans (hmutes.trans (.of_log rfl))

theorem importTemplate (hinvoke : Sound.Runs Course.capturing.pairing Vocabulary.full invoke)
    (name : String) : Silent (Render.importTemplate config invoke name) := by
  have hC := (sound_capturing config).pairing
  refine (read fun _ _ => rfl).seq fun resolved => (getTemplate resolved).seq fun t => ?_
  refine asTemplate ((capture ?_).seq fun body => read fun _ _ => rfl)
  exact hC.runTemplate hinvoke (Vocabulary.template_full t)

section
variable (config : Config) (depth : Nat)

theorem runs_capturing :
    Sound.Runs Course.capturing.pairing Vocabulary.full (Templating.invoke config depth) :=
  (sound_capturing config).pairing.runs (Vocabulary.closed_full config) depth

theorem evaluates :
    Pairing.silent.Evaluates Vocabulary.full config (Templating.invoke config depth) where
  autoescape {a b} hab := by
    rw [hab]
    rfl
  lookup := lookup
  instantiate _ := instantiate _
  importTemplate := importTemplate (runs_capturing config depth)

theorem eval (x : Expr) : Silent (x.eval config (Templating.invoke config depth)) :=
  ((evaluates config depth).eval (Vocabulary.closed_full config)
    (x.every_of_forall fun _ => trivial)).any

theorem evalAll (xs : List Expr) :
    Silent (Expr.evalAll config (Templating.invoke config depth) xs) :=
  ((evaluates config depth).evalAll (Vocabulary.closed_full config)
    (Expr.everyOf_of_forall (fun _ => trivial) xs)).any

theorem captureBody (loop : Option LoopContext) (body : Body) :
    Silent (Render.capture (asWhole
      (Stmt.execAll config (Templating.invoke config depth) loop body))) :=
  capture (Sound.asWhole ((sound_capturing config).execAll (Vocabulary.closed_full config)
    (Vocabulary.code_full body) depth loop))

end
end Silent
end Templating
