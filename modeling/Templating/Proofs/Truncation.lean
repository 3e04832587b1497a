import Templating.Proofs.Silence
import Templating.Proofs.Uncaught

/-!
# Streams with limited room

Next to a run into a stream that takes every chunk stands the same run into a
stream with room for so many.  As long as there is room, the two runs do the same
and differ in nothing but the room that is left.  The first chunk without room ends
the limited run, and if no code catches errors it ends all of it: no operation goes
on, and none writes again (`State.Limited`).

`Truncates` says so of an action.  It holds of silent actions, of writing, and it
goes through all the ways in which actions are put together, with one exception:
catching an error.  So it holds of all code that catches none
(`truncates_execAll`, `truncates_invoke`).
-/
namespace Templating

/-- The state with a stream that takes so many more chunks. -/
abbrev State.withRoom (s : State) (room : Nat) : State := s.withSink (.stream (some room))

/-- What a run into a stream with limited room comes to, which began in `s`, if the
run without limit logged these events. -/
inductive State.Limited {α : Type} (s : State) (events : List Event)
    (unlimited : Outcome α × State) (room : Nat) : Outcome α × State → Prop
  /-- There is room for all chunks. -/
  | fits : (chunksOf events).length ≤ room →
      Limited s events unlimited room
        (unlimited.1, unlimited.2.withRoom (room - (chunksOf events).length))
  /-- A chunk was refused, and that was the end of it. -/
  | cut {before : List Event} {chunk : String} {after : List Event} {t : State} :
      events = before ++ .output chunk :: after → (chunksOf before).length = room →
      s.Logs before t → Limited s events unlimited room (.failed .output, t)

/-- An action, begun in this state, logs these events if its stream takes every
chunk, and is cut short at the first one without room if it does not. -/
structure TruncatesAt {α : Type} (m : Render α) (s : State) (events : List Event) : Prop where
  sink : (m s).2.sink = .stream none
  logs : s.Logs events (m s).2
  limited : ∀ room, s.Limited events (m s) room (m (s.withRoom room))

section
variable {α β : Type} {s t : State} {events more : List Event}

theorem TruncatesAt.of_silent {m : Render α} (hm : Silent m) (hs : s.sink = .stream none) :
    ∃ events, TruncatesAt m s events := by
  obtain ⟨events, hlogs, hnone⟩ := hm.mutes s
  refine ⟨events, (hm.sink s).trans hs, hlogs, fun room => ?_⟩
  have hlength : (chunksOf events).length = 0 := by rw [hnone]; rfl
  have hfits : s.Limited events (m s) room _ := .fits (by omega)
  rw [hlength, Nat.sub_zero] at hfits
  rw [hm.apply]
  exact hfits

theorem truncatesAt_write (text : String) (hs : s.sink = .stream none) :
    TruncatesAt (Render.write text) s [.output text] := by
  have hwritten : Render.write text s = (.done (), s.logged (.output text)) := by
    rw [Render.write, hs]
  constructor
  · rw [hwritten]
    exact hs
  · rw [hwritten]
    exact .logged s _
  · intro room
    rw [hwritten]
    cases room with
    | zero =>
      have hnone : [Event.output text] = [] ++ .output text :: [] := rfl
      exact .cut hnone rfl (.of_log rfl)
    | succ room =>
      have hroom : 1 ≤ room + 1 := by omega
      exact .fits hroom

/-- The second of two actions has the room that the first one has left. -/
theorem TruncatesAt.after {m : Render α} {f : α → Render β} {x : α} (hm : TruncatesAt m s events)
    (hrun : m s = (.done x, t)) (hf : TruncatesAt (f x) t more) :
    TruncatesAt (m >>= f) s (events ++ more) := by
  obtain ⟨-, hlogs, hlimited⟩ := hm
  rw [hrun] at hlogs hlimited
  have hwhole : (m >>= f) s = f x t := Action.bind_of_done hrun
  have hlength : (chunksOf (events ++ more)).length =
      (chunksOf events).length + (chunksOf more).length := by
    rw [chunksOf_append, List.length_append]
  refine ⟨by rw [hwhole]; exact hf.sink, by rw [hwhole]; exact hlogs.trans hf.logs, fun room => ?_⟩
  have hfirst := hlimited room
  rw [hwhole, Action.bind_apply]
  rcases hcut : m (s.withRoom room) with ⟨outcome, u⟩
  rw [hcut] at hfirst
  cases hfirst with
  | fits hle =>
    have hsecond := hf.limited (room - (chunksOf events).length)
    dsimp only at hcut ⊢
    rcases hcut' : f x (t.withRoom (room - (chunksOf events).length)) with ⟨outcome', u'⟩
    rw [hcut'] at hsecond
    cases hsecond with
    | fits hle' =>
      rw [Nat.sub_sub, ← hlength]
      exact .fits (by omega)
    | @cut before chunk after _ hevents hcount hlogs' =>
      have hsplit : events ++ more = (events ++ before) ++ .output chunk :: after := by
        rw [hevents, List.append_assoc]
      have hroom : (chunksOf (events ++ before)).length = room := by
        rw [chunksOf_append, List.length_append]
        omega
      exact .cut hsplit hroom (hlogs.trans hlogs')
  | @cut before chunk after _ hevents hcount hlogs' =>
    have hsplit : events ++ more = before ++ .output chunk :: (after ++ more) := by
      rw [hevents, List.append_assoc, List.cons_append]
    exact .cut hsplit hcount hlogs'

/-- What comes after an action that does not end well makes no difference. -/
theorem State.Limited.ended {m : Render α} {f : α → Render β} {outcome : Outcome α}
    {outcome' : Outcome β} {room : Nat} {u : State}
    (hsame : ∀ v w, m v = (outcome, w) → (m >>= f) v = (outcome', w))
    (h : s.Limited events (outcome, t) room (m u)) :
    s.Limited events (outcome', t) room ((m >>= f) u) := by
  rcases hrun : m u with ⟨limited, v⟩
  rw [hrun] at h
  cases h with
  | fits hle =>
    rw [hsame _ _ hrun]
    exact .fits hle
  | cut hevents hcount hlogs =>
    rw [Action.bind_of_failed hrun]
    exact .cut hevents hcount hlogs

theorem TruncatesAt.ended {m : Render α} {f : α → Render β} {outcome : Outcome α}
    {outcome' : Outcome β} (hm : TruncatesAt m s events) (hrun : m s = (outcome, t))
    (hsame : ∀ v w, m v = (outcome, w) → (m >>= f) v = (outcome', w)) :
    TruncatesAt (m >>= f) s events := by
  obtain ⟨hsink, hlogs, hlimited⟩ := hm
  rw [hrun] at hsink hlogs hlimited
  constructor
  · rw [hsame _ _ hrun]
    exact hsink
  · rw [hsame _ _ hrun]
    exact hlogs
  · intro room
    rw [hsame _ _ hrun]
    exact (hlimited room).ended hsame

/-- A situation that has nothing to do with output. -/
structure LeavesOutput (enter : State → State) (leave : State → State → State) : Prop where
  enters : ∀ s sink, enter (s.withSink sink) = (enter s).withSink sink
  entered : ∀ s, (enter s).sink = s.sink ∧ (enter s).world.log = s.world.log
  leaves : ∀ s t sink sink', leave (s.withSink sink) (t.withSink sink') =
    (leave s t).withSink sink'
  left : ∀ s t, (leave s t).sink = t.sink ∧ (leave s t).world.log = t.world.log
  /-- What a situation puts back does not depend on the sink it was entered with. -/
  leaves_from : ∀ s t sink, leave (s.withSink sink) t = leave s t

namespace LeavesOutput

theorem frame : LeavesOutput State.enterFrame State.leaveFrame :=
  ⟨fun _ _ => rfl, fun _ => ⟨rfl, rfl⟩, fun _ _ _ _ => rfl, fun _ _ => ⟨rfl, rfl⟩, fun _ _ _ => rfl⟩

theorem escaping (enabled : Bool) :
    LeavesOutput (fun s => s.setAutoescape enabled) State.leaveEscaping :=
  ⟨fun _ _ => rfl, fun _ => ⟨rfl, rfl⟩, fun _ _ _ _ => rfl, fun _ _ => ⟨rfl, rfl⟩, fun _ _ _ => rfl⟩

theorem block (active : ActiveBlock) : LeavesOutput (State.enterBlock active) State.leaveBlock :=
  ⟨fun _ _ => rfl, fun _ => ⟨rfl, rfl⟩, fun _ _ _ _ => rfl, fun _ _ => ⟨rfl, rfl⟩, fun _ _ _ => rfl⟩

theorem template (config : Config) (name : String) (reach : Reach) :
    LeavesOutput (State.enterDerived config name reach) (State.leaveTemplate reach) :=
  ⟨fun _ _ => rfl, fun _ => ⟨rfl, rfl⟩, fun _ _ _ _ => rfl, fun _ _ => ⟨rfl, rfl⟩, fun _ _ _ => rfl⟩

end LeavesOutput

theorem TruncatesAt.bracket {enter : State → State} {leave : State → State → State}
    {m : Render α} (hout : LeavesOutput enter leave) (hm : TruncatesAt m (enter s) events) :
    TruncatesAt (Action.bracket enter leave m) s events := by
  obtain ⟨hsink, hlogs, hlimited⟩ := hm
  have hlogs' {u : State} {some : List Event} (h : (enter s).Logs some u) :
      s.Logs some (leave s u) := by
    have hlog : u.world.log.toList = (enter s).world.log.toList ++ some := h
    show (leave s u).world.log.toList = s.world.log.toList ++ some
    rw [(hout.left s u).2, hlog, (hout.entered s).2]
  refine ⟨(hout.left s _).1.trans hsink, hlogs' hlogs, fun room => ?_⟩
  have hinner := hlimited room
  rw [Action.bracket_apply, Action.bracket_apply, hout.leaves_from]
  have henter : enter (s.withRoom room) = (enter s).withRoom room := hout.enters s _
  rw [henter]
  rcases hrun : m ((enter s).withRoom room) with ⟨outcome, u⟩
  rw [hrun] at hinner
  cases hinner with
  | fits hle =>
    have hleave := hout.leaves s (m (enter s)).2 s.sink
      (.stream (some (room - (chunksOf events).length)))
    rw [hout.leaves_from] at hleave
    dsimp only
    rw [hleave]
    exact .fits hle
  | cut hevents hcount hcut => exact .cut hevents hcount (hlogs' hcut)

end

/-! ## Actions that are cut short -/

/-- An action is cut short wherever its stream has no more room, in sessions whose
code catches no errors. -/
def Truncates {α : Type} (m : Render α) (Q : α → Prop) : Prop :=
  ∀ s : State, s.sink = .stream none → s.session.HoldsCode .uncaught →
    (∃ events, TruncatesAt m s events) ∧ (m s).2.session.HoldsCode .uncaught ∧
      ∀ x, (m s).1 = .done x → Q x

/-- An action keeps to sessions whose code catches no errors. -/
abbrev Holding {α : Type} (m : Render α) (Q : α → Prop) : Prop :=
  (Course.holdingCode .uncaught).pairing.Alike m m Q

namespace Truncates

variable {α β : Type} {Q : α → Prop} {m : Render α}

theorem of_silent (hm : Silent m) (hcode : Holding m Q) : Truncates m Q := by
  intro s hs hheld
  obtain ⟨hcode', hQ⟩ := Course.of_alike hcode hheld
  exact ⟨TruncatesAt.of_silent hm hs, hcode', hQ⟩

theorem pure {x : α} (hx : Q x) : Truncates (pure x) Q :=
  of_silent (Silent.pure x) (Pairing.alike_pure hx)

theorem bind {f : α → Render β} {R : β → Prop} (hm : Truncates m Q)
    (hf : ∀ x, Q x → Truncates (f x) R) : Truncates (m >>= f) R := by
  intro s hs hheld
  obtain ⟨⟨events, hevents⟩, hcode, hQ⟩ := hm s hs hheld
  have hsink := hevents.sink
  rcases hrun : m s with ⟨x | error | _, t⟩
  · rw [hrun] at hcode hQ hsink
    obtain ⟨⟨more, hmore⟩, hcode', hR⟩ := hf x (hQ x rfl) t hsink hcode
    have hall := hevents.after hrun hmore
    rw [Action.bind_of_done hrun]
    exact ⟨⟨_, hall⟩, hcode', hR⟩
  · rw [hrun] at hcode
    have hall := hevents.ended (f := f) hrun fun _ _ => Action.bind_of_failed
    rw [Action.bind_of_failed hrun]
    exact ⟨⟨_, hall⟩, hcode, fun _ hx => by cases hx⟩
  · rw [hrun] at hcode
    have hall := hevents.ended (f := f) hrun fun _ _ => Action.bind_of_unfinished
    rw [Action.bind_of_unfinished hrun]
    exact ⟨⟨_, hall⟩, hcode, fun _ hx => by cases hx⟩

theorem bracket {enter : State → State} {leave : State → State → State}
    (hout : LeavesOutput enter leave)
    (hcode : (Course.holdingCode .uncaught).Brackets enter leave) (hm : Truncates m Q) :
    Truncates (Action.bracket enter leave m) Q := by
  intro s hs hheld
  obtain ⟨hin, hleave⟩ := hcode s hheld
  obtain ⟨⟨events, hevents⟩, hcode', hQ⟩ := hm (enter s) ((hout.entered s).1.trans hs) hin
  exact ⟨⟨events, hevents.bracket hout⟩, hleave _ hcode', hQ⟩

theorem write (text : String) : Truncates (Render.write text) fun _ => True := by
  intro s hs hheld
  refine ⟨⟨_, truncatesAt_write text hs⟩, ?_, fun _ _ => trivial⟩
  rw [Keeps.write_session]
  exact hheld

theorem ofExcept {e : Except RenderError α} (h : ∀ x, e = .ok x → Q x) :
    Truncates (Action.ofExcept e) Q :=
  of_silent (Silent.ofExcept e) (Pairing.alike_ofExcept h)

theorem read {f : State → α} (h : ∀ s sink, f (s.withSink sink) = f s) :
    Truncates (Action.read f) fun _ => True :=
  of_silent (Silent.read h) (Course.alike_of_forall fun _ hs => ⟨hs, fun _ _ => trivial⟩)

theorem emit (config : Config) (v : Value) :
    Truncates (Render.emit config v) fun _ => True :=
  bind (of_silent (Silent.refuseUndefined v) (Pairing.Sound.refuseUndefined v)) fun _ _ =>
    bind (read fun _ _ => rfl) fun _ _ => write _

/-! ## Iterations -/

theorem visitFrom (it : Iteration) (binding : Binding)
    {f : LoopContext → List Value → Render LoopStep}
    (hf : ∀ context values, Truncates (f context values) fun _ => True) :
    ∀ (items : List Value) (index0 : Nat),
      Truncates (it.visitFrom binding f index0 items) fun _ => True
  | [], _ => pure trivial
  | item :: rest, index0 => by
    unfold Iteration.visitFrom
    refine bind (Q := fun _ => True) (ofExcept fun _ _ => trivial) fun values _ => ?_
    refine bind (hf _ values) fun step _ => ?_
    cases step with
    | stop => exact pure trivial
    | goOn => exact visitFrom it binding hf rest (index0 + 1)

theorem beginIteration (scope : Scope) (binding : Binding) (context : LoopContext)
    (values : List Value) :
    Truncates (Render.beginIteration scope binding context values) fun _ => True :=
  of_silent (Silent.beginIteration scope binding context values)
    (Course.alike_of_forall fun _ hs => ⟨hs, fun _ _ => trivial⟩)

/-! ## Frames and loops -/

section
variable {config : Config}
variable (hloader : ∀ name t, config.loader name = .ok t → Vocabulary.uncaught.Template t)
include hloader

/-- The facts about sessions whose code catches no errors. -/
theorem held : (Course.holdingCode .uncaught).pairing.Sound .uncaught config :=
  (sound_holdingCode hloader).pairing

theorem withFrame (hm : Truncates m Q) : Truncates (Render.withFrame m) Q :=
  bracket .frame (sound_holdingCode hloader).frame hm

theorem withAutoescape (enabled : Bool) (hm : Truncates m Q) :
    Truncates (Render.withAutoescape enabled m) Q := by
  have hescaping : Vocabulary.uncaught.stmt (.escaping enabled []) := trivial
  exact bracket (.escaping enabled) ((sound_holdingCode hloader).escaping hescaping) hm

theorem forLoop (iterable : Value) (binding : Binding) {body : LoopContext → Render LoopStep}
    (hbody : ∀ context, Truncates (body context) fun _ => True) :
    Truncates (Render.forLoop config iterable binding body) fun _ => True := by
  refine bind (of_silent (Silent.refuseUndefined iterable)
    (Pairing.Sound.refuseUndefined iterable)) fun _ _ => ?_
  refine bind (of_silent Silent.copyEnclosing (held hloader).copyEnclosing) fun parent _ => ?_
  refine bind (Q := fun _ => True) (ofExcept fun _ _ => trivial) fun items _ => ?_
  refine bind (read fun _ _ => rfl) fun scope _ => bind (Q := fun _ => True) ?_ fun _ _ =>
    pure trivial
  refine withFrame hloader (visitFrom _ binding (fun context values => ?_) items 0)
  exact bind (beginIteration scope binding context values) fun _ _ => hbody context

theorem forLoopElse (iterable : Value) (binding : Binding)
    {body : LoopContext → Render LoopStep} {otherwise : Render Unit}
    (hbody : ∀ context, Truncates (body context) fun _ => True)
    (hotherwise : Truncates otherwise fun _ => True) :
    Truncates (Render.forLoopElse config iterable binding body otherwise) fun _ => True := by
  refine bind (forLoop hloader iterable binding hbody) fun visited _ => ?_
  cases visited with
  | true => exact pure trivial
  | false => exact withFrame hloader hotherwise

/-! ## Blocks and other templates -/

/-- The code that is run by a function handed in is cut short. -/
def Runs (invoke : Invoke) : Prop :=
  ∀ body, Vocabulary.uncaught.Code body → Truncates (invoke body) fun _ => True

variable {invoke : Invoke} (hinvoke : Runs invoke)
include hinvoke

theorem evaluateBlock (name : String) (levelsUp : Nat) :
    Truncates (Render.evaluateBlock invoke name levelsUp) fun _ => True := by
  refine bind (of_silent (Silent.resolveBlock name levelsUp)
    ((held hloader).resolveBlock name levelsUp)) fun body hbody => ?_
  exact bracket (.block _) ((sound_holdingCode hloader).block _) (hinvoke body hbody)

theorem evaluateBlockLevel (name : String) (level : Int) :
    Truncates (Render.evaluateBlockLevel invoke name level) fun _ => True := by
  unfold Render.evaluateBlockLevel
  split
  · exact evaluateBlock hloader hinvoke name _
  · exact of_silent (Pairing.alike_fail _) (Pairing.alike_fail _)

theorem superBlock : Truncates (Render.superBlock invoke) fun _ => True := by
  refine bind (read fun _ _ => rfl) fun active _ => ?_
  cases active with
  | some active => exact evaluateBlock hloader hinvoke active.name (active.levelsUp + 1)
  | none => exact of_silent (Pairing.alike_fail _) (Pairing.alike_fail _)

theorem runTemplate {t : Template} (ht : Vocabulary.uncaught.Template t) :
    Truncates (Render.runTemplate invoke t) fun _ => True := by
  refine bind (Q := fun _ => True) ?_ fun _ _ => hinvoke _ ht.root
  unfold Render.runSetup
  cases hsetup : t.setup with
  | some setup => exact hinvoke setup (ht.setup setup hsetup)
  | none => exact of_silent (Silent.registerBlocks t) ((held hloader).registerBlocks ht)

omit hinvoke in
theorem asTemplate (name : String) (reach : Reach) (hm : Truncates m Q) :
    Truncates (Render.asTemplate config name reach m) Q := by
  -- The session for the template is derived from the one at hand, so this is one bracket.
  have hnoted : Truncates (Action.modify fun s : State => s.logged (.notice
      (.derivingSession s.session.template name reach))) fun _ => True :=
    of_silent (Silent.noteOf (fun _ => rfl) fun _ _ => rfl)
      ((held hloader).noteOf (e := fun s => .notice (.derivingSession s.session.template name
        reach)) fun _ => rfl)
  have hbracket : Truncates (Action.bracket (State.enterDerived config name reach)
      (State.leaveTemplate reach) m) Q :=
    bracket (.template config name reach) ((sound_holdingCode hloader).template name reach) hm
  have hboth := bind hnoted fun _ _ => hbracket
  exact hboth

theorem extendTemplate (name : String) :
    Truncates (Render.extendTemplate config invoke name) fun _ => True := by
  refine bind (read fun _ _ => rfl) fun resolved _ => ?_
  refine bind (of_silent (Silent.getTemplate resolved) ((held hloader).fetch resolved))
    fun t ht => ?_
  exact asTemplate hloader resolved .extending (runTemplate hloader hinvoke ht)

theorem includeTemplate (name : String) (ignoreMissing : Bool) :
    Truncates (Render.includeTemplate config invoke name ignoreMissing) fun _ => True := by
  refine bind (read fun _ _ => rfl) fun resolved _ => ?_
  refine bind (of_silent (Silent.getOptional resolved ignoreMissing)
    (Pairing.Sound.getOptional (held hloader).fetch (held hloader).notify resolved
      ignoreMissing)) fun found hfound => ?_
  cases found with
  | some t =>
    exact asTemplate hloader resolved .including (runTemplate hloader hinvoke (hfound t rfl))
  | none => exact pure trivial

theorem includeFirstOf (names : List String) (ignoreMissing : Bool) :
    Truncates (Render.includeFirstOf config invoke names ignoreMissing) fun _ => True := by
  refine bind (read fun _ _ => rfl) fun origin _ => ?_
  refine bind (of_silent (Silent.selectOptional _ ignoreMissing)
    (Pairing.Sound.selectOptional (held hloader).fetch (held hloader).notify _
      ignoreMissing)) fun found hfound => ?_
  match found with
  | some (resolved, t) =>
    have ht := hfound resolved t rfl
    exact asTemplate hloader resolved .including (runTemplate hloader hinvoke ht)
  | none => exact pure trivial

end
end Truncates
end Templating
