import Templating.Proofs.ActiveBlock
import Templating.Proofs.ModuleExports
import Templating.Proofs.Standalone

/-!
# Filtered blocks are captured frames

The body of a filtered block runs as it would in a frame, except that its output is
held back.  The two runs are followed side by side: their states differ in the sink
and the log and in nothing else (`State.SameInside`), and they write the same chunks,
one of them to where the output goes and the other into the captured text
(`Pairing.captured`).

So the block is the frame, then the filter on the text that the frame writes, then one
chunk with the filtered text (`Render.filterThrough`, `filterThrough_of_done`).  A frame
that fails is not filtered, and nothing it has written is seen.  What the frame does to
the session is done in every case.
-/
namespace Templating

open Relation (ReflTransGen)

/-! ## The same state with its output elsewhere -/

/-- The states differ in where their output goes and in what was logged. -/
inductive State.SameInside (a : State) : State → Prop
  | elsewhere {sink log} : a.sink.TakesAll → sink.TakesAll → SameInside a (a.withOutput sink log)

/-- Two runs of the same code that write the same chunks, to different places. -/
def Pairing.elsewhere : Pairing where
  Rel a b := a.SameInside b
  To a b a' b' := a'.SameInside b' ∧ ∃ chunks, a.Wrote chunks a' ∧ b.Wrote chunks b'
  refl {a b} hab := ⟨hab, [], .refl a, .refl b⟩
  trans h h' := by
    obtain ⟨-, first, ha, hb⟩ := h
    obtain ⟨hab, second, ha', hb'⟩ := h'
    exact ⟨hab, first ++ second, ha.trans ha', hb.trans hb'⟩
  rel _ h := h.1

namespace State.SameInside

variable {a b : State}

theorem looksLike (h : a.SameInside b) : a.LooksLike b := by
  cases h
  exact ⟨fun _ => rfl, rfl, rfl, rfl, rfl, rfl, rfl, rfl⟩

/-- A change that is no matter of output is the same on both sides. -/
theorem step (h : a.SameInside b) {f : State → State}
    (hf : ∀ (s : State) sink log, f (s.withOutput sink log) = (f s).withOutput sink log)
    (hwrote : ∀ s : State, s.Wrote [] (f s)) : Pairing.elsewhere.To a b (f a) (f b) := by
  obtain @⟨sink, log, ha, hb⟩ := h
  refine ⟨?_, [], hwrote a, hwrote _⟩
  rw [hf]
  exact .elsewhere ((hwrote a).sink.takesAll ha) hb

theorem noted (h : a.SameInside b) {e e' : Event} (he : e.chunk? = none) (he' : e'.chunk? = none) :
    Pairing.elsewhere.To a b (a.logged e) (b.logged e') := by
  obtain @⟨sink, log, ha, hb⟩ := h
  exact ⟨@elsewhere (a.logged e) sink (log.push e') ha hb, [], .logged a he, .logged _ he'⟩

theorem write (h : a.SameInside b) (text : String) :
    (Render.write text a).1 = (Render.write text b).1 ∧
      Pairing.elsewhere.To a b (Render.write text a).2 (Render.write text b).2 := by
  obtain @⟨sink, log, ha, hb⟩ := h
  obtain ⟨left, history, hwrote, hrun⟩ := write_of_takesAll ha text
  obtain ⟨left', history', hwrote', hrun'⟩ :=
    @write_of_takesAll (a.withOutput sink log) hb text
  rw [hrun, hrun']
  have hsame : (a.withOutput left history).SameInside (a.withOutput left' history') :=
    @elsewhere (a.withOutput left history) _ _ (hwrote.sink.takesAll ha) (hwrote'.sink.takesAll hb)
  exact ⟨rfl, hsame, [text], hwrote, hwrote'⟩

/-- Both find the same in their caches, and load the same. -/
theorem getTemplate (h : a.SameInside b) (config : Config) (name : String) :
    (Render.getTemplate config name a).1 = (Render.getTemplate config name b).1 ∧
      Pairing.elsewhere.To a b (Render.getTemplate config name a).2
        (Render.getTemplate config name b).2 := by
  have hloading : Pairing.elsewhere.To a b (a.loading name) (b.loading name) :=
    Pairing.elsewhere.trans (h.noted rfl rfl) ((h.noted rfl rfl).1.noted rfl rfl)
  have hcache : b.session.cache = a.session.cache := by
    cases h
    rfl
  cases ha : a.session.cache.get? name with
  | some t =>
    rw [getTemplate_of_cached config ha, getTemplate_of_cached config (hcache ▸ ha)]
    exact ⟨rfl, h.noted rfl rfl⟩
  | none =>
    have hb : b.session.cache.get? name = none := hcache ▸ ha
    cases hloader : config.loader name with
    | ok t =>
      rw [getTemplate_of_loaded ha hloader, getTemplate_of_loaded hb hloader]
      have hremember := hloading.1.step (f := fun s => s.remember name t) (fun _ _ _ => rfl)
        fun _ => .nothing rfl rfl
      exact ⟨rfl, Pairing.elsewhere.trans hloading hremember⟩
    | error error =>
      rw [getTemplate_of_failed ha hloader, getTemplate_of_failed hb hloader]
      exact ⟨rfl, hloading⟩

end State.SameInside

/-- A situation that leaves the output alone is the same on both sides. -/
theorem brackets_elsewhere {enter : State → State} {leave : State → State → State}
    (henter : ∀ (s : State) sink log,
      enter (s.withOutput sink log) = (enter s).withOutput sink log)
    (hleave : ∀ (s t : State) sink log sink' log',
      leave (s.withOutput sink log) (t.withOutput sink' log') = (leave s t).withOutput sink' log')
    (hwrote : ∀ s : State, s.Wrote [] (enter s))
    (hwrote' : ∀ {s t : State} {chunks}, (enter s).Wrote chunks t → s.Wrote chunks (leave s t)) :
    Pairing.elsewhere.Brackets enter leave := by
  rintro a b hab
  refine ⟨(hab.step henter hwrote).1, ?_⟩
  rintro a' b' ⟨hab', chunks, ha, hb⟩
  refine ⟨?_, chunks, hwrote' ha, hwrote' hb⟩
  obtain @⟨sink, log, htakes, -⟩ := hab
  obtain @⟨sink', log', -, htakes'⟩ := hab'
  rw [hleave]
  exact .elsewhere ((hwrote' ha).sink.takesAll htakes) htakes'

/-- Every elementary change is the same on both sides, and writes the same. -/
theorem sound_elsewhere (config : Config) : Pairing.elsewhere.Sound Vocabulary.full config where
  looks hab := hab.looksLike
  looked _ _ := trivial
  exported _ _ _ := trivial
  defined _ _ _ _ _ := Vocabulary.code_full _
  fetch name a b hab :=
    have ⟨hout, hto⟩ := hab.getTemplate config name
    ⟨hout, hto, fun t _ => Vocabulary.template_full t⟩
  note hab _ he := hab.noted (he _) (he _)
  write {text} _ a b hab :=
    have ⟨hout, hto⟩ := hab.write text
    ⟨hout, hto, fun _ _ => trivial⟩
  emitted _ _ _ := trivial
  count hab next :=
    hab.step (f := fun s => s.withNextInstance next) (fun _ _ _ => rfl) fun _ => .nothing rfl rfl
  assign hab v _ name :=
    hab.step (f := fun s => s.assign name v) (fun _ _ _ => rfl) fun _ => .nothing rfl rfl
  exportVar hab v _ name :=
    hab.step (f := fun s => s.exportVar name v) (fun _ _ _ => rfl) fun _ => .nothing rfl rfl
  setEscaping hab enabled _ :=
    hab.step (f := fun s => s.setAutoescape enabled) (fun _ _ _ => rfl) fun _ => .nothing rfl rfl
  register hab body _ name :=
    hab.step (f := fun s => s.register name body) (fun _ _ _ => rfl) fun _ => .nothing rfl rfl
  rebind {a₀ b₀ a b} hab₀ hab bindings _ := by
    have hscope : b₀.scope = a₀.scope := by
      cases hab₀
      rfl
    rw [hscope]
    exact hab.step (f := fun s => s.rebind a₀.scope bindings) (fun _ _ _ => rfl)
      fun _ => .nothing rfl rfl
  frame := brackets_elsewhere (fun _ _ _ => rfl) (fun _ _ _ _ _ _ => rfl)
    (fun _ => .nothing rfl rfl) fun h => h
  escaping _ := brackets_elsewhere (fun _ _ _ => rfl) (fun _ _ _ _ _ _ => rfl)
    (fun _ => .nothing rfl rfl) fun h => h
  block _ := brackets_elsewhere (fun _ _ _ => rfl) (fun _ _ _ _ _ _ => rfl)
    (fun _ => .nothing rfl rfl) fun h => h
  template _ _ := brackets_elsewhere (fun _ _ _ => rfl) (fun _ _ _ _ _ _ => rfl)
    (fun _ => .nothing rfl rfl) fun h => h
  capture a b hab := by
    obtain @⟨sink, log, ha, hb⟩ := hab
    refine ⟨@State.SameInside.elsewhere a.enterCapture (.buffer "") log trivial trivial, ?_⟩
    rintro a' b' ⟨hab', chunks, hwrote, hwrote'⟩
    obtain @⟨sink', log', -, -⟩ := hab'
    -- The chunks were captured on both sides, so they are written on neither.
    exact ⟨@State.SameInside.elsewhere (State.leaveCapture a a') sink log' ha hb, [],
      hwrote.leaveCapture, hwrote'.leaveCapture⟩
  captured _ _ _ h := by
    obtain ⟨-, chunks, ha, hb⟩ := h
    exact ⟨ha.captured.trans hb.captured.symm, trivial⟩

/-! ## The two runs of a body -/

/-- What was written is told by the two states, however it was cut into chunks. -/
theorem State.Wrote.join_eq {s t : State} {chunks more : List String} (h : s.Wrote chunks t)
    (h' : s.Wrote more t) : String.join chunks = String.join more := by
  obtain ⟨session, scope, frames, block, sink, world⟩ := s
  rcases sink with room | text
  · have hlog : world.chunks ++ chunks = world.chunks ++ more := h.log.symm.trans h'.log
    rw [List.append_cancel_left hlog]
  · have hsink : Sink.buffer (text ++ String.join chunks) = .buffer (text ++ String.join more) :=
      h.sink.symm.trans h'.sink
    have htext := congrArg String.toList (Sink.buffer.inj hsink)
    rw [String.toList_append, String.toList_append] at htext
    exact String.toList_injective (List.append_cancel_left htext)

/-- A body that host code hands to a frame or to a filtered block. -/
abbrev wholeBody (config : Config) (depth : Nat) (loop : Option LoopContext) (body : Body) :
    Render Unit :=
  asWhole (Stmt.execAll config (invoke config depth) loop body)

/-- Captured in a frame, a body comes to what it comes to in the frame, but its output
is yielded and not written. -/
theorem withFrame_capture {config : Config} {depth : Nat} {loop : Option LoopContext}
    {body : Body} {s t : State} {outcome : Outcome Unit} (hs : s.sink.TakesAll)
    (h : Render.withFrame (wholeBody config depth loop body) s = (outcome, t)) :
    ∃ chunks log, s.Wrote chunks t ∧ s.Wrote [] (t.withOutput s.sink log) ∧
      Render.withFrame (Render.capture (wholeBody config depth loop body)) s =
        (outcome.map fun _ => String.join chunks, t.withOutput s.sink log) := by
  have hC := sound_elsewhere config
  have hV := Vocabulary.closed_full config
  have hcode := Pairing.Sound.asWhole
    (hC.execAll hV (hC.runs hV depth) (Vocabulary.code_full body) loop)
  have hbegun : s.enterFrame.SameInside s.enterFrame.enterCapture :=
    @State.SameInside.elsewhere s.enterFrame (.buffer "") s.world.log hs trivial
  obtain ⟨hout, ⟨hsame, chunks, hwrote, hheld⟩, -⟩ := hcode _ _ hbegun
  rw [Render.withFrame, Action.bracket_apply] at h
  cases h
  rw [Render.withFrame, Action.bracket_apply, Pairing.Sound.capture_apply, hheld.captured, ← hout]
  have hleft := hheld.leaveCapture
  generalize (wholeBody config depth loop body s.enterFrame.enterCapture).2 = held at hsame hleft ⊢
  obtain @⟨sink, log, -, -⟩ := hsame
  exact ⟨chunks, log, hwrote, hleft, rfl⟩

namespace Render

/-- Capture what an action writes, hand it to a call as markup and write the text of
what that yields. -/
def filterThrough (call : Value → Render Value) (m : Render Unit) : Render Unit := do
  let captured ← withFrame (capture m)
  let filtered ← call (.markup ⟨captured⟩)
  write filtered.toText

theorem filterBlock_eq (config : Config) (filter : String) (arguments : List Value)
    (m : Render Unit) :
    filterBlock config filter arguments m =
      filterThrough (fun v => Action.ofExcept (config.callFilter filter v arguments)) m := rfl

end Render

section
variable {config : Config} {depth : Nat} {loop : Option LoopContext} {body : Body} {s t : State}

/-- After a frame that ends well its text is filtered and written, once. -/
theorem filterThrough_of_done (hs : s.sink.TakesAll)
    (h : Render.withFrame (wholeBody config depth loop body) s = (.done (), t)) :
    ∃ chunks log, s.Wrote chunks t ∧ s.Wrote [] (t.withOutput s.sink log) ∧
      ∀ call, Render.filterThrough call (wholeBody config depth loop body) s =
        (do
          let filtered ← call (.markup ⟨String.join chunks⟩)
          Render.write filtered.toText) (t.withOutput s.sink log) := by
  obtain ⟨chunks, log, hwrote, hheld, hcapture⟩ := withFrame_capture hs h
  refine ⟨chunks, log, hwrote, hheld, fun call => ?_⟩
  rw [Render.filterThrough, Action.bind_of_done hcapture]

/-- After a frame that does not, nothing is filtered and nothing written. -/
theorem filterThrough_of_stopped (hs : s.sink.TakesAll) {outcome : Outcome Unit}
    (h : Render.withFrame (wholeBody config depth loop body) s = (outcome, t))
    (hstopped : outcome ≠ .done ()) :
    ∃ log, s.Wrote [] (t.withOutput s.sink log) ∧
      ∀ call, Render.filterThrough call (wholeBody config depth loop body) s =
        (outcome, t.withOutput s.sink log) := by
  obtain ⟨chunks, log, -, hheld, hcapture⟩ := withFrame_capture hs h
  refine ⟨log, hheld, fun call => ?_⟩
  cases outcome with
  | done _ => exact absurd rfl hstopped
  | failed error => rw [Render.filterThrough, Action.bind_of_failed hcapture]
  | unfinished => rw [Render.filterThrough, Action.bind_of_unfinished hcapture]

variable {filter : String} {arguments : List Value} {chunks : List String}

/-- What the filter yields is written as one chunk. -/
theorem filterBlock_of_ok (hs : s.sink.TakesAll)
    (h : Render.withFrame (wholeBody config depth loop body) s = (.done (), t))
    (hwrote : s.Wrote chunks t) {v : Value}
    (hv : config.callFilter filter (.markup ⟨String.join chunks⟩) arguments = .ok v) :
    ∃ sink log, s.Wrote [v.toText] (t.withOutput sink log) ∧
      Render.filterBlock config filter arguments (wholeBody config depth loop body) s =
        (.done (), t.withOutput sink log) := by
  obtain ⟨same, held, hsame, hheld, hcall⟩ := filterThrough_of_done hs h
  rw [hwrote.join_eq hsame] at hv
  obtain ⟨sink, log, hwritten, hrun⟩ :=
    write_of_takesAll (s := t.withOutput s.sink held) hs v.toText
  refine ⟨sink, log, hheld.trans hwritten, ?_⟩
  rw [Render.filterBlock_eq, hcall, hv, Action.bind_of_done (Action.ofExcept_of_ok rfl _)]
  exact hrun

/-- A filter that fails, or that there is none of, ends the block. -/
theorem filterBlock_of_error (hs : s.sink.TakesAll)
    (h : Render.withFrame (wholeBody config depth loop body) s = (.done (), t))
    (hwrote : s.Wrote chunks t) {error : RenderError}
    (herror : config.callFilter filter (.markup ⟨String.join chunks⟩) arguments = .error error) :
    ∃ log, s.Wrote [] (t.withOutput s.sink log) ∧
      Render.filterBlock config filter arguments (wholeBody config depth loop body) s =
        (.failed error, t.withOutput s.sink log) := by
  obtain ⟨same, log, hsame, hheld, hcall⟩ := filterThrough_of_done hs h
  rw [hwrote.join_eq hsame] at herror
  refine ⟨log, hheld, ?_⟩
  rw [Render.filterBlock_eq, hcall, herror]
  rfl

/-- However it ends, the block leaves what the frame leaves but for the output. -/
theorem filterBlock_state (hs : s.sink.TakesAll) (filter : String) (arguments : List Value) :
    ∃ sink log,
      (Render.filterBlock config filter arguments (wholeBody config depth loop body) s).2 =
        (Render.withFrame (wholeBody config depth loop body) s).2.withOutput sink log := by
  rcases h : Render.withFrame (wholeBody config depth loop body) s with ⟨outcome, t⟩
  by_cases hdone : outcome = .done ()
  · subst hdone
    obtain ⟨chunks, -, hwrote, -⟩ := filterThrough_of_done hs h
    cases hfilter : config.callFilter filter (.markup ⟨String.join chunks⟩) arguments with
    | ok v =>
      obtain ⟨sink, log, -, hrun⟩ := filterBlock_of_ok hs h hwrote hfilter
      exact ⟨sink, log, congrArg Prod.snd hrun⟩
    | error error =>
      obtain ⟨log, -, hrun⟩ := filterBlock_of_error hs h hwrote hfilter
      exact ⟨s.sink, log, congrArg Prod.snd hrun⟩
  · obtain ⟨log, -, hrun⟩ := filterThrough_of_stopped hs h hdone
    refine ⟨s.sink, log, ?_⟩
    rw [Render.filterBlock_eq, hrun]

/-- What the block exports was exported explicitly. -/
theorem exports_filterBlock (hs : s.sink.TakesAll) (filter : String) (arguments : List Value) :
    let recordings := Stmt.recordingsAll config (invoke config depth)
      (Body.recordings config depth false) false loop body s.enterFrame
    (∀ r ∈ recordings, r.assigned = false) ∧
      (Render.filterBlock config filter arguments
        (wholeBody config depth loop body) s).2.session.exports =
          s.session.exports.insertAll (recordings.map Recording.entry) := by
  intro recordings
  have hrecords : Render.Records false (wholeBody config depth loop body) _ :=
    .asWhole (Stmt.recordsAll (Body.records config depth false) body false loop)
  have hgained := hrecords s.enterFrame rfl
  refine ⟨hgained.explicit rfl, Eq.trans ?_ hgained.exports⟩
  obtain ⟨sink, log, hstate⟩ := filterBlock_state hs filter arguments
  rw [hstate]
  rfl

/-! ## Inside the block -/

/-- The moments of the body are in the definition in which the block stands, and in its
session. -/
theorem goesOn_filtered {m : Moment} (h : ReflTransGen (Moment.Leads config)
    ⟨depth, .code loop body, s.enterFrame.enterCapture⟩ m) : s.GoesOn m.state := by
  induction h with
  | refl => exact ⟨rfl, .refl s.session⟩
  | tail _ hleads ih => exact ih.trans hleads.goesOn

/-- The definition that the running one overrides is run. -/
theorem superBlock_of_resolve {active : ActiveBlock} {definition : Body}
    (hblock : s.block = some active)
    (h : s.session.blocks.resolve active.name (active.levelsUp + 1) = .ok definition)
    (invoke : Invoke) :
    Render.superBlock invoke s =
      Action.bracket (State.enterBlock ⟨active.name, active.levelsUp + 1⟩) State.leaveBlock
        (invoke definition) (s.logged (.notice (.resolvedBlock active.name (active.levelsUp + 1)
          (s.session.blocks.depth active.name)))) := by
  rw [superBlock_of_block hblock, evaluateBlock_of_ok h]

end

/-! ## The law -/

/-- What a filtered block is, next to the same body in a frame. -/
structure FilteredFrame (config : Config) (depth : Nat) (loop : Option LoopContext) (body : Body)
    (s : State) : Prop where
  /-- The block hands what it captures to its filter, and nothing else to anything. -/
  through : ∀ filter arguments,
    Render.filterBlock config filter arguments (wholeBody config depth loop body) =
      Render.filterThrough (fun v => Action.ofExcept (config.callFilter filter v arguments))
        (wholeBody config depth loop body)
  /-- If the frame ends well, then whatever is called is called with the text that the
  frame has written, once, before anything is written, and in the state that the frame
  has left but for the output. -/
  done : ∀ {t}, Render.withFrame (wholeBody config depth loop body) s = (.done (), t) →
    ∃ chunks log, s.Wrote chunks t ∧ s.Wrote [] (t.withOutput s.sink log) ∧
      ∀ call, Render.filterThrough call (wholeBody config depth loop body) s =
        (do
          let filtered ← call (.markup ⟨String.join chunks⟩)
          Render.write filtered.toText) (t.withOutput s.sink log)
  /-- If it fails, the block fails with its error, writes nothing and calls nothing; so
  it is if the frame does not end. -/
  stopped : ∀ {outcome t},
    Render.withFrame (wholeBody config depth loop body) s = (outcome, t) → outcome ≠ .done () →
      ∃ log, s.Wrote [] (t.withOutput s.sink log) ∧
        ∀ call, Render.filterThrough call (wholeBody config depth loop body) s =
          (outcome, t.withOutput s.sink log)
  /-- The text of what the filter yields is the one chunk that the block writes. -/
  filtered : ∀ {t chunks filter arguments v},
    Render.withFrame (wholeBody config depth loop body) s = (.done (), t) → s.Wrote chunks t →
    config.callFilter filter (.markup ⟨String.join chunks⟩) arguments = .ok v →
      ∃ sink log, s.Wrote [v.toText] (t.withOutput sink log) ∧
        Render.filterBlock config filter arguments (wholeBody config depth loop body) s =
          (.done (), t.withOutput sink log)
  /-- A filter that fails ends the block with its error, and nothing is written. -/
  refused : ∀ {t chunks filter arguments error},
    Render.withFrame (wholeBody config depth loop body) s = (.done (), t) → s.Wrote chunks t →
    config.callFilter filter (.markup ⟨String.join chunks⟩) arguments = .error error →
      ∃ log, s.Wrote [] (t.withOutput s.sink log) ∧
        Render.filterBlock config filter arguments (wholeBody config depth loop body) s =
          (.failed error, t.withOutput s.sink log)
  /-- So does the name of no filter. -/
  unknown : ∀ {t filter arguments},
    Render.withFrame (wholeBody config depth loop body) s = (.done (), t) →
    config.filters.get? filter = none →
      ∃ log, s.Wrote [] (t.withOutput s.sink log) ∧
        Render.filterBlock config filter arguments (wholeBody config depth loop body) s =
          (.failed (.lookup (.unknownFilter filter config.filters.names)),
            t.withOutput s.sink log)
  /-- However the block ends, its session is the one that the frame leaves. -/
  session : ∀ filter arguments,
    (Render.filterBlock config filter arguments (wholeBody config depth loop body) s).2.session =
      (Render.withFrame (wholeBody config depth loop body) s).2.session
  /-- What is assigned inside is not bound afterwards, -/
  scope : ∀ filter arguments,
    (Render.filterBlock config filter arguments (wholeBody config depth loop body) s).2.scope =
      s.scope
  /-- and not exported: all that the block adds to the exports was recorded explicitly. -/
  exports : ∀ filter arguments,
    let recordings := Stmt.recordingsAll config (invoke config depth)
      (Body.recordings config depth false) false loop body s.enterFrame
    (∀ r ∈ recordings, r.assigned = false) ∧
      (Render.filterBlock config filter arguments
        (wholeBody config depth loop body) s).2.session.exports =
          s.session.exports.insertAll (recordings.map Recording.entry)
  /-- At every moment of the body the running definition is the one outside. -/
  block : ∀ {m}, ReflTransGen (Moment.Leads config)
    ⟨depth, .code loop body, s.enterFrame.enterCapture⟩ m → m.state.block = s.block
  /-- So what it overrides is the same inside and outside, whatever was registered in
  between. -/
  superBlock : ∀ {m}, ReflTransGen (Moment.Leads config)
    ⟨depth, .code loop body, s.enterFrame.enterCapture⟩ m →
    ∀ {active definition}, s.block = some active →
    s.session.blocks.resolve active.name (active.levelsUp + 1) = .ok definition →
    ∀ u ∈ [s, m.state], ∀ invoke, Render.superBlock invoke u =
      Action.bracket (State.enterBlock ⟨active.name, active.levelsUp + 1⟩) State.leaveBlock
        (invoke definition) (u.logged (.notice (.resolvedBlock active.name (active.levelsUp + 1)
          (u.session.blocks.depth active.name))))
  /-- A filter that gives every text back makes the block write what the frame writes. -/
  identity : ∀ {t chunks filter arguments},
    Render.withFrame (wholeBody config depth loop body) s = (.done (), t) → s.Wrote chunks t →
    (∀ text, ∃ v, config.callFilter filter (.markup ⟨text⟩) arguments = .ok v ∧
      v.toText = text) →
      ∃ sink log, s.Wrote [String.join chunks] (t.withOutput sink log) ∧
        Render.filterBlock config filter arguments (wholeBody config depth loop body) s =
          (.done (), t.withOutput sink log)

/-- A filtered block is a captured frame, if its output goes where every chunk is
taken. -/
theorem filteredFrame (config : Config) (depth : Nat) (loop : Option LoopContext) (body : Body)
    {s : State} (hs : s.sink.TakesAll) : FilteredFrame config depth loop body s where
  through _ _ := rfl
  done := filterThrough_of_done hs
  stopped h hstopped := filterThrough_of_stopped hs h hstopped
  filtered h hwrote hv := filterBlock_of_ok hs h hwrote hv
  refused h hwrote herror := filterBlock_of_error hs h hwrote herror
  unknown {t filter arguments} h hnone := by
    obtain ⟨chunks, -, hwrote, -⟩ := filterThrough_of_done hs h
    refine filterBlock_of_error hs h hwrote ?_
    rw [Config.callFilter, hnone]
  session filter arguments := by
    obtain ⟨sink, log, hstate⟩ := filterBlock_state hs filter arguments
    rw [hstate]
    rfl
  scope filter arguments := (Keeps.filterBlock_scope filter arguments _).apply s
  exports := exports_filterBlock hs
  block h := (goesOn_filtered h).block
  superBlock {m} h {active definition} hblock hresolve u hu invoke := by
    have hinside := goesOn_filtered h
    rcases List.mem_cons.mp hu with rfl | hu
    · exact superBlock_of_resolve hblock hresolve invoke
    · rw [List.mem_singleton.mp hu]
      exact superBlock_of_resolve (hinside.block.trans hblock)
        (hinside.session.grows.resolve hresolve) invoke
  identity {t chunks filter arguments} h hwrote hidentity := by
    obtain ⟨v, hv, htext⟩ := hidentity (String.join chunks)
    have hblock := filterBlock_of_ok hs h hwrote hv
    rwa [htext] at hblock

namespace Bracketing

/-- A filter that puts a text in brackets. -/
def config : Config :=
  { Config.basic with
    filters := Table.ofList [("brackets", fun v _ => .ok (.text ("[" ++ v.toText ++ "]")))] }

def body : Body := [.write "a", .assign "x" (.literal (.text "b")), .emit (.var "x")]

def page : State :=
  .start (Session.start config (some "page")) (Scope.ofList []) (.stream none) (World.begin 0)

/-- The two chunks of the frame are filtered together and become one. -/
theorem brackets_once : page.sink.TakesAll ∧ ∃ sink log,
    page.Wrote ["[ab]"] ((Render.withFrame (wholeBody config 0 none body) page).2.withOutput
      sink log) ∧
    Render.filterBlock config "brackets" [] (wholeBody config 0 none body) page =
      (.done (), (Render.withFrame (wholeBody config 0 none body) page).2.withOutput
        sink log) := by
  have htakes : page.sink.TakesAll := trivial
  have hwrote : page.Wrote ["a", "b"]
      (Render.withFrame (wholeBody config 0 none body) page).2 := ⟨rfl, rfl⟩
  have hbrackets : config.callFilter "brackets" (.markup ⟨String.join ["a", "b"]⟩) [] =
      .ok (.text "[ab]") := rfl
  exact ⟨htakes, (filteredFrame config 0 none body htakes).filtered rfl hwrote hbrackets⟩

end Bracketing

end Templating
