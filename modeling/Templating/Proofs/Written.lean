import Templating.Render.Output

/-!
# What is written

Output is a sequence of chunks.  Between two states of a render certain chunks
were written (`State.Wrote`): a stream has them in the log and has so much less
room for others, a captured text has them at its end.  Whatever leaves the sink
alone and logs no output writes nothing; stretches of a render follow each other
as their chunks do.
-/
namespace Templating

/-- The chunks that were written to the stream. -/
def World.chunks (w : World) : List String := w.log.toList.filterMap Event.chunk?

namespace Sink

/-- Whether the sink takes every chunk. -/
def TakesAll : Sink → Prop
  | stream none => True
  | stream (some _) => False
  | buffer _ => True

/-- What has become of a sink that has taken these chunks. -/
def Took : Sink → List String → Sink → Prop
  | stream none, _, t => t = stream none
  | stream (some room), chunks, t => ∃ left, room = chunks.length + left ∧ t = stream (some left)
  | buffer text, chunks, t => t = buffer (text ++ String.join chunks)

/-- What a sink that takes these chunks leaves in the log. -/
def streamed : Sink → List String → List String
  | stream _, chunks => chunks
  | buffer _, _ => []

variable {s t u : Sink} {chunks more : List String}

theorem took_nil (s : Sink) : s.Took [] s := by
  rcases s with (_ | room) | text
  · rfl
  · exact ⟨room, (Nat.zero_add room).symm, rfl⟩
  · rw [Took, String.join_nil, String.append_empty]

theorem Took.trans (h : s.Took chunks t) (h' : t.Took more u) : s.Took (chunks ++ more) u := by
  rcases s with (_ | room) | text
  · cases h
    exact h'
  · obtain ⟨left, hroom, rfl⟩ := h
    obtain ⟨left', hleft, rfl⟩ := h'
    refine ⟨left', ?_, rfl⟩
    rw [List.length_append]
    omega
  · cases h
    rw [Took] at h' ⊢
    rw [h', String.join_append, String.append_assoc]

theorem Took.streamed (h : s.Took chunks t) : t.streamed = s.streamed := by
  rcases s with (_ | room) | text
  · cases h
    rfl
  · obtain ⟨left, -, rfl⟩ := h
    rfl
  · cases h
    rfl

theorem streamed_append (s : Sink) (chunks more : List String) :
    s.streamed (chunks ++ more) = s.streamed chunks ++ s.streamed more := by
  cases s <;> rfl

end Sink

/-- These chunks were written between two states. -/
def State.Wrote (s : State) (chunks : List String) (t : State) : Prop :=
  s.sink.Took chunks t.sink ∧ t.world.chunks = s.world.chunks ++ s.sink.streamed chunks

theorem World.chunks_push (w : World) (e : Event) (next : InstanceId) :
    World.chunks ⟨w.log.push e, next⟩ = w.chunks ++ e.chunk?.toList := by
  rw [World.chunks, World.chunks, Array.toList_push, List.filterMap_append]
  rfl

namespace State.Wrote

variable {s t u : State} {chunks more : List String}

theorem sink (h : s.Wrote chunks t) : s.sink.Took chunks t.sink := h.1

theorem log (h : s.Wrote chunks t) :
    t.world.chunks = s.world.chunks ++ s.sink.streamed chunks := h.2

/-- What leaves the sink alone and logs no chunk writes nothing. -/
theorem nothing (hsink : t.sink = s.sink) (hlog : t.world.chunks = s.world.chunks) :
    s.Wrote [] t := by
  refine ⟨hsink ▸ s.sink.took_nil, ?_⟩
  rw [hlog]
  cases s.sink <;> exact (List.append_nil _).symm

theorem refl (s : State) : s.Wrote [] s := nothing rfl rfl

theorem trans (h : s.Wrote chunks t) (h' : t.Wrote more u) : s.Wrote (chunks ++ more) u := by
  refine ⟨h.sink.trans h'.sink, ?_⟩
  rw [h'.log, h.log, h.sink.streamed, Sink.streamed_append, List.append_assoc]

theorem logged (s : State) {e : Event} (he : e.chunk? = none) : s.Wrote [] (s.logged e) := by
  refine nothing rfl ?_
  rw [State.logged, World.chunks_push, he]
  exact List.append_nil _

/-- What was captured meanwhile goes nowhere. -/
theorem leaveCapture (h : s.enterCapture.Wrote chunks t) :
    s.Wrote [] (State.leaveCapture s t) := by
  have hlog : t.world.chunks = s.world.chunks ++ [] := h.log
  exact nothing rfl (hlog.trans (List.append_nil _))

/-- What was captured is the chunks put together. -/
theorem captured (h : s.enterCapture.Wrote chunks t) : t.captured = String.join chunks := by
  have hsink : t.sink = .buffer ("" ++ String.join chunks) := h.sink
  rw [State.captured, hsink]
  exact String.empty_append

end State.Wrote

/-- The state with another sink and another log. -/
def State.withOutput (s : State) (sink : Sink) (log : Array Event) : State :=
  { s with sink := sink, world := { s.world with log := log } }

/-- A chunk is written, or the stream has no room for it. -/
theorem write_cases (text : String) (s : State) :
    (∃ sink log, s.Wrote [text] (s.withOutput sink log) ∧
      Render.write text s = (.done (), s.withOutput sink log)) ∨
    s.sink = .stream (some 0) ∧ Render.write text s = (.failed .output, s) := by
  obtain ⟨session, scope, frames, block, sink, world⟩ := s
  have hpush := World.chunks_push world (.output text) world.nextInstance
  rcases sink with (_ | _ | room) | captured
  · exact .inl ⟨.stream none, world.log.push (.output text), ⟨rfl, hpush⟩, rfl⟩
  · exact .inr ⟨rfl, rfl⟩
  · refine .inl ⟨.stream (some room), world.log.push (.output text), ⟨?_, hpush⟩, rfl⟩
    exact ⟨room, Nat.add_comm room 1, rfl⟩
  · refine .inl ⟨.buffer (captured ++ text), world.log, ⟨?_, (List.append_nil _).symm⟩, rfl⟩
    show Sink.buffer (captured ++ text) = .buffer (captured ++ String.join [text])
    rw [String.join_cons, String.join_nil, String.append_empty]

theorem Sink.Took.takesAll {s t : Sink} {chunks : List String} (h : s.Took chunks t)
    (hs : s.TakesAll) : t.TakesAll := by
  rcases s with (_ | room) | text
  · cases h
    trivial
  · exact hs.elim
  · cases h
    trivial

/-- A sink that takes every chunk takes this one. -/
theorem write_of_takesAll {s : State} (h : s.sink.TakesAll) (text : String) :
    ∃ sink log, s.Wrote [text] (s.withOutput sink log) ∧
      Render.write text s = (.done (), s.withOutput sink log) := by
  rcases write_cases text s with hwritten | ⟨hfull, -⟩
  · exact hwritten
  · rw [hfull] at h
    exact h.elim

end Templating
