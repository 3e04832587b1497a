import Templating.Proofs.Keeping
import Templating.Proofs.Moment

/-!
# The states that renders come to

A host makes sessions, derives others from them, and uses them: it fetches
templates, renders, or runs code of its own in them.  `Session.Used` are the
sessions this leads to.  A render begins in such a session, with any scope, sink
and world; the states of its moments are the reachable ones (`State.Reachable`).

What holds of new sessions and is preserved by code holds of all of them.  The
fact proved here is about the cache: what is cached under a name is what the
loader has under that name (`State.Reachable.faithful`).
-/
namespace Templating

/-- The sessions a host can have. -/
inductive Session.Used (config : Config) : Session → Prop
  | started (template : Option String) : Used config (Session.start config template)
  | derived {s : Session} (name : String) (reach : Reach) :
      Used config s → Used config (s.derive config name reach)
  /-- What two sessions share has been used in the other one. -/
  | shared {s t : Session} (reach : Reach) :
      Used config s → Used config t → Used config (s.rejoin reach t)
  /-- A template was fetched. -/
  | fetched {s : Session} (name : String) (scope : Scope) (sink : Sink) (world : World) :
      Used config s →
      Used config (Render.getTemplate config name (.start s scope sink world)).2.session
  /-- Code has run in it, to whatever end. -/
  | ran {s : Session} (depth : Nat) (body : Body) (scope : Scope) (sink : Sink) (world : World) :
      Used config s →
      Used config (Stmt.execAll config (invoke config depth) none body
        (.start s scope sink world)).2.session
  /-- A template has been rendered in it, to whatever end. -/
  | rendered {s : Session} (depth : Nat) (t : Template) (context : Context) (sink : Sink)
      (world : World) : Used config s →
      Used config (config.evaluateTemplate depth t context sink (some s) world).2.session

/-- The moments of renders. -/
inductive Moment.Reached (config : Config) : Moment → Prop
  /-- The render of a template begins. -/
  | template {s : Session} {depth : Nat} {t : Template} {context : Context} {sink : Sink}
      {world : World} {m : Moment} : s.Used config →
      Moment.Starts config depth t (.begin config t context sink (some s) world) m →
      Reached config m
  /-- A host runs code of its own. -/
  | code {s : Session} {depth : Nat} {body : Body} {scope : Scope} {sink : Sink} {world : World} :
      s.Used config → Reached config ⟨depth, .code none body, .start s scope sink world⟩
  | step {m m' : Moment} : Reached config m → Moment.Step config m m' → Reached config m'

/-- The states of the moments of renders. -/
def State.Reachable (config : Config) (s : State) : Prop :=
  ∃ m : Moment, m.Reached config ∧ m.state = s

/-! ## The cache -/

/-- What is cached under a name is what the loader has under that name. -/
def Session.Faithful (config : Config) (s : Session) : Prop :=
  ∀ name t, s.cache.get? name = some t → config.loader name = .ok t

theorem Session.Faithful.remember {config : Config} {s : Session} (h : s.Faithful config)
    {name : String} {t : Template} (ht : config.loader name = .ok t) :
    { s with cache := s.cache.insert name t }.Faithful config :=
  Table.forall_get?_insert h ht

/-- The course of a run that loads what the loader has. -/
def Course.faithful (config : Config) : Course where
  Inv s := s.session.Faithful config
  To _ t := t.session.Faithful config
  refl h := h
  trans _ h := h
  inv _ h := h

/-- The step lemma: only fetching changes the cache. -/
theorem sound_faithful (config : Config) :
    (Course.faithful config).Sound Vocabulary.full config where
  looked _ _ := trivial
  exported _ _ _ := trivial
  defined _ _ _ _ _ := Vocabulary.code_full _
  cached _ _ _ _ := Vocabulary.template_full _
  loaded _ := Vocabulary.template_full _
  remember hs _ _ _ ht := hs.remember ht
  note hs _ _ := hs
  write {s} hs text _ :=
    (congrArg (Session.Faithful config) (Keeps.write_session text s)).mpr hs
  emitted _ _ _ := trivial
  count hs _ := hs
  assign {s} hs v _ name := by
    show (s.assign name v).session.Faithful config
    unfold State.assign
    split <;> exact hs
  exportVar hs _ _ _ := hs
  setEscaping hs _ _ := hs
  register hs _ _ _ := hs
  rebind _ hs _ _ := hs
  frame _ hs := ⟨hs, fun _ ht => ht⟩
  escaping _ _ hs := ⟨hs, fun _ ht => ht⟩
  block _ _ hs := ⟨hs, fun _ ht => ht⟩
  template _ _ _ hs := ⟨hs, fun _ ht => ht⟩
  capture _ hs := ⟨hs, fun _ ht => ht⟩
  captured _ _ _ := trivial

/-- The run lemma: no session a host can have is unfaithful. -/
theorem Session.Used.faithful {config : Config} {s : Session} (h : s.Used config) :
    s.Faithful config := by
  have hC := sound_faithful config
  have hV := Vocabulary.closed_full config
  induction h with
  | started _ =>
    intro name t ht
    cases ht
  | derived _ _ _ ih => exact ih
  | shared _ _ _ _ ih => exact ih
  | @fetched s name scope sink world _ ih =>
    exact (Course.of_alike (hC.fetch name) (s := .start s scope sink world) ih).1
  | @ran s depth body scope sink world _ ih =>
    exact (Course.of_alike (hC.execAll hV (Vocabulary.code_full body) depth none)
      (s := .start s scope sink world) ih).1
  | @rendered s depth t context sink world _ ih =>
    have hbegun : (Course.faithful config).Inv (.begin config t context sink (some s) world) := ih
    exact hC.evaluateTemplate hV (Vocabulary.template_full t) depth hbegun

/-- Every reachable state is faithful to the loader. -/
theorem State.Reachable.faithful {config : Config} {s : State} (h : s.Reachable config) :
    s.session.Faithful config := by
  have hC := sound_faithful config
  have hV := Vocabulary.closed_full config
  obtain ⟨m, hm, rfl⟩ := h
  suffices hholds : m.Holds (Course.faithful config) Vocabulary.full from hholds.state
  induction hm with
  | @template s depth t context sink world m hs hstart =>
    have hbegun : (Course.faithful config).Inv (.begin config t context sink (some s) world) :=
      hs.faithful
    exact hC.starts hV hbegun (Vocabulary.template_full t) hstart
  | code hs => exact ⟨hs.faithful, Vocabulary.code_full _⟩
  | step _ hstep ih => exact hC.step hV ih hstep

end Templating
