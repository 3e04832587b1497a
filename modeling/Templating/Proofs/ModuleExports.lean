import Templating.Proofs.Exports
import Templating.Proofs.Standalone

/-!
# What a module exports

A template that begins at its top level in a session without exports
(`State.Fresh`) exports exactly what it records, and so does the module that an
importer gets (`exportLaw`).

The exports can also be read while the template runs.  As long as nothing is
recorded explicitly, a name that is exported is bound to the value that is
exported whenever the template is at its top level: a step that stays there
binds what it exports, and a step that leaves it is to a moment at which nothing
is claimed (`Moment.Mirrors`).
-/
namespace Templating

open Relation (ReflTransGen)

/-- A template begins at its top level, and nothing has been exported. -/
structure State.Fresh (s : State) : Prop where
  frames : s.frames = 0
  exports : s.session.exports = Table.empty

theorem State.Fresh.isTopLevel {s : State} (h : s.Fresh) : s.isTopLevel = true := by
  rw [State.isTopLevel, h.frames]
  rfl

/-- Whatever is fetched begins afresh. -/
theorem State.fresh_beginFetched (config : Config) (name : String) (reach : Reach) (s : State) :
    (s.beginFetched config name reach).Fresh := by
  cases reach <;> exact ⟨rfl, rfl⟩

/-! ## Runs of whole bodies -/

section
variable (config : Config)

/-- To whatever depth, a body records what the recursion says. -/
theorem Body.records : ∀ (depth : Nat) (isTop : Bool) (body : Body),
    Render.Records isTop (invoke config depth body) (Body.recordings config depth isTop body)
  | 0, _, _ => .of_keeps Pairing.alike_unfinished
  | depth + 1, isTop, body =>
    .asWhole (Stmt.recordsAll (Body.records depth false) body isTop none)

theorem Template.records_setup (depth : Nat) (t : Template) :
    Render.Records true (Render.runSetup (invoke config depth) t)
      (t.setupRecordings config depth) := by
  unfold Render.runSetup Template.setupRecordings
  cases t.setup with
  | some setup => exact Body.records config depth true setup
  | none => exact .of_keeps (keeps_naming_registerBlocks t)

theorem Template.records (depth : Nat) (t : Template) :
    Render.Records true (Render.runTemplate (invoke config depth) t)
      (t.recordings config depth) :=
  (t.records_setup config depth).bind fun _ => Body.records config depth true t.root

end

/-! ## Exported names are bound -/

/-- Every name that is exported is bound to the value that is exported. -/
def State.Mirrors (s : State) : Prop :=
  ∀ name v, s.session.exports.get? name = some v → s.scope.get? name = some v

theorem State.Fresh.mirrors {s : State} (h : s.Fresh) : s.Mirrors := by
  intro name v hv
  rw [h.exports] at hv
  cases hv

theorem State.Mirrors.lookup {s : State} (h : s.Mirrors) {name : String} {v : Value}
    (hv : s.session.exports.get? name = some v) : s.scope.lookup name = v := by
  rw [Scope.lookup, h name v hv]
  rfl

theorem State.Mirrors.of_naming {s t : State} (h : s.Mirrors) (hnaming : t.naming = s.naming) :
    t.Mirrors := by
  have hscope : t.scope = s.scope := congrArg (·.1) hnaming
  have hexports : t.session.exports = s.session.exports := congrArg (·.2.2) hnaming
  intro name v hv
  rw [hexports] at hv
  rw [hscope]
  exact h name v hv

/-- Nothing is recorded explicitly. -/
def Recording.AllAssigned (recordings : List Recording) : Prop :=
  ∀ r ∈ recordings, r.assigned = true

/-- What is exported and what is bound grow by the same names. -/
theorem State.Gained.mirrors {s t : State} {recordings : List Recording}
    (h : s.Gained true recordings t) (hs : s.Mirrors)
    (hall : Recording.AllAssigned recordings) : t.Mirrors := by
  have hassignments : Recording.assignments recordings = recordings.map Recording.entry := by
    rw [Recording.assignments, List.filter_eq_self.mpr hall]
  intro name v hv
  rw [h.exports, Table.get?_insertAll] at hv
  rw [h.scope rfl, hassignments, Scope.get?_bind, Table.get?_ofList]
  cases hnew : (recordings.map Recording.entry).reverse.lookup name with
  | some w =>
    rw [hnew] at hv
    exact hv
  | none =>
    rw [hnew] at hv
    exact hs name v hv

namespace Moment

variable {config : Config} {m m' : Moment}

variable (config) in
/-- What the code of a moment at the top level records. -/
def recordings (m : Moment) : List Recording :=
  match m.task with
  | .code loop body =>
    Stmt.recordingsAll config (invoke config m.depth) (Body.recordings config m.depth false) true
      loop body m.state
  | .operands _ => []

variable (config) in
/-- At the top level the exported names are bound, and nothing is recorded
explicitly from here on. -/
def Mirrors (m : Moment) : Prop :=
  m.state.isTopLevel = true → m.state.Mirrors ∧ Recording.AllAssigned (m.recordings config)

theorem mirrors_of_inner (h : m.state.isTopLevel = false) : m.Mirrors config := by
  intro htop
  rw [h] at htop
  cases htop

/-- After an expression the names are as they were. -/
theorem mirrors_of_eval {depth : Nat} {x : Expr} {s t : State} {v : Value}
    (hrun : x.eval config (invoke config depth) s = (.done v, t)) :
    t.isTopLevel = s.isTopLevel ∧ (s.Mirrors → t.Mirrors) := by
  have hkeeps : Keeps State.naming (x.eval config (invoke config depth)) :=
    Keeps.eval isApart_naming (fun _ _ => rfl) x
  have hnaming := hkeeps.apply s
  rw [hrun] at hnaming
  have hframes : t.frames = s.frames := congrArg (·.2.1) hnaming
  refine ⟨?_, fun hs => hs.of_naming hnaming⟩
  rw [State.isTopLevel, State.isTopLevel, hframes]

/-- The step lemma within a body. -/
theorem Leads.mirrors (h : Leads config m m') (hm : m.Mirrors config) : m'.Mirrors config := by
  cases h with
  | @next depth loop c rest s t hrun =>
    have hrecords : Render.Records s.isTopLevel (c.exec config (invoke config depth) loop) _ :=
      Stmt.records (Body.records config depth false) c s.isTopLevel loop
    have hgained := hrecords s rfl
    rw [hrun] at hgained
    intro htop
    have hs : s.isTopLevel = true := (hgained.isTopLevel rfl).symm.trans htop
    rw [hs] at hgained
    obtain ⟨hmirrors, hall⟩ := hm hs
    have hsplit : recordings config ⟨depth, .code loop (c :: rest), s⟩ =
        c.recordings config (invoke config depth) (Body.recordings config depth false) true loop s
          ++ recordings config ⟨depth, .code loop rest, t⟩ := by
      simp only [recordings, Stmt.recordingsAll, Recorder.after, hrun]
    rw [hsplit] at hall
    exact ⟨hgained.mirrors hmirrors fun r hr => hall r (List.mem_append_left _ hr),
      fun r hr => hall r (List.mem_append_right _ hr)⟩
  | operands | innerOperands =>
    exact fun htop => ⟨(hm htop).1, fun _ hr => absurd hr List.not_mem_nil⟩
  | nextOperand hrun =>
    obtain ⟨htop, hmirrors⟩ := mirrors_of_eval hrun
    exact fun h => ⟨hmirrors (hm (htop.symm.trans h)).1, fun _ hr => absurd hr List.not_mem_nil⟩
  | frame => exact mirrors_of_inner rfl
  | @escaping _ _ _ _ _ s =>
    intro htop
    obtain ⟨hmirrors, hall⟩ := hm htop
    exact ⟨hmirrors, fun r hr => hall r (List.mem_append_left _ hr)⟩
  | @branch depth loop condition yes no rest s v t hrun =>
    obtain ⟨htop, hmirrors⟩ := mirrors_of_eval hrun
    intro h
    obtain ⟨hs, hall⟩ := hm (htop.symm.trans h)
    refine ⟨hmirrors hs, fun r hr => hall r (List.mem_append_left _ ?_)⟩
    simp only [recordings] at hr
    simp only [Stmt.recordings, Recorder.after, hrun]
    cases hv : v.isTruthy <;> rw [hv] at hr <;> exact hr
  | @iteration depth _ _ _ _ _ body _ _ _ _ _ _ hrun _ hi =>
    have hC := sound_sameFrame config
    have hV := Vocabulary.closed_full config
    have hbody (context : LoopContext) (s : State) := (Course.of_alike (Pairing.Sound.asIteration
      (hC.execAll hV (Vocabulary.code_full body) depth (some context))) (s := s) trivial).1
    obtain ⟨w, -, hbegun⟩ := hC.iterates hV trivial (fun context s _ => hbody context s) hi trivial
    refine mirrors_of_inner ?_
    rw [State.isTopLevel, hbegun.frames]
    rfl
  | otherwise _ _ => exact mirrors_of_inner rfl
  | filtered _ => exact mirrors_of_inner rfl
  | attempted =>
    intro htop
    obtain ⟨hmirrors, hall⟩ := hm htop
    exact ⟨hmirrors, fun r hr => hall r (List.mem_append_left _ hr)⟩

/-- The step lemma into the definition of a block, which is never top level. -/
theorem Calls.mirrors (h : Calls m m') : m'.Mirrors config := by
  cases h
  exact mirrors_of_inner rfl

/-- The run lemma. -/
theorem Inside.mirrors (h : Inside config m m') (hm : m.Mirrors config) : m'.Mirrors config := by
  induction h with
  | refl => exact hm
  | tail _ hs ih =>
    rcases hs with hleads | hcalls
    · exact hleads.mirrors ih
    · exact hcalls.mirrors

/-- The parts of a template begin with what is exported bound. -/
theorem Starts.mirrors {depth : Nat} {t : Template} {s : State} (h : Starts config depth t s m)
    (hs : s.Fresh) (hall : Recording.AllAssigned (t.recordings config depth s)) :
    m.Mirrors config := by
  cases h with
  | @setup depth t setup s hsetup =>
    refine fun _ => ⟨hs.mirrors, fun r hr => hall r (List.mem_append_left _ ?_)⟩
    rw [Template.setupRecordings, hsetup]
    exact hr
  | @root depth t s u hrun =>
    have hgained := t.records_setup config (depth + 1) s hs.isTopLevel
    rw [hrun] at hgained
    have hsplit : t.recordings config (depth + 1) s =
        t.setupRecordings config (depth + 1) s ++
          recordings config ⟨depth, .code none t.root, u⟩ := by
      simp only [Template.recordings, Recorder.after, hrun]
      rfl
    rw [hsplit] at hall
    exact fun _ => ⟨hgained.mirrors hs.mirrors fun r hr => hall r (List.mem_append_left _ hr),
      fun r hr => hall r (List.mem_append_right _ hr)⟩

end Moment

/-! ## The law -/

/-- What a template exports that begins in a state, however its run ends. -/
structure ExportLaw (config : Config) (depth : Nat) (t : Template) (s : State) : Prop where
  /-- The exports are what was recorded, written in turn. -/
  exports : (Render.runTemplate (invoke config depth) t s).2.session.exports =
    Table.ofList ((t.recordings config depth s).map Recording.entry)
  /-- The names stand in the order in which they were recorded first. -/
  names : (Render.runTemplate (invoke config depth) t s).2.session.exports.keys =
    ((t.recordings config depth s).map Recording.name).eraseDups
  /-- Each has the value that was recorded last. -/
  values : ∀ name, (Render.runTemplate (invoke config depth) t s).2.session.exports.get? name =
    ((t.recordings config depth s).map Recording.entry).reverse.lookup name
  /-- An importer gets a module of these exports. -/
  module : ∀ {name resolved importer fetched v after},
    config.joinPath name importer.session.template = resolved →
    Render.getTemplate config resolved importer = (.done t, fetched) →
    fetched.beginFetched config resolved .importing = s →
    Render.importTemplate config (invoke config depth) name importer = (.done v, after) →
    ∃ body, v = .module resolved
      (Table.ofList ((t.recordings config depth s).map Recording.entry)) body
  /-- If nothing was recorded explicitly, then at the top level every exported name
  has the value that is exported, while the template runs … -/
  moments : Recording.AllAssigned (t.recordings config depth s) →
    ∀ {m m'}, Moment.Starts config depth t s m → Moment.Inside config m m' →
      m'.state.isTopLevel = true → ∀ {name v},
        m'.state.session.exports.get? name = some v → m'.state.scope.lookup name = v
  /-- … and when it has ended. -/
  ended : Recording.AllAssigned (t.recordings config depth s) → ∀ {name v},
    (Render.runTemplate (invoke config depth) t s).2.session.exports.get? name = some v →
      (Render.runTemplate (invoke config depth) t s).2.scope.lookup name = v

/-- A template exports what it records at its top level, and what is recorded
explicitly in its session. -/
theorem exportLaw {config : Config} {depth : Nat} {t : Template} {s : State} (hs : s.Fresh) :
    ExportLaw config depth t s := by
  have hgained := t.records config depth s hs.isTopLevel
  have hexports : (Render.runTemplate (invoke config depth) t s).2.session.exports =
      Table.ofList ((t.recordings config depth s).map Recording.entry) := by
    rw [hgained.exports, hs.exports, Table.ofList_eq_insertAll]
  refine {
    exports := hexports
    names := ?names
    values := fun name => ?values
    module := fun hr hget hbegun hrun => ?module
    moments := fun hall _ _ hstart hinside htop _ _ hv => ?moments
    ended := fun hall _ _ hv => (hgained.mirrors hs.mirrors hall).lookup hv }
  case names =>
    rw [hexports, Table.keys_ofList, List.map_map]
    rfl
  case values => rw [hexports, Table.get?_ofList]
  case module =>
    rw [importTemplate_of_done hr hget, hbegun] at hrun
    obtain ⟨houtcome, -⟩ := Prod.mk.inj hrun
    rw [← hexports]
    cases hended : (Render.runTemplate (invoke config depth) t s).1 with
    | done _ =>
      rw [hended] at houtcome
      cases houtcome
      exact ⟨_, rfl⟩
    | failed _ | unfinished =>
      rw [hended] at houtcome
      cases houtcome
  case moments => exact (hinside.mirrors (hstart.mirrors hs hall) htop).1.lookup hv

namespace Palette

/-- A template that assigns a name twice at its top level, and another one in a
frame, from where it records a third one. -/
def palette : Template :=
  Template.build "palette" (some [
    .assign "tone" (.literal (.text "red")),
    .frame [.assign "shade" (.literal (.text "dark")), .exportVar "accent" (.var "shade")],
    .assign "tone" (.literal (.text "blue"))]) none []

def config : Config := { Config.basic with loader := fun _ => .ok palette }

/-- The state in which the palette begins when a page imports it. -/
def begun : State :=
  (Render.getTemplate config "palette"
      (.start (Session.start config (some "page")) (Scope.ofList []) (.stream none)
        (World.begin 0))).2.beginFetched config "palette" .importing

/-- The name assigned in the frame is not exported. -/
theorem exportLaw_palette :
    begun.Fresh ∧
      palette.recordings config 1 begun =
        [⟨"tone", .text "red", true⟩, ⟨"accent", .text "dark", false⟩,
          ⟨"tone", .text "blue", true⟩] ∧
      (Render.runTemplate (invoke config 1) palette begun).2.session.exports.entries =
        [("tone", .text "blue"), ("accent", .text "dark")] ∧
      ExportLaw config 1 palette begun :=
  have hbegun : begun.Fresh := State.fresh_beginFetched config "palette" .importing _
  ⟨hbegun, rfl, rfl, exportLaw hbegun⟩

end Palette

end Templating
