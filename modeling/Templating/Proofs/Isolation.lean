import Templating.Proofs.Growth
import Templating.Proofs.Standalone

/-!
# Templates that are reached do not reach back

A template that is included or imported renders in a session of its own.  It can
register blocks, extend others, assign, export, turn escaping on and off and fail;
of all this the session of the reference keeps nothing but the templates that were
loaded meanwhile (`Session.OnlyCached`).  A template that is extended shares the
registry too, and there adds definitions below those it finds.

Importing is silent as well: what the imported template writes is captured, and
that stays so when it fails.

All this holds in every state and however the operation ends (`Isolation`,
`isolation`).
-/
namespace Templating

/-! ## What is written meanwhile -/

/-- The course of a run: between any two of its states certain chunks are
written. -/
def Course.writing : Course where
  Inv _ := True
  To s t := ∃ chunks, s.Wrote chunks t
  refl {s} _ := ⟨[], .refl s⟩
  trans h h' := by
    obtain ⟨first, h⟩ := h
    obtain ⟨second, h'⟩ := h'
    exact ⟨first ++ second, h.trans h'⟩
  inv _ _ := trivial

/-- The step lemma: nothing but writing writes. -/
theorem sound_writing (config : Config) : Course.writing.Sound Vocabulary.full config where
  looked _ _ := trivial
  exported _ _ _ := trivial
  defined _ _ _ _ _ := Vocabulary.code_full _
  cached _ _ _ _ := Vocabulary.template_full _
  loaded _ := Vocabulary.template_full _
  remember _ _ _ _ _ := ⟨[], .nothing rfl rfl⟩
  note {s} _ _ he := ⟨[], .logged s he⟩
  write {s} _ text _ := by
    rcases write_cases text s with ⟨sink, log, hwrote, hrun⟩ | ⟨-, hrun⟩
    · rw [hrun]
      exact ⟨[text], hwrote⟩
    · rw [hrun]
      exact ⟨[], .refl s⟩
  emitted _ _ _ := trivial
  count _ _ := ⟨[], .nothing rfl rfl⟩
  assign _ _ _ _ := ⟨[], .nothing rfl rfl⟩
  exportVar _ _ _ _ := ⟨[], .nothing rfl rfl⟩
  setEscaping _ _ _ := ⟨[], .nothing rfl rfl⟩
  register _ _ _ _ := ⟨[], .nothing rfl rfl⟩
  rebind _ _ _ _ := ⟨[], .nothing rfl rfl⟩
  frame _ _ := ⟨trivial, fun _ ht => ht⟩
  escaping _ _ _ := ⟨trivial, fun _ ht => ht⟩
  block _ _ _ := ⟨trivial, fun _ ht => ht⟩
  template _ _ _ _ := ⟨trivial, fun _ ht => ht⟩
  capture _ _ := ⟨trivial, fun _ ⟨_, ht⟩ => ⟨[], ht.leaveCapture⟩⟩
  captured _ _ _ := trivial

/-- Fetching writes nothing, whether it succeeds or not. -/
theorem wrote_getTemplate (config : Config) (name : String) (s : State) :
    s.Wrote [] (Render.getTemplate config name s).2 := by
  have hloading : s.Wrote [] (s.loading name) := (State.Wrote.logged s rfl).trans (.logged _ rfl)
  cases hcache : s.session.cache.get? name with
  | some t =>
    rw [getTemplate_of_cached config hcache]
    exact .logged s rfl
  | none =>
    cases hloader : config.loader name with
    | ok t =>
      rw [getTemplate_of_loaded hcache hloader]
      exact hloading
    | error error =>
      rw [getTemplate_of_failed hcache hloader]
      exact hloading

section
variable (config : Config) (depth : Nat)

/-- An imported template writes nothing to the sink of the reference. -/
theorem wrote_importTemplate (name : String) (s : State) :
    s.Wrote [] (Render.importTemplate config (invoke config depth) name s).2 := by
  have hfetched := wrote_getTemplate config (config.joinPath name s.session.template) s
  rcases hget : Render.getTemplate config (config.joinPath name s.session.template) s with
    ⟨outcome, u⟩
  rw [hget] at hfetched
  cases outcome with
  | done t =>
    rw [importTemplate_of_done rfl hget]
    let begun := (u.logged (.notice (.derivingSession u.session.template
      (config.joinPath name s.session.template) .importing))).enterDerived config
        (config.joinPath name s.session.template) .importing
    have hV := Vocabulary.closed_full config
    have hC := sound_writing config
    have hrun := hC.pairing.runTemplate (hC.pairing.runs hV depth) (Vocabulary.template_full t)
    obtain ⟨⟨chunks, hwrote⟩, -⟩ := Course.of_alike hrun (s := begun.enterCapture) trivial
    have hbegun : u.Wrote [] begun := .logged u rfl
    exact hfetched.trans (hbegun.trans hwrote.leaveCapture)
  | failed error | unfinished =>
    rw [Render.importTemplate, Action.bind_of_done (Render.resolveName_of_joinPath rfl),
      Action.bind_apply, hget]
    exact hfetched

end

/-! ## What is left of another session -/

/-- Nothing of the session has changed, but its cache may have grown. -/
structure Session.OnlyCached (s t : Session) : Prop where
  rest : t = { s with cache := t.cache }
  cache : ∀ name u, s.cache.get? name = some u → t.cache.get? name = some u

/-- The session without its cache. -/
def State.uncached (s : State) : Session := { s.session with cache := Table.empty }

theorem isApart_uncached : IsApart State.uncached :=
  ⟨fun _ _ => rfl, fun _ _ => rfl, fun _ _ => rfl, fun _ _ _ => rfl⟩

theorem Session.OnlyCached.of_uncached {s t : State} (h : t.uncached = s.uncached)
    (hsame : s.SameFrame t) : s.session.OnlyCached t.session := by
  refine ⟨?_, hsame.session.cache⟩
  have hrest := congrArg (fun session : Session => { session with cache := t.session.cache }) h
  exact hrest

/-- The session after variables were recorded in turn. -/
def Session.exportAll (s : Session) (bindings : List (String × Value)) : Session :=
  bindings.foldl (fun session binding => session.exportVar binding.1 binding.2) s

theorem Session.exports_exportAll {name : String} : ∀ {bindings : List (String × Value)}
    (s : Session), (∀ binding ∈ bindings, binding.1 ≠ name) →
    (s.exportAll bindings).exports.get? name = s.exports.get? name
  | [], _, _ => rfl
  | (other, v) :: rest, s, h => by
    have hrest := Session.exports_exportAll (s.exportVar other v) fun binding hbinding =>
      h binding (List.mem_cons_of_mem _ hbinding)
    have hother : name ≠ other := fun heq => h (other, v) (List.mem_cons_self ..) heq.symm
    refine hrest.trans ?_
    rw [Session.exportVar, Table.get?_insert, if_neg hother]

/-- Recording does not concern the cache. -/
theorem Session.OnlyCached.exportAll : ∀ (bindings : List (String × Value)) {s t : Session},
    s.OnlyCached t → (s.exportAll bindings).OnlyCached (t.exportAll bindings)
  | [], _, _, h => h
  | (name, v) :: rest, s, t, h => by
    refine Session.OnlyCached.exportAll rest ⟨?_, h.cache⟩
    rw [h.rest]
    rfl

/-- Assigning in turn exports in turn at the top level, and nothing elsewhere. -/
theorem assignAll_session : ∀ (bindings : List (String × Value)) (s : State),
    (Render.assignAll bindings s).1 = .done () ∧
      (Render.assignAll bindings s).2.session =
        if s.isTopLevel then s.session.exportAll bindings else s.session
  | [], s => by
    refine ⟨rfl, ?_⟩
    split <;> rfl
  | (name, v) :: rest, s => by
    obtain ⟨hdone, hsession⟩ := assignAll_session rest (s.assign name v)
    refine ⟨hdone, hsession.trans ?_⟩
    have htop : (s.assign name v).isTopLevel = s.isTopLevel := rfl
    rw [htop]
    by_cases h : s.isTopLevel = true
    · rw [if_pos h, if_pos h, State.assign, if_pos h]
      rfl
    · rw [if_neg h, if_neg h, State.assign, if_neg h]

theorem wrote_assignAll : ∀ (bindings : List (String × Value)) (s : State),
    s.Wrote [] (Render.assignAll bindings s).2
  | [], s => .refl s
  | (name, v) :: rest, s => by
    have hfirst : s.Wrote [] (s.assign name v) := .nothing rfl rfl
    exact hfirst.trans (wrote_assignAll rest (s.assign name v))

/-! ## The law -/

/-- What the session of a reference keeps of the template that is reached, in any
state and however the operation ends. -/
structure Isolation (config : Config) (depth : Nat) : Prop where
  includeTemplate : ∀ name ignoreMissing (s : State), s.session.OnlyCached
    (Render.includeTemplate config (invoke config depth) name ignoreMissing s).2.session
  includeFirstOf : ∀ names ignoreMissing (s : State), s.session.OnlyCached
    (Render.includeFirstOf config (invoke config depth) names ignoreMissing s).2.session
  importTemplate : ∀ name (s : State), s.session.OnlyCached
    (Render.importTemplate config (invoke config depth) name s).2.session
  /-- An import writes nothing to the sink of the reference. -/
  importSilent : ∀ name (s : State),
    s.Wrote [] (Render.importTemplate config (invoke config depth) name s).2
  /-- If the template was imported, then its values are bound, and at the top level
  exported under the names given, and nothing else is. -/
  fromImport : ∀ name items (s : State) {imported : Value},
    (Render.importTemplate config (invoke config depth) name s).1 = .done imported →
    let run := Render.fromImport config (invoke config depth) name items s
    let bindings := items.map fun (exported, target) => (target, imported.attr exported)
    run.1 = .done () ∧
      (if s.isTopLevel then s.session.exportAll bindings else s.session).OnlyCached
        run.2.session ∧
      ∀ other, (∀ item ∈ items, item.2 ≠ other) →
        run.2.session.exports.get? other = s.session.exports.get? other
  /-- If it was not, then importing names from it fails in the same way and leaves
  the session as importing it does. -/
  fromImportFailed : ∀ name items (s : State),
    (∀ imported, (Render.importTemplate config (invoke config depth) name s).1 ≠ .done imported) →
    let run := Render.fromImport config (invoke config depth) name items s
    run.1 = (Render.importTemplate config (invoke config depth) name s).1.map (fun _ => ()) ∧
      s.session.OnlyCached run.2.session
  fromImportSilent : ∀ name items (s : State),
    s.Wrote [] (Render.fromImport config (invoke config depth) name items s).2
  /-- A template that is extended adds definitions that are less specific than all
  others, and touches nothing else but the cache. -/
  extendTemplate : ∀ name (s : State),
    let ended := (Render.extendTemplate config (invoke config depth) name s).2
    ended.ownSession = s.ownSession ∧
      (∀ block, ∃ added, ended.blocks.chain block = added ++ s.blocks.chain block) ∧
      ∀ other u, s.session.cache.get? other = some u → ended.session.cache.get? other = some u

section
variable (config : Config) (depth : Nat)

theorem sameFrame_importTemplate (name : String) (s : State) :
    s.SameFrame (Render.importTemplate config (invoke config depth) name s).2 := by
  have hV := Vocabulary.closed_full config
  have hC := (sound_sameFrame config).pairing
  exact (Course.of_alike (hC.importTemplate (hC.runs hV depth) hV name) trivial).1

theorem onlyCached_importTemplate (name : String) (s : State) : s.session.OnlyCached
    (Render.importTemplate config (invoke config depth) name s).2.session := by
  have hkeeps := Keeps.importTemplate isApart_uncached (fun _ _ => rfl) config
    (invoke config depth) name
  exact .of_uncached (hkeeps.apply s) (sameFrame_importTemplate config depth name s)

/-- Importing names from a template that was imported assigns them in turn. -/
theorem fromImport_of_done {name : String} {s t : State} {imported : Value}
    (hrun : Render.importTemplate config (invoke config depth) name s = (.done imported, t))
    (items : List (String × String)) :
    let run := Render.fromImport config (invoke config depth) name items s
    let bindings := items.map fun (exported, target) => (target, imported.attr exported)
    run.1 = .done () ∧
      (if s.isTopLevel then s.session.exportAll bindings else s.session).OnlyCached
        run.2.session := by
  have honly := onlyCached_importTemplate config depth name s
  have hframes := (sameFrame_importTemplate config depth name s).frames
  rw [hrun] at honly hframes
  have htop : t.isTopLevel = s.isTopLevel := by rw [State.isTopLevel, State.isTopLevel, hframes]
  intro run bindings
  have hassigned : run = Render.assignAll bindings t := Action.bind_of_done hrun
  obtain ⟨hend, hsession⟩ := assignAll_session bindings t
  rw [hassigned]
  refine ⟨hend, ?_⟩
  rw [hsession, htop]
  split
  · exact honly.exportAll bindings
  · exact honly

/-- Of the exports of the reference, only those that are bound can change. -/
theorem exports_of_onlyCached {s : State} {t : Session} {items : List (String × String)}
    {imported : Value} (h : (if s.isTopLevel then
      s.session.exportAll (items.map fun (exported, target) => (target, imported.attr exported))
      else s.session).OnlyCached t) {other : String} (hother : ∀ item ∈ items, item.2 ≠ other) :
    t.exports.get? other = s.session.exports.get? other := by
  rw [h.rest]
  split
  · refine Session.exports_exportAll s.session fun binding hbinding => ?_
    obtain ⟨item, hitem, rfl⟩ := List.mem_map.mp hbinding
    exact hother item hitem
  · rfl

/-- No template reaches back. -/
theorem isolation : Isolation config depth := by
  have hC := (sound_sameFrame config).pairing
  have hV := Vocabulary.closed_full config
  have hruns := hC.runs hV depth
  refine {
    includeTemplate := fun name ignoreMissing s => ?includeTemplate
    includeFirstOf := fun names ignoreMissing s => ?includeFirstOf
    importTemplate := onlyCached_importTemplate config depth
    importSilent := wrote_importTemplate config depth
    fromImport := fun name items s imported hdone => ?fromImport
    fromImportFailed := fun name items s hfailed => ?fromImportFailed
    fromImportSilent := fun name items s => ?fromImportSilent
    extendTemplate := fun name s => ?extendTemplate }
  case includeTemplate =>
    have hsame := (Course.of_alike (hC.includeTemplate hruns name ignoreMissing) (s := s) trivial).1
    have hkeeps := Keeps.includeTemplate isApart_uncached (fun _ _ => rfl) config
      (invoke config depth) name ignoreMissing
    exact .of_uncached (hkeeps.apply s) hsame
  case includeFirstOf =>
    have hsame := (Course.of_alike (hC.includeFirstOf hruns names ignoreMissing) (s := s) trivial).1
    have hkeeps := Keeps.includeFirstOf isApart_uncached (fun _ _ => rfl) config
      (invoke config depth) names ignoreMissing
    exact .of_uncached (hkeeps.apply s) hsame
  case fromImport =>
    rcases hrun : Render.importTemplate config (invoke config depth) name s with ⟨outcome, t⟩
    rw [hrun] at hdone
    obtain rfl : outcome = .done imported := hdone
    obtain ⟨hend, honly⟩ := fromImport_of_done config depth hrun items
    exact ⟨hend, honly, fun _ hother => exports_of_onlyCached honly hother⟩
  case fromImportFailed =>
    have honly := onlyCached_importTemplate config depth name s
    rw [Render.fromImport, Action.bind_apply]
    rcases hrun : Render.importTemplate config (invoke config depth) name s with ⟨outcome, t⟩
    rw [hrun] at honly hfailed
    cases outcome with
    | done imported => exact (hfailed imported rfl).elim
    | failed error | unfinished => exact ⟨rfl, honly⟩
  case fromImportSilent =>
    have hwrote := wrote_importTemplate config depth name s
    rw [Render.fromImport, Action.bind_apply]
    rcases hrun : Render.importTemplate config (invoke config depth) name s with ⟨outcome, t⟩
    rw [hrun] at hwrote
    cases outcome with
    | done imported => exact hwrote.trans (wrote_assignAll _ t)
    | failed error | unfinished => exact hwrote
  case extendTemplate =>
    have hsame := (Course.of_alike (hC.extendTemplate hruns name) (s := s) trivial).1
    have hkeeps := Keeps.extendTemplate isApart_ownSession (fun _ _ => rfl) config
      (invoke config depth) name
    refine ⟨hkeeps.apply s, fun block => ?_, hsame.session.cache⟩
    obtain ⟨added, hadded⟩ := hsame.session.grows block
    exact ⟨added, hadded.symm⟩

end

end Templating
