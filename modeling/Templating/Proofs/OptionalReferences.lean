import Templating.Proofs.Propagation
import Templating.Proofs.Uncaught

/-!
# Which errors are passed over

Two operations of the runtime make something else of an error than an error: a
reference to a template that may be missing, and a reference to the first of
several candidates.  Both look at the answer of a fetch and at nothing else.  What
a template does once it is run is no business of theirs, so an error of the very
same kind that it raises, deep inside or not, goes through whatever the reference
says about missing templates.

`SwallowingLaw` puts this together.  For a reference to one template the law tells
when it is passed over and what it does otherwise; for several candidates it tells
which answers settle the search and how.  A search that may find nothing tells its
own error from those of the loader by the kind, so the law says nothing of a loader
that answers with an error of this kind there.  The last part is about everything else
that runs: an error that arises anywhere is the outcome of the whole render, unless
template code itself catches it.
-/
namespace Templating

open Relation (ReflTransGen)

/-- What becomes of errors, for all names, states and code that is run. -/
structure SwallowingLaw (config : Config) : Prop where
  /-- A reference that may be missing, and is, ends well and runs nothing. -/
  skips : ∀ {run reference name s t}, config.joinPath reference s.session.template = name →
    Render.Misses config name s t →
    Render.includeTemplate config run reference true s =
      (.done (), t.logged (.notice (.skippingInclude name)))
  /-- There is no other way for it to end well without regard to what is run. -/
  skips_iff : ∀ {reference s},
    (∀ run, (Render.includeTemplate config run reference true s).1 = .done ()) ↔
      ∃ t, Render.Misses config (config.joinPath reference s.session.template) s t
  /-- In all other cases it makes no difference whether it may be missing. -/
  otherwise : ∀ {run reference s},
    (∀ t, ¬ Render.Misses config (config.joinPath reference s.session.template) s t) →
    Render.includeTemplate config run reference true s =
      Render.includeTemplate config run reference false s
  /-- A reference that may not be missing hands on every error of its fetch. -/
  required : ∀ {run reference s error t},
    Render.getTemplate config (config.joinPath reference s.session.template) s =
      (.failed error, t) →
    Render.includeTemplate config run reference false s = (.failed error, t)
  /-- Candidates that are passed over leave nothing behind but the requests for them,
  in order. -/
  asks : ∀ {names s t}, Render.PassesOver config names s t → t = names.foldl State.loading s
  /-- A search passes over all candidates or comes to one that settles it. -/
  search : ∀ names s, (∃ t, Render.PassesOver config names s t) ∨
    ∃ before name after t, names = before ++ name :: after ∧
      Render.PassesOver config before s t ∧
      ((∃ found u, Render.getTemplate config name t = (.done found, u)) ∨
        ∃ error u, Render.getTemplate config name t = (.failed error, u) ∧
          error.isTemplateNotFound = false)
  /-- A candidate that is found is run, in a session that is named after it. -/
  found : ∀ {run references ignoreMissing s before name after t template u},
    (references.map fun reference => config.joinPath reference s.session.template) =
      before ++ name :: after →
    Render.PassesOver config before s t →
    Render.getTemplate config name t = (.done template, u) →
    Render.includeFirstOf config run references ignoreMissing s =
        Render.asTemplate config name .including (Render.runTemplate run template) u ∧
      (u.beginFetched config name .including).session.template = some name
  /-- A candidate that cannot be fetched for another reason ends the search; the
  candidates after it are not asked for.  Where a search may find nothing, the reason
  must not be that one did. -/
  stopped : ∀ {run references ignoreMissing s before name after t error u},
    (references.map fun reference => config.joinPath reference s.session.template) =
      before ++ name :: after →
    Render.PassesOver config before s t →
    Render.getTemplate config name t = (.failed error, u) →
    error.isTemplateNotFound = false →
    (ignoreMissing = true → ∀ missing, error ≠ .lookup (.noTemplateSelected missing)) →
    Render.includeFirstOf config run references ignoreMissing s = (.failed error, u)
  /-- Only if all of them are missing, none is selected. -/
  none : ∀ {run references ignoreMissing s candidates t},
    candidates = (references.map fun reference =>
      config.joinPath reference s.session.template) →
    Render.PassesOver config candidates s t →
    Render.includeFirstOf config run references ignoreMissing s =
      if ignoreMissing then (.done (), t.logged (.notice (.skippingIncludes candidates)))
      else (.failed (.lookup (.noTemplateSelected candidates)), t)
  /-- An error of the template that is run is the error of the reference to it. -/
  running : ∀ {run reference ignoreMissing s template u error},
    Render.getTemplate config (config.joinPath reference s.session.template) s =
      (.done template, u) →
    (Render.runTemplate run template).Fails error (u.beginFetched config
      (config.joinPath reference s.session.template) .including) →
    (Render.includeTemplate config run reference ignoreMissing).Fails error s
  running_first : ∀ {run references ignoreMissing s before name after t template u error},
    (references.map fun reference => config.joinPath reference s.session.template) =
      before ++ name :: after →
    Render.PassesOver config before s t →
    Render.getTemplate config name t = (.done template, u) →
    (Render.runTemplate run template).Fails error (u.beginFetched config name .including) →
    (Render.includeFirstOf config run references ignoreMissing).Fails error s
  /-- Errors are not lost on their way out, through blocks, loops, frames and
  templates reached in whatever way. -/
  propagates : ∀ {m m' error}, ReflTransGen (Moment.Passes config) m m' →
    m'.Fails config error → m.Fails config error
  /-- Nor where they arise. -/
  arises : ∀ {m : Moment} {error}, m.Raises config error → m.Fails config error
  /-- The one step that does not hand errors on is into code that is to be caught. -/
  caught : ∀ {m m'}, Moment.Step config m m' → Moment.Passes config m m' ∨ Moment.Caught m m'
  /-- So an error that arises anywhere else is how the render ends. -/
  whole : ∀ {depth t context sink session world first m error},
    Moment.Starts config depth t (.begin config t context sink session world) first →
    ReflTransGen (Moment.Passes config) first m → m.Raises config error →
    (config.evaluateTemplate depth t context sink session world).1 = .failed error
  whole_text : ∀ {depth t context session world first m error},
    Moment.Starts config depth t (.begin config t context (.buffer "") session world) first →
    ReflTransGen (Moment.Passes config) first m → m.Raises config error →
    (config.renderIn depth session t context world).1 = .failed error
  /-- Rendering by name hands on the error of its fetch. -/
  named : ∀ {depth name context world error t},
    Render.getTemplate config name (.start (Session.start config (some name)) (.root Table.empty)
      (.buffer "") world) = (.failed error, t) →
    (config.renderNamed depth name context world).1 = .failed error

section
variable {config : Config}

/-- A template that is run can do anything, so a reference which always ends well has
run nothing. -/
theorem misses_of_forall_run {reference : String} {s : State}
    (h : ∀ run, (Render.includeTemplate config run reference true s).1 = .done ()) :
    ∃ t, Render.Misses config (config.joinPath reference s.session.template) s t := by
  rcases getTemplate_cases config (config.joinPath reference s.session.template) s with
    ⟨template, u, hget⟩ | ⟨error, hget, -⟩
  · -- A template whose code fails would fail the reference.
    have hrun := h fun _ => Action.fail .output
    rw [includeTemplate_of_done rfl hget] at hrun
    have hfails (begun : State) :
        (Render.runTemplate (fun _ => Action.fail .output) template begun).1 ≠ .done () := by
      intro hdone
      obtain ⟨v, hrun⟩ : ∃ v, Render.runTemplate (fun _ => Action.fail .output) template begun =
          (.done (), v) := ⟨_, Prod.ext hdone rfl⟩
      obtain ⟨_, _, -, hroot⟩ := Action.bind_eq_done_iff.mp hrun
      cases hroot
    exact absurd hrun (hfails _)
  · have hrun := h fun _ => pure ()
    rw [includeTemplate_of_failed _ true rfl hget] at hrun
    split at hrun
    case isTrue hmissing => exact ⟨_, misses_of_failed hget hmissing⟩
    case isFalse => cases hrun

theorem includeTemplate_of_not_misses {run : Invoke} {reference : String} {s : State}
    (h : ∀ t, ¬ Render.Misses config (config.joinPath reference s.session.template) s t) :
    Render.includeTemplate config run reference true s =
      Render.includeTemplate config run reference false s := by
  rcases getTemplate_cases config (config.joinPath reference s.session.template) s with
    ⟨template, u, hget⟩ | ⟨error, hget, -⟩
  · rw [includeTemplate_of_done rfl hget, includeTemplate_of_done rfl hget]
  · have herror : error.isTemplateNotFound = false := by
      cases herror : error.isTemplateNotFound with
      | true => exact absurd (misses_of_failed hget herror) (h _)
      | false => rfl
    rw [includeTemplate_of_failed run true rfl hget, includeTemplate_of_failed run false rfl hget,
      herror]
    rfl

theorem settled_of_not_misses {name : String} {t : State}
    (h : ∀ u, ¬ Render.Misses config name t u) :
    (∃ found u, Render.getTemplate config name t = (.done found, u)) ∨
      ∃ error u, Render.getTemplate config name t = (.failed error, u) ∧
        error.isTemplateNotFound = false := by
  rcases getTemplate_cases config name t with hfound | ⟨error, hget, -⟩
  · exact .inl hfound
  · refine .inr ⟨error, _, hget, ?_⟩
    cases herror : error.isTemplateNotFound with
    | true => exact absurd (misses_of_failed hget herror) (h _)
    | false => rfl

/-- An error that arises in a template and is not caught is how the template ends. -/
theorem fails_runTemplate {depth : Nat} {t : Template} {begun : State} {first m : Moment}
    {error : RenderError} (hfirst : Moment.Starts config depth t begun first)
    (hm : ReflTransGen (Moment.Passes config) first m) (h : m.Raises config error) :
    (Render.runTemplate (invoke config depth) t).Fails error begun :=
  hfirst.fails (Moment.fails_of_passes hm h.fails)

/-- A missing template is passed over where the reference says so, and no other error
is. -/
theorem swallowingLaw (config : Config) : SwallowingLaw config where
  skips {run reference name s t} hname hmisses := by
    obtain ⟨error, hget, herror⟩ := hmisses.failed
    rw [includeTemplate_of_failed run true hname hget, herror]
    rfl
  skips_iff {reference s} := by
    constructor
    · exact misses_of_forall_run
    · rintro ⟨t, hmisses⟩ run
      obtain ⟨error, hget, herror⟩ := hmisses.failed
      rw [includeTemplate_of_failed run true rfl hget, herror]
      rfl
  otherwise := includeTemplate_of_not_misses
  required {run _ _ _ _} hget := includeTemplate_of_failed run false rfl hget
  asks := Render.PassesOver.state
  search names s := by
    rcases passesOver_or_settled config names s with hall | hsettled
    · exact .inl hall
    · obtain ⟨before, name, after, t, hsplit, hbefore, hname⟩ := hsettled
      exact .inr ⟨before, name, after, t, hsplit, hbefore, settled_of_not_misses hname⟩
  found {run _ ignoreMissing _ _ _ _ _ _ _} hsplit hbefore hget :=
    ⟨includeFirstOf_of_fetched rfl run ignoreMissing hsplit hbefore hget, rfl⟩
  stopped {run _ ignoreMissing _ _ _ _ _ _ _} hsplit hbefore hget herror hother :=
    includeFirstOf_of_stopped rfl run ignoreMissing hsplit hbefore hget herror hother
  none {run _ ignoreMissing _ _ _} hcandidates hpasses :=
    includeFirstOf_of_missing hcandidates run ignoreMissing hpasses
  running {run reference ignoreMissing s template u error} hget hrun := by
    rw [Action.Fails, includeTemplate_of_done rfl hget]
    exact hrun
  running_first {run _ ignoreMissing _ _ _ _ _ _ _ _} hsplit hbefore hget hrun := by
    rw [Action.Fails, includeFirstOf_of_fetched rfl run ignoreMissing hsplit hbefore hget]
    exact fails_asTemplate hrun
  propagates := Moment.fails_of_passes
  arises := Moment.Raises.fails
  caught := Moment.Step.passes_or_caught
  whole hfirst hm h := fails_runTemplate hfirst hm h
  whole_text hfirst hm h := by
    have hrun := fails_runTemplate hfirst hm h
    rw [Config.renderIn, evaluateTemplate_eq]
    dsimp only
    rw [hrun]
    rfl
  named hget := by
    rw [Config.renderNamed, hget]

end

/-! ## Candidates of every kind -/

namespace Sidebar

/-- A template that needs another one, which is missing. -/
def links : Template := Template.build "links" (some [.includeTemplate "gone" false]) none []

/-- A template that gets over that. -/
def patient : Template :=
  Template.build "patient" (some [.attempt [.includeTemplate "gone" false]]) none []

def config : Config :=
  { Config.basic with loader := (TemplateStore.ofList [links, patient]).load.refusing ["broken"] }

/-- The loader looks for every template in two places and tells that there is none in
either. -/
def searching : Config :=
  { Config.basic with loader := fun _ => .error (.lookup (.noTemplateSelected ["here", "there"])) }

/-- The state of a page that refers to a sidebar. -/
def begun (config : Config) : State :=
  .start (Session.start config (some "page")) (.root Table.empty) (.stream none) (World.begin 0)

/-- The first candidate is missing, the second one is broken, and the third one is
not asked for, although a missing sidebar would do. -/
theorem stopped_broken : ∀ run,
    Render.includeFirstOf config run ["missing", "broken", "links"] true (begun config) =
      (.failed (.filter "loader" "broken"),
        ((begun config).loading "missing").loading "broken") := by
  intro run
  refine (swallowingLaw config).stopped rfl (.cons ⟨"missing", rfl⟩ .nil) rfl rfl ?_
  exact fun _ missing h => nomatch h

/-- What the sidebar itself is missing is an error all the same. -/
example : (Render.includeFirstOf config (invoke config 1) ["missing", "links"] true
    (begun config)).1 = .failed (.lookup (.templateNotFound "gone")) := rfl

/-- Not every other error ends a search that may find nothing, and not every error of a
template that is run is an error of the reference: the one is taken for the error of
the search, and the other is caught by the template itself. -/
theorem swallowed_elsewhere :
    (Render.getTemplate searching "links" (begun searching)).1 =
        .failed (.lookup (.noTemplateSelected ["here", "there"])) ∧
      (∀ run, (Render.includeFirstOf searching run ["links", "other"] true
        (begun searching)).1 = .done ()) ∧
      .caught (.lookup (.templateNotFound "gone")) ∈
        (Render.includeTemplate config (invoke config 1) "patient" true
          (begun config)).2.world.log ∧
      (Render.includeTemplate config (invoke config 1) "patient" true (begun config)).1 =
        .done () := by
  refine ⟨rfl, fun run => ?_, ?_, rfl⟩
  · rw [includeFirstOf_of_misreported rfl run rfl .nil rfl]
  · exact Array.mem_of_getElem? (show _[5]? = some _ from rfl)

end Sidebar

end Templating
