import Templating.Proofs.Standalone

/-!
# Templates that may be missing

A fetch answers with a template, which was cached or is loaded, or with the error
of the loader (`getTemplate_cases`).  The answer that decides whether a reference
may be passed over is the error that there is no such template
(`Render.Misses`).

A reference to one template looks at this one answer.  A reference to the first of
several candidates asks for one after the other as long as they are missing
(`Render.PassesOver`), and the first answer of another kind settles it: a
template is run, an error is handed on, and no later candidate is asked for.
Either every candidate is missing, or there is a first one that is not
(`passesOver_or_settled`).

That no candidate was found is an error too, which is passed over if it may be.  It is
told by its kind, so a loader that reports it of a single name is taken for a search
that found nothing (`includeFirstOf_of_misreported`).
-/
namespace Templating

theorem RenderError.isTemplateNotFound_iff {error : RenderError} :
    error.isTemplateNotFound = true ↔ ∃ name, error = .lookup (.templateNotFound name) := by
  constructor
  · intro h
    unfold isTemplateNotFound at h
    split at h
    · exact ⟨_, rfl⟩
    · cases h
  · rintro ⟨name, rfl⟩
    rfl

namespace Render

variable (config : Config)

/-- A fetch finds that there is no such template. -/
def Misses (name : String) (s t : State) : Prop :=
  ∃ missing, getTemplate config name s = (.failed (.lookup (.templateNotFound missing)), t)

/-- Candidates are asked for in order, and each of them is missing. -/
inductive PassesOver : List String → State → State → Prop
  | nil {s : State} : PassesOver [] s s
  | cons {name : String} {rest : List String} {s t u : State} :
      Misses config name s t → PassesOver rest t u → PassesOver (name :: rest) s u

end Render

section
variable {config : Config} {name : String} {s t u : State}

/-- A fetch always answers, and an error is the loader's. -/
theorem getTemplate_cases (config : Config) (name : String) (s : State) :
    (∃ t u, Render.getTemplate config name s = (.done t, u)) ∨
      ∃ error, Render.getTemplate config name s = (.failed error, s.loading name) ∧
        config.loader name = .error error := by
  cases hcache : s.session.cache.get? name with
  | some t => exact .inl ⟨t, _, getTemplate_of_cached config hcache⟩
  | none =>
    cases hloader : config.loader name with
    | ok t => exact .inl ⟨t, _, getTemplate_of_loaded hcache hloader⟩
    | error error => exact .inr ⟨error, getTemplate_of_failed hcache hloader, rfl⟩

theorem loader_of_failed {error : RenderError}
    (h : Render.getTemplate config name s = (.failed error, t)) :
    config.loader name = .error error ∧ t = s.loading name := by
  rcases getTemplate_cases config name s with ⟨t', u, hdone⟩ | ⟨error', hfailed, hloader⟩
  · rw [hdone] at h
    cases h
  · rw [hfailed] at h
    cases h
    exact ⟨hloader, rfl⟩

theorem Render.Misses.failed (h : Render.Misses config name s t) :
    ∃ error, Render.getTemplate config name s = (.failed error, t) ∧
      error.isTemplateNotFound = true := by
  obtain ⟨missing, h⟩ := h
  exact ⟨_, h, rfl⟩

theorem misses_of_failed {error : RenderError}
    (h : Render.getTemplate config name s = (.failed error, t))
    (herror : error.isTemplateNotFound = true) : Render.Misses config name s t := by
  obtain ⟨missing, rfl⟩ := RenderError.isTemplateNotFound_iff.mp herror
  exact ⟨missing, h⟩

/-- All that comes of a missing candidate is that the loader was asked for it. -/
theorem Render.PassesOver.state {names : List String} (h : Render.PassesOver config names s t) :
    t = names.foldl State.loading s := by
  induction h with
  | nil => rfl
  | cons hmisses _ ih =>
    obtain ⟨missing, hfailed⟩ := hmisses
    obtain ⟨-, rfl⟩ := loader_of_failed hfailed
    exact ih

/-- A search comes to a first candidate that is not missing, unless all are. -/
theorem passesOver_or_settled (config : Config) : ∀ (names : List String) (s : State),
    (∃ t, Render.PassesOver config names s t) ∨
      ∃ before name after t, names = before ++ name :: after ∧
        Render.PassesOver config before s t ∧ ∀ u, ¬ Render.Misses config name t u
  | [], s => .inl ⟨s, .nil⟩
  | name :: rest, s => by
    by_cases hmisses : ∃ t, Render.Misses config name s t
    · obtain ⟨t, hmisses⟩ := hmisses
      rcases passesOver_or_settled config rest t with ⟨u, hrest⟩ | hsettled
      · exact .inl ⟨u, .cons hmisses hrest⟩
      · obtain ⟨before, last, after, u, rfl, hbefore, hlast⟩ := hsettled
        exact .inr ⟨name :: before, last, after, u, rfl, .cons hmisses hbefore, hlast⟩
    · exact .inr ⟨[], name, rest, s, rfl, .nil, fun t ht => hmisses ⟨t, ht⟩⟩

/-! ## One template -/

theorem getOptional_of_failed {error : RenderError}
    (h : Render.getTemplate config name s = (.failed error, t)) (ignoreMissing : Bool) :
    Render.getOptional config name ignoreMissing s =
      if ignoreMissing && error.isTemplateNotFound then
        (.done none, t.logged (.notice (.skippingInclude name)))
      else (.failed error, t) := by
  rw [Render.getOptional, Action.bind_of_done (Action.attempt_of_failed h)]
  dsimp only
  split <;> rfl

section
variable (run : Invoke) (ignoreMissing : Bool)

/-- A reference hands the error of its fetch on, unless it may and does pass over
a missing template. -/
theorem includeTemplate_of_failed {error : RenderError} {reference : String}
    (hname : config.joinPath reference s.session.template = name)
    (h : Render.getTemplate config name s = (.failed error, t)) :
    Render.includeTemplate config run reference ignoreMissing s =
      if ignoreMissing && error.isTemplateNotFound then
        (.done (), t.logged (.notice (.skippingInclude name)))
      else (.failed error, t) := by
  have hfound := getOptional_of_failed h ignoreMissing
  rw [Render.includeTemplate, Action.bind_of_done (Render.resolveName_of_joinPath hname)]
  split at hfound
  case isTrue hpass =>
    rw [Action.bind_of_done hfound, if_pos hpass]
    rfl
  case isFalse hkeep => rw [Action.bind_of_failed hfound, if_neg hkeep]

end

/-! ## Several candidates -/

/-- Candidates that are missing are as good as none. -/
theorem selectFrom_of_passesOver {before : List String} (h : Render.PassesOver config before s t)
    (all rest : List String) :
    Render.selectFrom config all (before ++ rest) s = Render.selectFrom config all rest t := by
  induction h with
  | nil => rfl
  | @cons name rest' s t u hmisses _ ih =>
    obtain ⟨error, hfailed, hmissing⟩ := hmisses.failed
    rw [List.cons_append, Render.selectFrom,
      Action.bind_of_done (Action.attempt_of_failed hfailed)]
    dsimp only
    rw [if_pos hmissing]
    exact ih

theorem selectTemplate_of_found {before : List String} {found : Template}
    (hbefore : Render.PassesOver config before s t)
    (h : Render.getTemplate config name t = (.done found, u)) (after : List String) :
    Render.selectTemplate config (before ++ name :: after) s = (.done (name, found), u) := by
  rw [Render.selectTemplate, selectFrom_of_passesOver hbefore, Render.selectFrom,
    Action.bind_of_done (Action.attempt_of_done h)]
  rfl

theorem selectTemplate_of_failed {before : List String} {error : RenderError}
    (hbefore : Render.PassesOver config before s t)
    (h : Render.getTemplate config name t = (.failed error, u))
    (herror : error.isTemplateNotFound = false) (after : List String) :
    Render.selectTemplate config (before ++ name :: after) s = (.failed error, u) := by
  rw [Render.selectTemplate, selectFrom_of_passesOver hbefore, Render.selectFrom,
    Action.bind_of_done (Action.attempt_of_failed h)]
  dsimp only
  rw [herror]
  rfl

theorem selectTemplate_of_none {names : List String} (h : Render.PassesOver config names s t) :
    Render.selectTemplate config names s =
      (.failed (.lookup (.noTemplateSelected names)), t) := by
  have hselect := selectFrom_of_passesOver h names []
  rw [List.append_nil] at hselect
  exact hselect

theorem selectOptional_of_found {names : List String} {found : String × Template}
    (h : Render.selectTemplate config names s = (.done found, u)) (ignoreMissing : Bool) :
    Render.selectOptional config names ignoreMissing s = (.done (some found), u) := by
  rw [Render.selectOptional, Action.bind_of_done (Action.attempt_of_done h)]
  rfl

theorem selectOptional_of_none {names missing : List String}
    (h : Render.selectTemplate config names s =
      (.failed (.lookup (.noTemplateSelected missing)), u)) (ignoreMissing : Bool) :
    Render.selectOptional config names ignoreMissing s =
      if ignoreMissing then (.done none, u.logged (.notice (.skippingIncludes names)))
      else (.failed (.lookup (.noTemplateSelected missing)), u) := by
  rw [Render.selectOptional, Action.bind_of_done (Action.attempt_of_failed h)]
  cases ignoreMissing <;> rfl

theorem selectOptional_of_failed {names : List String} {error : RenderError}
    {ignoreMissing : Bool} (h : Render.selectTemplate config names s = (.failed error, u))
    (herror : ignoreMissing = true → ∀ missing, error ≠ .lookup (.noTemplateSelected missing)) :
    Render.selectOptional config names ignoreMissing s = (.failed error, u) := by
  rw [Render.selectOptional, Action.bind_of_done (Action.attempt_of_failed h)]
  dsimp only
  split
  case h_1 missing => exact absurd rfl (herror rfl missing)
  case h_2 => rfl

section
variable {references : List String} {candidates : List String}
variable (hcandidates : candidates = references.map fun reference =>
  config.joinPath reference s.session.template)
variable (run : Invoke) (ignoreMissing : Bool)
include hcandidates

/-- A reference to several candidates runs the one that the search finds. -/
theorem includeFirstOf_of_found {found : Template}
    (h : Render.selectOptional config candidates ignoreMissing s =
      (.done (some (name, found)), u)) :
    Render.includeFirstOf config run references ignoreMissing s =
      Render.asTemplate config name .including (Render.runTemplate run found) u := by
  subst hcandidates
  rw [Render.includeFirstOf, Action.bind_read, Action.bind_of_done h]

theorem includeFirstOf_of_none
    (h : Render.selectOptional config candidates ignoreMissing s = (.done none, u)) :
    Render.includeFirstOf config run references ignoreMissing s = (.done (), u) := by
  subst hcandidates
  rw [Render.includeFirstOf, Action.bind_read, Action.bind_of_done h]
  rfl

theorem includeFirstOf_of_failed {error : RenderError}
    (h : Render.selectOptional config candidates ignoreMissing s = (.failed error, u)) :
    Render.includeFirstOf config run references ignoreMissing s = (.failed error, u) := by
  subst hcandidates
  rw [Render.includeFirstOf, Action.bind_read, Action.bind_of_failed h]

/-- The first candidate that can be fetched is run. -/
theorem includeFirstOf_of_fetched {before after : List String} {found : Template}
    (hsplit : candidates = before ++ name :: after)
    (hbefore : Render.PassesOver config before s t)
    (h : Render.getTemplate config name t = (.done found, u)) :
    Render.includeFirstOf config run references ignoreMissing s =
      Render.asTemplate config name .including (Render.runTemplate run found) u := by
  refine includeFirstOf_of_found hcandidates run ignoreMissing ?_
  rw [hsplit]
  exact selectOptional_of_found (selectTemplate_of_found hbefore h after) ignoreMissing

/-- A candidate that is not missing and cannot be fetched ends the search. -/
theorem includeFirstOf_of_stopped {before after : List String} {error : RenderError}
    (hsplit : candidates = before ++ name :: after)
    (hbefore : Render.PassesOver config before s t)
    (h : Render.getTemplate config name t = (.failed error, u))
    (herror : error.isTemplateNotFound = false)
    (hother : ignoreMissing = true → ∀ missing, error ≠ .lookup (.noTemplateSelected missing)) :
    Render.includeFirstOf config run references ignoreMissing s = (.failed error, u) := by
  refine includeFirstOf_of_failed hcandidates run ignoreMissing ?_
  rw [hsplit]
  exact selectOptional_of_failed (selectTemplate_of_failed hbefore h herror after) hother

theorem includeFirstOf_of_missing (h : Render.PassesOver config candidates s t) :
    Render.includeFirstOf config run references ignoreMissing s =
      if ignoreMissing then (.done (), t.logged (.notice (.skippingIncludes candidates)))
      else (.failed (.lookup (.noTemplateSelected candidates)), t) := by
  have hselect := selectOptional_of_none (selectTemplate_of_none h) ignoreMissing
  cases ignoreMissing with
  | true => exact includeFirstOf_of_none hcandidates run true hselect
  | false => exact includeFirstOf_of_failed hcandidates run false hselect

/-- A loader that reports a missing candidate as none of several being found is taken
for a search that found none: the reference is passed over, and the candidates that
are left are not asked for. -/
theorem includeFirstOf_of_misreported {before after missing : List String}
    (hsplit : candidates = before ++ name :: after)
    (hbefore : Render.PassesOver config before s t)
    (h : Render.getTemplate config name t =
      (.failed (.lookup (.noTemplateSelected missing)), u)) :
    Render.includeFirstOf config run references true s =
      (.done (), u.logged (.notice (.skippingIncludes candidates))) := by
  refine includeFirstOf_of_none hcandidates run true ?_
  have hselect := selectTemplate_of_failed hbefore h rfl after
  rw [← hsplit] at hselect
  exact selectOptional_of_none hselect true

end

end

end Templating
