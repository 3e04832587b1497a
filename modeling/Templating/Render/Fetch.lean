import Templating.Render.Output

/-!
# Fetching templates

A template is loaded the first time its name is asked for and comes from the
cache from then on.  A failed load leaves the cache as it was, so the name is
asked for again the next time.
-/
namespace Templating
namespace Render

variable (config : Config)

/-- The name a reference stands for in the running template. -/
def resolveName (name : String) : Render String :=
  Action.read fun s => config.joinPath name s.session.template

theorem resolveName_of_joinPath {config : Config} {name resolved : String} {s : State}
    (h : config.joinPath name s.session.template = resolved) :
    resolveName config name s = (.done resolved, s) := by
  rw [← h]
  rfl

/-- Ask the loader for a template. -/
def load (name : String) : Render Template := do
  notify (.loadingTemplate name)
  log (.load name)
  Action.ofExcept (config.loader name)

/-- Put a template into the cache. -/
def remember (name : String) (t : Template) : Render Unit :=
  Action.modify fun s =>
    { s with session := { s.session with cache := s.session.cache.insert name t } }

/-- The template of a name, loaded on first use. -/
def getTemplate (name : String) : Render Template := do
  match ← Action.read fun s => s.session.cache.get? name with
  | some t =>
    notify (.templateCacheHit name)
    return t
  | none =>
    let t ← load config name
    remember name t
    return t

/-- The first of the names whose template can be found, with that template.  An
error other than a missing template ends the search. -/
def selectFrom (all : List String) : List String → Render (String × Template)
  | [] => Action.fail (.lookup (.noTemplateSelected all))
  | name :: rest => do
    match ← Action.attempt (getTemplate config name) with
    | .ok t => return (name, t)
    | .error error =>
      if error.isTemplateNotFound then selectFrom all rest else Action.fail error

/-- The first of several candidates that can be found. -/
def selectTemplate (names : List String) : Render (String × Template) :=
  selectFrom config names names

/-- The template of a name, or nothing if a missing one may be passed over. -/
def getOptional (name : String) (ignoreMissing : Bool) : Render (Option Template) := do
  match ← Action.attempt (getTemplate config name) with
  | .ok t => return some t
  | .error error =>
    if ignoreMissing && error.isTemplateNotFound then
      notify (.skippingInclude name)
      return none
    else Action.fail error

/-- The first of several candidates, or nothing if there may be none. -/
def selectOptional (names : List String) (ignoreMissing : Bool) :
    Render (Option (String × Template)) := do
  match ← Action.attempt (selectTemplate config names) with
  | .ok found => return some found
  | .error error =>
    match error, ignoreMissing with
    | .lookup (.noTemplateSelected _), true =>
      notify (.skippingIncludes names)
      return none
    | _, _ => Action.fail error

end Render
end Templating
