import Templating.Template

/-!
# Configuration

A configuration is made once and stays the same through a render.  It holds the
filters and tests, the source of templates, the rule that joins a reference to
the name of the template it stands in, and the policies on escaping, undefined
values and elements that do not fit their targets.
-/
namespace Templating

/-- A filter: a value and further arguments to a value. -/
abbrev Filter := Value → List Value → Except RenderError Value

/-- A test: a value and further arguments to a truth value. -/
abbrev Test := Value → List Value → Except RenderError Bool

/-- The rule that joins a reference to the name of the template it stands in. -/
abbrev PathJoiner := String → Option String → String

/-- How the initial escaping of a template is chosen. -/
inductive Autoescape where
  /-- The same for every template. -/
  | always (enabled : Bool)
  /-- Decided from the template's name. -/
  | byName (decide : Option String → Bool)

namespace Autoescape

/-- The escaping a template of this name begins with. -/
def initial (a : Autoescape) (name : Option String) : Bool :=
  match a with
  | always enabled => enabled
  | byName decide => decide name

/-- Escape in templates whose names have one of the endings. -/
def bySuffix (suffixes : List String) (unnamed : Bool) : Autoescape :=
  byName fun name =>
    match name with
    | some name => suffixes.any fun suffix => suffix.toList.isSuffixOf name.toList
    | none => unnamed

/-- The summary of the choice. -/
def summary : Autoescape → String
  | always enabled => Summary.wrapped "Always" (Summary.bool enabled)
  | byName _ => "ByName(..)"

end Autoescape

/-- What happens when an undefined value is written out or looped over. -/
inductive UndefinedPolicy where
  /-- It is written as nothing and has no elements. -/
  | lenient
  /-- It is an error. -/
  | strict
  deriving DecidableEq, Repr

/-- Everything a render is set up with. -/
structure Config where
  autoescape : Autoescape
  filters : Table Filter
  tests : Table Test
  loader : Loader
  joiner : Option PathJoiner
  undefinedPolicy : UndefinedPolicy
  unpacking : Unpacking

namespace Config

/-- Nothing escaped, no filters or tests, no templates, references taken as they
are, undefined values and misfits let pass. -/
def basic : Config where
  autoescape := .always false
  filters := Table.empty
  tests := Table.empty
  loader := TemplateStore.empty.load
  joiner := none
  undefinedPolicy := .lenient
  unpacking := default

/-- One thing that is said about a configuration while it is made. -/
inductive Setting where
  | autoescape (choice : Autoescape)
  | filter (name : String) (filter : Filter)
  | test (name : String) (test : Test)
  | loader (loader : Loader)
  | joiner (join : PathJoiner)
  | undefinedPolicy (policy : UndefinedPolicy)
  | unpacking (unpacking : Unpacking)

/-- The configuration after one more setting.  A filter or a test takes the place
of an earlier one of its name, and every other setting that of an earlier one of
its kind. -/
def set (config : Config) : Setting → Config
  | .autoescape choice => { config with autoescape := choice }
  | .filter name filter => { config with filters := config.filters.insert name filter }
  | .test name test => { config with tests := config.tests.insert name test }
  | .loader loader => { config with loader := loader }
  | .joiner join => { config with joiner := some join }
  | .undefinedPolicy policy => { config with undefinedPolicy := policy }
  | .unpacking unpacking => { config with unpacking := unpacking }

/-- The configuration that is made by several settings, one after another. -/
def build (settings : List Setting) : Config :=
  settings.foldl set basic

/-- The name a reference stands for in the template `origin`. -/
def joinPath (config : Config) (name : String) (origin : Option String) : String :=
  match config.joiner with
  | some join => join name origin
  | none => name

/-- Apply the filter of a name. -/
def callFilter (config : Config) (name : String) (v : Value) (arguments : List Value) :
    Except RenderError Value :=
  match config.filters.get? name with
  | some filter => filter v arguments
  | none => .error (.lookup (.unknownFilter name config.filters.names))

/-- Apply the test of a name. -/
def callTest (config : Config) (name : String) (v : Value) (arguments : List Value) :
    Except RenderError Bool :=
  match config.tests.get? name with
  | some test => test v arguments
  | none => .error (.lookup (.unknownTest name config.tests.names))

/-- The summary of a configuration. -/
def summary (config : Config) : String :=
  Summary.openRecord "Config"
    [("autoescape", config.autoescape.summary),
      ("filters", Summary.texts config.filters.names),
      ("tests", Summary.texts config.tests.names),
      ("undefined",
        match config.undefinedPolicy with
        | .lenient => "Lenient"
        | .strict => "Strict"),
      ("unpacking", Summary.record "Unpacking"
        [("strict", Summary.bool config.unpacking.isStrict),
          ("allow_non_iterable", Summary.bool config.unpacking.allowsNonIterable)])]

end Config
end Templating
