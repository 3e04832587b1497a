import Templating.Name

/-!
# Errors

An error is a cause with the data that belongs to it.  Its wording, its code and
its help are functions of the cause, so that code which reacts to an error
looks at the cause and never at a text.

Looking up a variable that nothing binds is no error.  Only the strict policy
on undefined values makes one of it, once the value is written out or looped
over.
-/
namespace Templating

/-- Something that template code named does not exist. -/
inductive LookupError where
  /-- No filter is registered under the name. -/
  | unknownFilter (name : String) (known : List String)
  /-- No test is registered under the name. -/
  | unknownTest (name : String) (known : List String)
  /-- The loader has no template of the name. -/
  | templateNotFound (name : String)
  /-- None of several candidates could be loaded; the names in the order they
  were tried. -/
  | noTemplateSelected (names : List String)
  /-- No block of the name is registered. -/
  | blockNotFound (name : String) (known : List String)
  /-- The block has fewer definitions than the number of levels asks for. -/
  | blockLevelOverflow (name : String) (levelsUp depth : Nat)
  /-- The level is not a negative number. -/
  | invalidBlockLevel (name : String) (level : Int)
  /-- The overridden definition was asked for outside of any block. -/
  | notInBlock
  deriving DecidableEq, Repr

/-- All that can end a render early. -/
inductive RenderError where
  | lookup (cause : LookupError)
  /-- An undefined value was used under the strict policy. -/
  | undefined (name : String)
  /-- A value has the wrong shape for what was done with it. -/
  | type (expected found context : String)
  /-- An element has not as many parts as there are names for them. -/
  | unpack (expected found : Nat)
  /-- A filter, a test or a loader reported a failure. -/
  | filter (name message : String)
  /-- The sink refused a chunk. -/
  | output
  deriving DecidableEq, Repr

namespace LookupError

/-- The name of the cause. -/
def kind : LookupError → String
  | unknownFilter .. => "UnknownFilter"
  | unknownTest .. => "UnknownTest"
  | templateNotFound .. => "TemplateNotFound"
  | noTemplateSelected .. => "NoTemplateSelected"
  | blockNotFound .. => "BlockNotFound"
  | blockLevelOverflow .. => "BlockLevelOverflow"
  | invalidBlockLevel .. => "InvalidBlockLevel"
  | notInBlock => "NotInBlock"

/-- The wording. -/
def message : LookupError → String
  | unknownFilter name _ => "Unknown filter `" ++ name ++ "`"
  | unknownTest name _ => "Unknown test `" ++ name ++ "`"
  | templateNotFound name => "Template `" ++ name ++ "` not found"
  | noTemplateSelected names =>
    "None of the templates " ++ Name.listing names ++ " could be found"
  | blockNotFound name _ => "Block `" ++ name ++ "` is not defined"
  | blockLevelOverflow name levelsUp depth =>
    "Block `" ++ name ++ "` has " ++ toString depth ++ " definition(s), cannot go " ++
      toString levelsUp ++ " level(s) up"
  | invalidBlockLevel name level =>
    "Invalid level " ++ toString level ++ " for block `" ++ name ++ "`"
  | notInBlock => "Parent block requested outside of any block"

/-- The code under which the cause is documented. -/
def code : LookupError → String
  | unknownFilter .. => "ramure::unknown_filter"
  | unknownTest .. => "ramure::unknown_test"
  | templateNotFound .. => "ramure::template_not_found"
  | noTemplateSelected .. => "ramure::no_template_selected"
  | blockNotFound .. => "ramure::block_not_found"
  | blockLevelOverflow .. => "ramure::block_level_overflow"
  | invalidBlockLevel .. => "ramure::invalid_block_level"
  | notInBlock => "ramure::not_in_block"

/-- What may help to mend the cause. -/
def help? : LookupError → Option String
  | unknownFilter _ known => some ("Available filters: " ++ Name.listing known)
  | unknownTest _ known => some ("Available tests: " ++ Name.listing known)
  | blockNotFound _ known => some ("Defined blocks: " ++ Name.listing known)
  | invalidBlockLevel .. => some "levels count from -1 for the most specific definition"
  | _ => none

end LookupError

namespace RenderError

/-- The name of the cause. -/
def kind : RenderError → String
  | lookup cause => cause.kind
  | undefined .. => "Undefined"
  | type .. => "Type"
  | unpack .. => "Unpack"
  | filter .. => "Filter"
  | output => "Output"

/-- The wording. -/
def message : RenderError → String
  | lookup cause => cause.message
  | undefined name => "Variable `" ++ name ++ "` is not defined"
  | type expected found _ => "Expected " ++ expected ++ ", found " ++ found
  | unpack expected found =>
    "Cannot unpack " ++ toString found ++ " value(s) into " ++ toString expected ++ " name(s)"
  | filter name message => "Filter `" ++ name ++ "` failed: " ++ message
  | output => "Failed to write template output"

/-- The code under which the cause is documented. -/
def code : RenderError → String
  | lookup cause => cause.code
  | undefined .. => "ramure::undefined"
  | type .. => "ramure::type_error"
  | unpack .. => "ramure::unpack"
  | filter .. => "ramure::filter"
  | output => "ramure::output"

/-- What may help to mend the cause. -/
def help? : RenderError → Option String
  | lookup cause => cause.help?
  | type _ _ context => some ("while " ++ context)
  | _ => none

/-- Whether something named in the template does not exist. -/
def isLookupFailure : RenderError → Bool
  | lookup _ => true
  | _ => false

/-- Whether a template could not be found. -/
def isTemplateNotFound : RenderError → Bool
  | lookup (.templateNotFound _) => true
  | _ => false

end RenderError
end Templating
