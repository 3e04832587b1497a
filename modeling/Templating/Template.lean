import Templating.Code
import Templating.Text.Summary

/-!
# Templates and where they come from

A template is a root to render, the definitions of its blocks in the order of
its text, and perhaps a setup of its own, which replaces the registration of
those blocks.  A loader answers a name with a template or an error; that no
template has the name is an error of its own kind, so optional includes can
tell it from all others.
-/
namespace Templating

/-- A compiled template. -/
structure Template where
  /-- The name it is registered under. -/
  name : String
  /-- What is rendered. -/
  root : Body
  /-- What runs before the root instead of registering the blocks. -/
  setup : Option Body
  /-- The definitions of its blocks. -/
  blocks : Table Body

namespace Template

/-- The template that is built from its parts; a block defined again replaces
its body and keeps its place. -/
def build (name : String) (root setup : Option Body) (blocks : List (String × Body)) : Template :=
  ⟨name, root.getD [], setup, Table.ofList blocks⟩

/-- The summary of a template. -/
def summary (t : Template) : String :=
  Summary.openRecord "Template"
    [("name", Text.quoted t.name), ("blocks", Summary.texts t.blocks.keys),
      ("custom_setup", Summary.bool t.setup.isSome)]

end Template

/-- A source of templates. -/
abbrev Loader := String → Except RenderError Template

/-- Templates held in memory under their own names. -/
structure TemplateStore where
  templates : Table Template

namespace TemplateStore

/-- The store without templates. -/
def empty : TemplateStore := ⟨Table.empty⟩

/-- Add a template, in place of another of its name. -/
def add (s : TemplateStore) (t : Template) : TemplateStore :=
  ⟨s.templates.insert t.name t⟩

/-- The store of several templates, added in turn. -/
def ofList (templates : List Template) : TemplateStore :=
  templates.foldl add empty

/-- The number of templates. -/
def size (s : TemplateStore) : Nat := s.templates.size

/-- The template of a name. -/
def get? (s : TemplateStore) (name : String) : Option Template :=
  s.templates.get? name

/-- The store as a source of templates. -/
def load (s : TemplateStore) : Loader := fun name =>
  match s.get? name with
  | some t => .ok t
  | none => .error (.lookup (.templateNotFound name))

end TemplateStore

namespace Loader

/-- Ask for a name under its alias, the first one that fits. -/
def aliased (aliases : List (String × String)) (loader : Loader) : Loader := fun name =>
  loader ((aliases.lookup name).getD name)

/-- Fail on some names, whatever the source has. -/
def refusing (broken : List String) (loader : Loader) : Loader := fun name =>
  if name ∈ broken then .error (.filter "loader" name) else loader name

end Loader
end Templating
