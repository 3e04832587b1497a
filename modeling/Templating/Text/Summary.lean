import Templating.Text.Quoted

/-!
# Summaries: the one-line notation of diagnostics

A summary shows a thing by its kind and its fields in one line.  Lists stand in
square brackets, tables and records in braces, an optional part is wrapped in
the word that tells whether it is there, and a record that keeps some of its
fields back ends in two dots.
-/
namespace Templating
namespace Summary

/-- Parts divided by a comma and a blank. -/
def commaSeparated (parts : List String) : String :=
  ", ".intercalate parts

/-- A truth value. -/
def bool (b : Bool) : String :=
  if b then "true" else "false"

/-- A list of summaries. -/
def list (items : List String) : String :=
  "[" ++ commaSeparated items ++ "]"

/-- A list of quoted texts. -/
def texts (items : List String) : String :=
  list (items.map Text.quoted)

/-- A table whose entries are summaries already. -/
def table (entries : List (String × String)) : String :=
  "\x7b" ++ commaSeparated (entries.map fun entry => Text.quoted entry.1 ++ ": " ++ entry.2) ++
    "\x7d"

/-- A kind that wraps one part. -/
def wrapped (kind part : String) : String :=
  kind ++ "(" ++ part ++ ")"

/-- An optional part. -/
def option (part : Option String) : String :=
  match part with
  | none => "None"
  | some shown => wrapped "Some" shown

/-- The fields of a record, each after its name. -/
def fields (entries : List (String × String)) : String :=
  commaSeparated (entries.map fun entry => entry.1 ++ ": " ++ entry.2)

/-- A record shown in full. -/
def record (kind : String) (entries : List (String × String)) : String :=
  kind ++ " \x7b " ++ fields entries ++ " \x7d"

/-- A record that keeps some of its fields back. -/
def openRecord (kind : String) (entries : List (String × String)) : String :=
  kind ++ " \x7b " ++ fields entries ++ ", .. \x7d"

end Summary
end Templating
