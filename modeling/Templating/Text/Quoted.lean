import Templating.Text.Unshown

/-!
# Quoted text

Diagnostic summaries show a text between double quotes.  Inside, the quote and
the backslash are written with a backslash before them, the four common control
characters have their short forms, and any other character without a glyph is
written by its number in hexadecimal digits.  All else stands for itself.
-/
namespace Templating
namespace Text

/-- The hexadecimal digits of a number, without leading zeros. -/
def hexDigits (n : Nat) : String :=
  String.ofList (Nat.toDigits 16 n)

/-- How one character is written between double quotes. -/
def quotedChar (c : Char) : String :=
  match c with
  | '"' => "\\\""
  | '\\' => "\\\\"
  | '\n' => "\\n"
  | '\r' => "\\r"
  | '\t' => "\\t"
  | _ =>
    if c.toNat = 0 then "\\0"
    else if isUnshown c then "\\u\x7b" ++ hexDigits c.toNat ++ "\x7d"
    else c.toString

/-- A text between double quotes. -/
def quoted (text : String) : String :=
  "\"" ++ String.join (text.toList.map quotedChar) ++ "\""

end Text
end Templating
