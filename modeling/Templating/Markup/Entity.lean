/-!
# Character entities

Five characters have a meaning of their own in markup.  Escaping writes each of
them as its entity and leaves every other character alone, so it works one
character at a time and commutes with joining texts.  Decoding reads the
entities back from left to right.  A text is clean when markup can take it as
it is: none of the five stands bare, and every ampersand begins an entity.
-/
namespace Templating
namespace Entity

/-- The entity that stands for a character, if it has one. -/
def of? (c : Char) : Option String :=
  match c with
  | '&' => some "&amp;"
  | '>' => some "&gt;"
  | '<' => some "&lt;"
  | '\'' => some "&#39;"
  | '"' => some "&#34;"
  | _ => none

/-- How a character is written in markup. -/
def encodeChar (c : Char) : List Char :=
  match of? c with
  | some entity => entity.toList
  | none => [c]

/-- Write every character as markup takes it. -/
def encode (chars : List Char) : List Char :=
  chars.flatMap encodeChar

/-- Read the entities back, from left to right; all else stands for itself. -/
def decode : List Char → List Char
  | '&' :: 'a' :: 'm' :: 'p' :: ';' :: rest => '&' :: decode rest
  | '&' :: 'g' :: 't' :: ';' :: rest => '>' :: decode rest
  | '&' :: 'l' :: 't' :: ';' :: rest => '<' :: decode rest
  | '&' :: '#' :: '3' :: '9' :: ';' :: rest => '\'' :: decode rest
  | '&' :: '#' :: '3' :: '4' :: ';' :: rest => '"' :: decode rest
  | c :: rest => c :: decode rest
  | [] => []

/-- Markup can take the text as it is: it is made of entities and of characters
that have none. -/
inductive Clean : List Char → Prop
  | nil : Clean []
  | plain {c : Char} {rest : List Char} (h : of? c = none) : Clean rest → Clean (c :: rest)
  | entity {c : Char} {entity : String} {rest : List Char} (h : of? c = some entity) :
      Clean rest → Clean (entity.toList ++ rest)

@[simp] theorem encode_nil : encode [] = [] := rfl

@[simp] theorem encode_cons (c : Char) (rest : List Char) :
    encode (c :: rest) = encodeChar c ++ encode rest := by
  simp [encode]

/-- Escaping a joined text is joining the escaped texts. -/
theorem encode_append (first second : List Char) :
    encode (first ++ second) = encode first ++ encode second := by
  simp [encode]

/-- What escaping writes is clean. -/
theorem clean_encode (chars : List Char) : Clean (encode chars) := by
  induction chars with
  | nil => exact .nil
  | cons c rest ih =>
    rw [encode_cons, encodeChar]
    split
    · exact .entity (by assumption) ih
    · exact .plain (by assumption) ih

/-- Clean texts can be joined. -/
theorem Clean.append {first second : List Char} (hfirst : Clean first) (hsecond : Clean second) :
    Clean (first ++ second) := by
  induction hfirst with
  | nil => exact hsecond
  | plain h _ ih => exact .plain h ih
  | entity h _ ih =>
    rw [List.append_assoc]
    exact .entity h ih

/-- A character that begins no entity is read as itself. -/
theorem decode_cons_of_ne {c : Char} (h : c ≠ '&') (rest : List Char) :
    decode (c :: rest) = c :: decode rest := by
  rw [decode] <;> intros <;> contradiction

/-- Decoding undoes escaping, whatever follows. -/
theorem decode_encodeChar_append (c : Char) (rest : List Char) :
    decode (encodeChar c ++ rest) = c :: decode rest := by
  unfold encodeChar
  fun_cases of? c
  case case6 hamp _ _ _ _ => exact decode_cons_of_ne hamp rest
  all_goals rfl

/-- Decoding undoes escaping. -/
theorem decode_encode (chars : List Char) : decode (encode chars) = chars := by
  induction chars with
  | nil => rfl
  | cons c rest ih => rw [encode_cons, decode_encodeChar_append, ih]

/-- The byte offset of the first character that has an entity, if `offset` is the
offset of the first character given. -/
def specialFrom (offset : String.Pos.Raw) : List Char → Option String.Pos.Raw
  | [] => none
  | c :: rest => if (of? c).isSome then some offset else specialFrom (offset + c) rest

/-- Where in a text the first character that has an entity stands. -/
def firstSpecial? (text : String) : Option String.Pos.Raw :=
  specialFrom 0 text.toList

/-- Write characters one by one behind a text, each as markup takes it. -/
def writeAll (written : String) : List Char → String
  | [] => written
  | c :: rest =>
    match of? c with
    | some entity => writeAll (written ++ entity) rest
    | none => writeAll (written.push c) rest

/-- What is written behind the text is the characters, encoded. -/
theorem toList_writeAll (written : String) (chars : List Char) :
    (writeAll written chars).toList = written.toList ++ encode chars := by
  induction chars generalizing written with
  | nil => simp [writeAll]
  | cons c rest ih =>
    rw [writeAll, encode_cons, encodeChar]
    cases of? c with
    | none => simp [ih]
    | some entity => simp [ih]

/-- The text with every special character written as its entity.  A text without
any is given back as it is, and what stands before the first one is copied in one
piece. -/
def escape (text : String) : String :=
  match firstSpecial? text with
  | none => text
  | some first =>
    writeAll (String.Pos.Raw.extract text 0 first)
      (String.Pos.Raw.extract text first text.rawEndPos).toList

/-- Whether escaping leaves the text as it is, because none of its characters
has an entity. -/
def isPlain (text : String) : Bool :=
  (firstSpecial? text).isNone

end Entity
end Templating
