import Mathlib.Data.String.Basic
import Templating.Markup

/-!
# Escaped text

Escaping looks for the first character that has an entity, by its offset in bytes,
copies what stands before it in one piece and writes the rest one by one; a text
without any is given back as it is.  Either way the text that comes out is the
characters' entities and the characters themselves, one after the other
(`Entity.toList_escape`), so that what is known of `Entity.encode` holds of it.

A text is clean if none of `< > ' "` stands in it and every ampersand begins one of
the five entities (`Entity.clean_iff`).  Escaped text is clean, and it can be read
back, since an entity is never made of a character and the one that follows it.
Markup that texts are joined to therefore depends on their characters only, and
not on how they were cut into pieces (`escapeLaw`).
-/
namespace Templating

namespace Entity

/-! ## The two paths -/

/-- The characters that have an entity. -/
theorem of?_eq_none_iff {c : Char} :
    of? c = none ↔ c ≠ '&' ∧ c ≠ '>' ∧ c ≠ '<' ∧ c ≠ '\'' ∧ c ≠ '"' := by
  unfold of?
  split <;> simp_all

/-- Nothing is found exactly in a text whose characters have no entity. -/
theorem specialFrom_eq_none_iff {offset : String.Pos.Raw} {chars : List Char} :
    specialFrom offset chars = none ↔ ∀ c ∈ chars, of? c = none := by
  induction chars generalizing offset with
  | nil => simp [specialFrom]
  | cons c rest ih =>
    rw [specialFrom, List.forall_mem_cons]
    cases hc : of? c with
    | none => simp [ih]
    | some entity => simp

/-- What stands before the character found has no entity, and is as long as the
offset says. -/
theorem eq_append_of_specialFrom {offset first : String.Pos.Raw} {chars : List Char}
    (h : specialFrom offset chars = some first) :
    ∃ before after, chars = before ++ after ∧ (∀ c ∈ before, of? c = none) ∧
      first.byteIdx = offset.byteIdx + String.utf8Len before := by
  induction chars generalizing offset with
  | nil => cases h
  | cons c rest ih =>
    rw [specialFrom] at h
    cases hc : of? c with
    | some entity =>
      rw [hc] at h
      cases h
      exact ⟨[], c :: rest, rfl, fun d hd => absurd hd List.not_mem_nil, rfl⟩
    | none =>
      rw [hc] at h
      obtain ⟨before, after, rfl, hbefore, hfirst⟩ := ih h
      refine ⟨c :: before, after, rfl, List.forall_mem_cons.mpr ⟨hc, hbefore⟩, ?_⟩
      rw [hfirst, String.Pos.Raw.byteIdx_add_char, String.utf8Len_cons]
      omega

/-- A character that has no entity is written as itself. -/
theorem encodeChar_of_none {c : Char} (h : of? c = none) : encodeChar c = [c] := by
  rw [encodeChar, h]

/-- Characters without an entity are written as they are. -/
theorem encode_of_forall {chars : List Char} (h : ∀ c ∈ chars, of? c = none) :
    encode chars = chars := by
  induction chars with
  | nil => rfl
  | cons c rest ih =>
    obtain ⟨hc, hrest⟩ := List.forall_mem_cons.mp h
    rw [encode_cons, encodeChar_of_none hc, ih hrest]
    rfl

/-- A text cut at the end of some first characters. -/
theorem extract_at (before after : List Char) {first : String.Pos.Raw}
    (h : first.byteIdx = String.utf8Len before) :
    String.Pos.Raw.extract (String.ofList (before ++ after)) 0 first = String.ofList before ∧
      String.Pos.Raw.extract (String.ofList (before ++ after)) first
        (String.ofList (before ++ after)).rawEndPos = String.ofList after := by
  obtain rfl : first = ⟨String.utf8Len before⟩ := String.Pos.Raw.ext h
  constructor
  · simpa using String.extract_of_valid [] before after
  · rw [String.rawEndPos_ofList, String.utf8Len_append]
    simpa using String.extract_of_valid before after []

/-- On both of its paths escaping writes what encoding each character gives. -/
theorem toList_escape (text : String) : (escape text).toList = encode text.toList := by
  unfold escape
  cases hfirst : firstSpecial? text with
  | none => exact (encode_of_forall (specialFrom_eq_none_iff.mp hfirst)).symm
  | some first =>
    obtain ⟨before, after, hchars, hbefore, hoffset⟩ := eq_append_of_specialFrom hfirst
    obtain rfl : text = String.ofList (before ++ after) := by
      rw [← hchars, String.ofList_toList]
    obtain ⟨hcopied, hremaining⟩ := extract_at before after (by simpa using hoffset)
    calc (writeAll _ _).toList
        = before ++ encode after := by
          rw [hcopied, hremaining, toList_writeAll, String.toList_ofList, String.toList_ofList]
      _ = encode (String.ofList (before ++ after)).toList := by
          rw [String.toList_ofList, encode_append, encode_of_forall hbefore]

/-! ## Clean texts -/

/-- An entity is an ampersand with characters that have none. -/
theorem entity_shape {c : Char} {entity : String} (h : of? c = some entity) :
    ∃ name : List Char, entity.toList = '&' :: name ∧ ∀ d ∈ name, of? d = none := by
  unfold of? at h
  split at h <;> cases h
  · exact ⟨['a', 'm', 'p', ';'], rfl, by simp [of?]⟩
  · exact ⟨['g', 't', ';'], rfl, by simp [of?]⟩
  · exact ⟨['l', 't', ';'], rfl, by simp [of?]⟩
  · exact ⟨['#', '3', '9', ';'], rfl, by simp [of?]⟩
  · exact ⟨['#', '3', '4', ';'], rfl, by simp [of?]⟩

theorem suffix_append_of_forall_ne {c : Char} {rest name tail : List Char}
    (hname : ∀ d ∈ name, d ≠ c) (h : c :: rest <:+ name ++ tail) : c :: rest <:+ tail := by
  induction name with
  | nil => exact h
  | cons d name ih =>
    rcases List.suffix_cons_iff.mp h with heq | hsuffix
    · cases heq
      exact absurd rfl (hname c (List.mem_cons_self ..))
    · exact ih (fun e he => hname e (List.mem_cons_of_mem _ he)) hsuffix

/-- Every ampersand of a text begins an entity. -/
def AmpersandsBegin (chars : List Char) : Prop :=
  ∀ rest, '&' :: rest <:+ chars → ∃ c entity, of? c = some entity ∧
    entity.toList <+: '&' :: rest

theorem Clean.of_ampersandsBegin {chars : List Char}
    (hplain : ∀ c ∈ chars, c ≠ '<' ∧ c ≠ '>' ∧ c ≠ '\'' ∧ c ≠ '"')
    (hamp : AmpersandsBegin chars) : Clean chars := by
  -- An entity takes several characters at once, so the induction is on the length.
  induction hn : chars.length using Nat.strongRecOn generalizing chars with
  | ind n ih =>
    subst hn
    cases chars with
    | nil => exact .nil
    | cons c rest =>
      by_cases hc : c = '&'
      · subst hc
        obtain ⟨d, entity, hd, tail, htail⟩ := hamp rest (List.suffix_refl _)
        obtain ⟨name, hname, -⟩ := entity_shape hd
        have hsuffix : tail <:+ '&' :: rest := ⟨entity.toList, htail⟩
        have hlength : tail.length < ('&' :: rest).length := by
          rw [← htail, hname, List.length_append, List.length_cons]
          omega
        have htailClean : Clean tail := ih tail.length hlength
          (fun c hc => hplain c (hsuffix.subset hc))
          (fun rest' h => hamp rest' (h.trans hsuffix)) rfl
        rw [← htail]
        exact .entity hd htailClean
      · obtain ⟨hlt, hgt, hsingle, hdouble⟩ := hplain c (List.mem_cons_self ..)
        have hsuffix : rest <:+ c :: rest := List.suffix_cons c rest
        have hlength : rest.length < (c :: rest).length := by
          rw [List.length_cons]
          omega
        have hrestClean : Clean rest := ih rest.length hlength
          (fun c hc => hplain c (List.mem_cons_of_mem _ hc))
          (fun rest' h => hamp rest' (h.trans hsuffix)) rfl
        exact .plain (of?_eq_none_iff.mpr ⟨hc, hgt, hlt, hsingle, hdouble⟩) hrestClean

/-- A text is clean exactly if it has none of the four characters that never stand
for themselves, and every ampersand begins an entity. -/
theorem clean_iff (chars : List Char) : Clean chars ↔
    (∀ c ∈ chars, c ≠ '<' ∧ c ≠ '>' ∧ c ≠ '\'' ∧ c ≠ '"') ∧ AmpersandsBegin chars := by
  refine ⟨fun h => ?_, fun h => .of_ampersandsBegin h.1 h.2⟩
  induction h with
  | nil =>
    refine ⟨fun c hc => absurd hc List.not_mem_nil, fun rest h => ?_⟩
    exact absurd (List.suffix_nil.mp h) (List.cons_ne_nil _ _)
  | @plain c rest hc _ ih =>
    obtain ⟨hamp, hgt, hlt, hsingle, hdouble⟩ := of?_eq_none_iff.mp hc
    refine ⟨?_, fun rest' h => ?_⟩
    · rintro d hd
      rcases List.mem_cons.mp hd with rfl | hd
      · exact ⟨hlt, hgt, hsingle, hdouble⟩
      · exact ih.1 d hd
    · rcases List.suffix_cons_iff.mp h with heq | hsuffix
      · cases heq
        exact absurd rfl hamp
      · exact ih.2 rest' hsuffix
  | @entity c entity rest hc _ ih =>
    obtain ⟨name, hentity, hname⟩ := entity_shape hc
    refine ⟨?_, fun rest' h => ?_⟩
    · rintro d hd
      rw [hentity, List.cons_append] at hd
      rcases List.mem_cons.mp hd with rfl | hd
      · decide
      rcases List.mem_append.mp hd with hd | hd
      · obtain ⟨-, hgt, hlt, hsingle, hdouble⟩ := of?_eq_none_iff.mp (hname d hd)
        exact ⟨hlt, hgt, hsingle, hdouble⟩
      · exact ih.1 d hd
    · rw [hentity, List.cons_append] at h
      rcases List.suffix_cons_iff.mp h with heq | hsuffix
      · cases heq
        exact ⟨c, entity, hc, by rw [hentity]; exact ⟨rest, rfl⟩⟩
      · -- No other character of the entity is an ampersand.
        refine ih.2 rest' (suffix_append_of_forall_ne (fun d hd => ?_) hsuffix)
        exact (of?_eq_none_iff.mp (hname d hd)).1

/-- Clean texts put together are clean. -/
theorem clean_join {texts : List String} (h : ∀ text ∈ texts, Clean text.toList) :
    Clean (String.join texts).toList := by
  induction texts with
  | nil =>
    rw [String.join_nil]
    exact .nil
  | cons text rest ih =>
    rw [String.join_cons, String.toList_append]
    exact (h text (List.mem_cons_self ..)).append (ih fun t ht => h t (List.mem_cons_of_mem _ ht))

theorem clean_escape (text : String) : Clean (escape text).toList := by
  rw [toList_escape]
  exact clean_encode _

/-! ## Escaping again -/

/-- An entity is longer than the character that it stands for. -/
theorem one_lt_length_encodeChar {c : Char} {entity : String} (h : of? c = some entity) :
    1 < (encodeChar c).length := by
  rw [encodeChar, h]
  unfold of? at h
  split at h <;> cases h <;> decide

/-- Encoding never makes a text shorter. -/
theorem length_le_length_encode (chars : List Char) : chars.length ≤ (encode chars).length := by
  induction chars with
  | nil => exact Nat.le_refl _
  | cons c rest ih =>
    rw [encode_cons, List.length_append, List.length_cons]
    cases hc : of? c with
    | none =>
      rw [encodeChar_of_none hc, List.length_singleton]
      omega
    | some entity =>
      have hlonger := one_lt_length_encodeChar hc
      omega

/-- Only a text whose characters have no entity is encoded as itself. -/
theorem encode_eq_self_iff {chars : List Char} :
    encode chars = chars ↔ ∀ c ∈ chars, of? c = none := by
  refine ⟨fun h => ?_, encode_of_forall⟩
  induction chars with
  | nil => exact fun c hc => absurd hc List.not_mem_nil
  | cons c rest ih =>
    rw [encode_cons] at h
    cases hc : of? c with
    | none =>
      rw [encodeChar_of_none hc, List.singleton_append] at h
      exact List.forall_mem_cons.mpr ⟨hc, ih (List.cons.inj h).2⟩
    | some entity =>
      -- The entity is longer than the character, and the rest does not get shorter.
      have hlength := congrArg List.length h
      have hlonger := one_lt_length_encodeChar hc
      have hrest := length_le_length_encode rest
      rw [List.length_append, List.length_cons] at hlength
      omega

/-- Escaping loses nothing. -/
theorem decode_escape (text : String) : String.ofList (decode (escape text).toList) = text := by
  rw [toList_escape, decode_encode, String.ofList_toList]

/-- Different texts are escaped differently. -/
theorem escape_injective : Function.Injective escape := by
  intro first second h
  rw [← decode_escape first, h, decode_escape]

/-- Escaping a joined text is joining the escaped texts. -/
theorem escape_append (first second : String) :
    escape (first ++ second) = escape first ++ escape second := by
  apply String.toList_injective
  rw [String.toList_append]
  simp only [toList_escape, String.toList_append, encode_append]

/-- Escaping leaves alone just the texts without special characters. -/
theorem escape_eq_self_iff (text : String) :
    escape text = text ↔ ∀ c ∈ text.toList, of? c = none := by
  rw [← String.toList_inj, toList_escape, encode_eq_self_iff]

/-- The text that stands for a character in markup. -/
def written (c : Char) : String :=
  (of? c).getD (String.singleton c)

theorem toList_written (c : Char) : (written c).toList = encodeChar c := by
  unfold written encodeChar
  cases of? c with
  | none => rw [Option.getD_none, String.toList_singleton]
  | some entity => rfl

/-- Escaped text is what stands for its characters, one after the other. -/
theorem escape_eq_join (text : String) : escape text = String.join (text.toList.map written) := by
  apply String.toList_injective
  rw [toList_escape, String.toList_join, List.flatMap_map, encode]
  simp only [toList_written]

/-- The search for a special character finds none exactly in a text that escaping
leaves as it is. -/
theorem isPlain_iff (text : String) : isPlain text = true ↔ escape text = text := by
  rw [isPlain, firstSpecial?, Option.isNone_iff_eq_none, specialFrom_eq_none_iff,
    escape_eq_self_iff]

/-- Escaping a second time changes nothing only where the first time changed
nothing either. -/
theorem escape_escape_iff (text : String) :
    escape (escape text) = escape text ↔ ∀ c ∈ text.toList, of? c = none := by
  rw [← escape_eq_self_iff]
  exact escape_injective.eq_iff

end Entity

/-! ## Joining pieces -/

/-- What is joined to markup: plain text, or text that somebody vouches for. -/
inductive Piece
  | text (text : String)
  | markup (m : Markup)

namespace Piece

/-- Markup with one more piece at its end: what pushing the piece, `+` and `+=` come
to. -/
def joinTo (m : Markup) : Piece → Markup
  | text t => m.appendText t
  | markup other => m ++ other

/-- What a piece adds to the text. -/
def shown : Piece → String
  | text t => Entity.escape t
  | markup m => m.text

/-- The characters of a piece, each with whether somebody vouches for it. -/
def marked : Piece → List (Char × Bool)
  | text t => t.toList.map fun c => (c, false)
  | markup m => m.text.toList.map fun c => (c, true)

/-- What a character adds to the text. -/
def shownChar : Char × Bool → List Char
  | (c, true) => [c]
  | (c, false) => Entity.encodeChar c

theorem text_joinTo (m : Markup) (piece : Piece) :
    (joinTo m piece).text = m.text ++ piece.shown := by
  cases piece <;> rfl

/-- A piece adds what its characters add. -/
theorem toList_shown (piece : Piece) : piece.shown.toList = piece.marked.flatMap shownChar := by
  cases piece with
  | text t =>
    rw [marked, List.flatMap_map]
    exact Entity.toList_escape t
  | markup m =>
    rw [marked, List.flatMap_map]
    exact (List.flatMap_singleton' _).symm

end Piece

namespace Markup

/-- Markup with several pieces at its end, joined one by one. -/
def joinAll (m : Markup) (pieces : List Piece) : Markup :=
  pieces.foldl Piece.joinTo m

theorem text_joinAll (m : Markup) (pieces : List Piece) :
    (m.joinAll pieces).text = m.text ++ String.join (pieces.map Piece.shown) := by
  induction pieces generalizing m with
  | nil => simp [joinAll]
  | cons piece rest ih =>
    calc (m.joinAll (piece :: rest)).text
        = ((Piece.joinTo m piece).joinAll rest).text := rfl
      _ = m.text ++ String.join ((piece :: rest).map Piece.shown) := by
          rw [ih, Piece.text_joinTo, List.map_cons, String.join_cons, String.append_assoc]

/-- How the characters are cut into pieces does not matter. -/
theorem joinAll_congr (m : Markup) {first second : List Piece}
    (h : first.flatMap Piece.marked = second.flatMap Piece.marked) :
    m.joinAll first = m.joinAll second := by
  have hshown (pieces : List Piece) : (String.join (pieces.map Piece.shown)).toList =
      (pieces.flatMap Piece.marked).flatMap Piece.shownChar := by
    rw [String.toList_join, List.flatMap_map, List.flatMap_assoc]
    simp only [Piece.toList_shown]
  have hjoin : String.join (first.map Piece.shown) = String.join (second.map Piece.shown) := by
    apply String.toList_injective
    rw [hshown, hshown, h]
  have htext : (m.joinAll first).text = (m.joinAll second).text := by
    rw [text_joinAll, text_joinAll, hjoin]
  cases hfirst : m.joinAll first
  cases hsecond : m.joinAll second
  simpa [hfirst, hsecond] using htext

end Markup

/-! ## The law -/

open Entity in
/-- Escaping encodes text without loss, one character at a time. -/
structure EscapeLaw : Prop where
  /-- What stands for the characters stands there, in their order. -/
  characters : ∀ text, escape text = String.join (text.toList.map written)
  /-- The text that comes back as it is, is the one in which no special character
  was found. -/
  untouched : ∀ text, isPlain text = true ↔ escape text = text
  /-- Four of the five characters stand nowhere in it. -/
  bare : ∀ text, ∀ c ∈ (escape text).toList, c ≠ '<' ∧ c ≠ '>' ∧ c ≠ '\'' ∧ c ≠ '"'
  /-- The fifth stands only where an entity begins. -/
  ampersands : ∀ text, AmpersandsBegin (escape text).toList
  /-- Reading the entities back, from left to right, gives the text. -/
  decoded : ∀ text, String.ofList (decode (escape text).toList) = text
  /-- So no two texts are escaped alike. -/
  injective : Function.Injective escape
  /-- A joined text is escaped part by part. -/
  append : ∀ first second, escape (first ++ second) = escape first ++ escape second
  /-- Escaping again changes every text that has one of the five characters. -/
  again : ∀ text, escape (escape text) = escape text ↔
    ∀ c ∈ text.toList, c ≠ '&' ∧ c ≠ '>' ∧ c ≠ '<' ∧ c ≠ '\'' ∧ c ≠ '"'
  /-- Pieces joined to markup follow it in order: markup as it stands, text escaped. -/
  joined : ∀ (m : Markup) pieces,
    (m.joinAll pieces).text = m.text ++ String.join (pieces.map Piece.shown)
  /-- Only the characters count, not the pieces that they come in. -/
  recut : ∀ (m : Markup) first second,
    first.flatMap Piece.marked = second.flatMap Piece.marked → m.joinAll first = m.joinAll second

/-- Escaping loses nothing, and joining to markup keeps to it. -/
theorem escapeLaw : EscapeLaw where
  characters := Entity.escape_eq_join
  untouched := Entity.isPlain_iff
  bare text := ((Entity.clean_iff _).mp (Entity.clean_escape text)).1
  ampersands text := ((Entity.clean_iff _).mp (Entity.clean_escape text)).2
  decoded := Entity.decode_escape
  injective := Entity.escape_injective
  append := Entity.escape_append
  again text := by
    rw [Entity.escape_escape_iff]
    exact forall₂_congr fun c _ => Entity.of?_eq_none_iff
  joined := Markup.text_joinAll
  recut m _ _ := m.joinAll_congr

/-- A text that holds an entity already: the ampersand is escaped all the same. -/
example : Entity.escape "é <b> &lt;" = "é &lt;b&gt; &amp;lt;" := by decide

end Templating
