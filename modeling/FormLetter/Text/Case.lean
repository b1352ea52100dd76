import FormLetter.Text.Basic
import FormLetter.Text.CaseMap
import FormLetter.Text.CaseProperties

/-!
# Letter case

The full case mappings of Unicode on text. A capital sigma takes its final form in lower case
where a word ends; no other mapping looks at the neighbours of a character.

Results:

* `lowerChar_ascii`, `upperChar_ascii`: on ASCII the mappings are those of the Latin letters.
-/

namespace FormLetter.Text

/-- The lower case of a character that stands alone. -/
def lowerChar (c : Char) : Text :=
  if c.toNat < 128 then [c.toLower]
  else if c = dottedI then ['i', '\u0307']
  else [Char.ofNat (mapCode lowerRanges c.toNat)]

/-- The upper case of a character. -/
def upperChar (c : Char) : Text :=
  if c.toNat < 128 then [c.toUpper]
  else
    match expansions.lookup c.toNat with
    | some codes => codes.map Char.ofNat
    | none => [Char.ofNat (mapCode upperRanges c.toNat)]

theorem lowerChar_ascii {c : Char} (h : c.toNat < 128) : lowerChar c = [c.toLower] := by
  simp [lowerChar, h]

theorem upperChar_ascii {c : Char} (h : c.toNat < 128) : upperChar c = [c.toUpper] := by
  simp [upperChar, h]

/-! ## Lower case -/

/-- Whether a cased character comes first once the characters that case rules pass over are
skipped. -/
def casedFirst (t : Text) : Bool :=
  match t.dropWhile isCaseIgnorable with
  | c :: _ => isCased c
  | [] => false

/-- Lower case of a text that follows `before`, the characters already passed in reverse order. -/
def lowerAfter (before : Text) : Text → Text
  | [] => []
  | c :: rest =>
    let image :=
      if c = 'Σ' then
        if casedFirst before && !casedFirst rest then ['ς'] else ['σ']
      else lowerChar c
    image ++ lowerAfter (c :: before) rest

/-- The text in lower case. A capital sigma becomes `ς` after a cased character and before none,
and `σ` elsewhere. -/
def lower (t : Text) : Text := lowerAfter [] t

/-! ## Title case -/

/-- Title case of a text whose preceding character had a case or not. -/
def titleAfter (inWord : Bool) : Text → Text
  | [] => []
  | c :: rest => (if inWord then lowerChar c else upperChar c) ++ titleAfter (hasCase c) rest

/-- Upper case for every character that does not follow one with a case, lower case for the
others: a word starts at any letter not preceded by a letter. This is `title_case`. -/
def titleCase (t : Text) : Text := titleAfter false t

end FormLetter.Text
