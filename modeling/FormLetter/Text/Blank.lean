import FormLetter.Text.Basic

/-!
# Blank characters

The white space of Unicode, and the text without it at both ends.

Results:

* `isBlank_of_isWhitespace`: the white space of ASCII is blank.
-/

namespace FormLetter.Text

/-- The white space of Unicode: the ASCII blanks from tab to carriage return and the space, the
next-line and no-break characters, the spaces of several widths, and the separators of lines and
paragraphs. -/
def isBlank (c : Char) : Bool :=
  let n := c.toNat
  (0x09 ≤ n && n ≤ 0x0D) || n == 0x20 || n == 0x85 || n == 0xA0 || n == 0x1680 ||
    (0x2000 ≤ n && n ≤ 0x200A) || n == 0x2028 || n == 0x2029 || n == 0x202F || n == 0x205F ||
    n == 0x3000

theorem isBlank_of_isWhitespace {c : Char} (h : c.isWhitespace = true) : isBlank c = true := by
  simp only [Char.isWhitespace, Bool.or_eq_true, decide_eq_true_eq] at h
  rcases h with ((rfl | rfl) | rfl) | rfl <;> decide

/-- The text without the blanks at its start. -/
def trimStart (t : Text) : Text := t.dropWhile isBlank

/-- The text without the blanks at its end. -/
def trimEnd (t : Text) : Text := (t.reverse.dropWhile isBlank).reverse

/-- The text without the blanks at its start and at its end. -/
def trim (t : Text) : Text := trimEnd (trimStart t)

/-- Whether a text holds nothing but blanks. -/
def isBlankText (t : Text) : Bool := (trim t).isEmpty

/-- The lines of a text without the blanks around them, empty ones left out. -/
def trimmedLines (t : Text) : List Text :=
  let parts := split '\n' t
  ((parts.1 :: parts.2).map trim).filter fun line => !line.isEmpty

end FormLetter.Text
