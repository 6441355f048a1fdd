import FluentQuery.Text.Ranges

/-!
# Blank text

* **`isBlankChar`** — Unicode white space together with the four information separators
  U+001C to U+001F; the zero width characters are not blank;
* **`isBlank`** — a text of blank characters only, which no clause accepts as a name;
* **`strip`** — a text without its blank ends.

Texts are handled as lists of characters, so that each statement is an induction on the data.
-/

namespace FluentQuery.Text

/-- Code points of white space. -/
def blankRanges : List (Nat × Nat) :=
  [(0x9, 0xD), (0x1C, 0x20), (0x85, 0x85), (0xA0, 0xA0), (0x1680, 0x1680), (0x2000, 0x200A),
   (0x2028, 0x2029), (0x202F, 0x202F), (0x205F, 0x205F), (0x3000, 0x3000)]

/-- Whether a character counts as white space. -/
def isBlankChar (c : Char) : Bool := inRanges blankRanges c.toNat

/-- Whether a text holds nothing but white space. -/
def isBlank (s : String) : Bool := s.toList.all isBlankChar

/-- Drops the white space at both ends of a list of characters. -/
def stripList (cs : List Char) : List Char :=
  ((cs.dropWhile isBlankChar).reverse.dropWhile isBlankChar).reverse

/-- Drops the white space at both ends. -/
def strip (s : String) : String := String.ofList (stripList s.toList)

theorem isBlank_iff {s : String} : isBlank s = true ↔ ∀ c ∈ s.toList, isBlankChar c = true := by
  simp [isBlank]

end FluentQuery.Text
