import CCheck.Unicode.Letter
import CCheck.Unicode.Numeric
import CCheck.Unicode.Printable
/-!
# White space and word characters

The white space of the scanner and of text trimming: the code points whose bidirectional class
is WS, B or S, or whose general category is Zs, in Unicode 14. These are the ASCII controls
U+0009 to U+000D and U+001C to U+001F, the space, U+0085, U+00A0 and the wide spaces from
U+1680 to U+3000: twenty-nine code points. U+200B and U+FEFF are not among them.

A word character is a letter, a character with a numeric value, or the underscore. Words of
identifiers and of struct headers are runs of word characters.

No class table meets the surrogate block, so a lone surrogate is in none of the classes
(`classes_surrogate`).
-/

namespace CCheck.Unicode

def blankRanges : Ranges :=
  [(0x9, 0xD), (0x1C, 0x20), (0x85, 0x85), (0xA0, 0xA0), (0x1680, 0x1680),
  (0x2000, 0x200A), (0x2028, 0x2029), (0x202F, 0x202F), (0x205F, 0x205F), (0x3000, 0x3000)]

def isSpace (c : CodePoint) : Bool := blankRanges.contains c.toNat

theorem blankRanges_ascending : blankRanges.ascending = true := by decide

theorem isSpace_eq_false_of_asciiDigit {c : CodePoint} (h : 0x30 ≤ c.toNat ∧ c.toNat ≤ 0x39) :
    isSpace c = false :=
  Ranges.contains_eq_false_of_avoids (by decide : blankRanges.avoids 0x30 0x39 = true) h.1 h.2

def isAlnum (c : CodePoint) : Bool := isLetter c || isNumeric c

def isWordChar (c : CodePoint) : Bool := isAlnum c || c == '_'

theorem Ranges.contains_surrogate {rs : Ranges} (h : rs.avoids 0xD800 0xDFFF = true)
    (i : Fin 2048) : rs.contains (CodePoint.surrogate i).toNat = false := by
  have := i.isLt
  exact Ranges.contains_eq_false_of_avoids h (Nat.le_add_right _ _)
    (by simp only [CodePoint.toNat]; omega)

/-- A lone surrogate is no white space, letter, numeric, digit, decimal digit or printable code
point. -/
theorem classes_surrogate (i : Fin 2048) :
    isSpace (.surrogate i) = false ∧ isLetter (.surrogate i) = false ∧
      isNumeric (.surrogate i) = false ∧ isDigit (.surrogate i) = false ∧
      isDecimal (.surrogate i) = false ∧ isPrintable (.surrogate i) = false :=
  ⟨Ranges.contains_surrogate (by decide) i, Ranges.contains_surrogate (by decide +kernel) i,
    Ranges.contains_surrogate (by decide) i, Ranges.contains_surrogate (by decide) i,
    Ranges.contains_surrogate (by decide) i, Ranges.contains_surrogate (by decide +kernel) i⟩

end CCheck.Unicode
