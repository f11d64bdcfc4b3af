/-!
# Code points

A text is a sequence of code points, the numbers below `0x110000`. Most code points are
characters (Unicode scalar values). The 2048 surrogate codes from `0xD800` to `0xDFFF` are no
characters, yet a text may hold one on its own, and it then stands for itself like any other
code point: it is no letter, digit or white space, and it is equal only to itself.

So a code point is either a character or a surrogate, and each number below `0x110000` is the
number of exactly one code point (`toNat_injective`, `ofNat_toNat`).
-/

namespace CCheck.Unicode

/-- A code point: a character, or the surrogate code `0xD800 + offset`. -/
inductive CodePoint where
  | char (c : Char)
  | surrogate (offset : Fin 2048)
  deriving DecidableEq, Repr

namespace CodePoint

instance : Coe Char CodePoint := ⟨char⟩

def toNat : CodePoint → Nat
  | char c => c.toNat
  | surrogate i => 0xD800 + i.val

/-- The code point numbered `n`; a number from `0x110000` on gives the null character. -/
def ofNat (n : Nat) : CodePoint :=
  if h : 0xD800 ≤ n ∧ n < 0xE000 then surrogate ⟨n - 0xD800, by omega⟩
  else char (Char.ofNat n)

/-- The ASCII lower case of a code point: `A` to `Z` become `a` to `z`, and every other code
point stays as it is. -/
def toLower : CodePoint → CodePoint
  | char c => char c.toLower
  | p => p

/-- The character shown for a code point: the character itself, or the replacement character
U+FFFD for a surrogate, which no string can hold. -/
def shown : CodePoint → Char
  | char c => c
  | surrogate _ => '\uFFFD'

theorem char_toNat_not_surrogate (c : Char) : ¬ (0xD800 ≤ c.toNat ∧ c.toNat < 0xE000) := by
  have h := c.valid
  simp only [Char.toNat, UInt32.isValidChar, Nat.isValidChar] at h ⊢
  omega

theorem toNat_lt (p : CodePoint) : p.toNat < 0x110000 := by
  cases p with
  | char c =>
    have h := c.valid
    simp only [toNat, Char.toNat, UInt32.isValidChar, Nat.isValidChar] at h ⊢
    omega
  | surrogate i =>
    simp only [toNat]
    omega

theorem ofNat_toNat (p : CodePoint) : ofNat p.toNat = p := by
  cases p with
  | char c =>
    simp only [ofNat, toNat, dif_neg (char_toNat_not_surrogate c), Char.ofNat_toNat]
  | surrogate i =>
    have h : 0xD800 ≤ 0xD800 + i.val ∧ 0xD800 + i.val < 0xE000 := by omega
    simp only [ofNat, toNat, dif_pos h, Nat.add_sub_cancel_left]

theorem toNat_injective {p q : CodePoint} (h : p.toNat = q.toNat) : p = q := by
  rw [← ofNat_toNat p, ← ofNat_toNat q, h]

end CodePoint

/-- The code points of a string, all of them characters. -/
def codePoints (s : String) : List CodePoint := s.toList.map CodePoint.char

/-- A string showing a text, with U+FFFD in place of each surrogate. -/
def render (cs : List CodePoint) : String := String.ofList (cs.map CodePoint.shown)

@[simp] theorem length_codePoints (s : String) : (codePoints s).length = s.length := by
  simp [codePoints, String.length_toList]

@[simp] theorem codePoints_append (s t : String) :
    codePoints (s ++ t) = codePoints s ++ codePoints t := by
  simp [codePoints]

theorem render_codePoints (s : String) : render (codePoints s) = s := by
  simp [render, codePoints, CodePoint.shown, Function.comp_def]

end CCheck.Unicode
