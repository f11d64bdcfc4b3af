import CCheck.Unicode.Classes
/-!
# Trimming, splitting, searching and quoting text

Texts are lists of code points here. Trimming drops code points of a class from both ends;
splitting into words cuts at white space and keeps the non-empty pieces; splitting at a
separator keeps every piece, empty ones included. Searching tests whether a pattern occurs,
cuts a list around the first occurrence of an item (`splitAtFirst_eq_some`), and erases every
empty bracket pair `[]` of a text in one pass from the left. Only trimming by white space,
splitting into words and erasing brackets look at what the code points are; the rest works on
lists of anything.

A message shows a name it was given between quote marks, with every code point that would not
read back as itself escaped. The quote mark is the apostrophe, or the double quote when the
text holds an apostrophe and no double quote. Inside, a backslash and the quote mark get a
backslash before them; tab, line feed and carriage return are written `\t`, `\n` and `\r`; the
other ASCII controls and U+007F are written `\x` with two hexadecimal digits; the rest of ASCII
stands as it is. Beyond ASCII a printable code point stands as it is, and any other is written
`\x`, `\u` or `\U` with two, four or eight lowercase hexadecimal digits, the fewest of these that
hold it.
-/

namespace CCheck.Text

open Unicode

/-- `cs` without the items satisfying `p` at either end. -/
def trimBy {α : Type} (p : α → Bool) (cs : List α) : List α :=
  ((cs.dropWhile p).reverse.dropWhile p).reverse

def trim (cs : List CodePoint) : List CodePoint := trimBy isSpace cs

/-- The maximal runs of code points other than white space, in order. -/
def words (cs : List CodePoint) : List (List CodePoint) := (cs.splitOnP isSpace).filter (· ≠ [])

/-- The pieces between the occurrences of `sep`, empty pieces included. -/
def splitAt {α : Type} [DecidableEq α] (sep : α) (cs : List α) : List (List α) :=
  cs.splitOnP (· == sep)

def hasInfix {α : Type} [DecidableEq α] (pat : List α) : List α → Bool
  | [] => pat.isEmpty
  | c :: cs => pat.isPrefixOf (c :: cs) || hasInfix pat cs

/-- The parts before and after the first `c`, if `c` occurs. -/
def splitAtFirst {α : Type} [DecidableEq α] (c : α) : List α → Option (List α × List α)
  | [] => none
  | d :: ds => if d = c then some ([], ds) else (splitAtFirst c ds).map fun p => (d :: p.1, p.2)

/-- The part before the first `c`, or all of `cs` if `c` does not occur. -/
def beforeFirst {α : Type} [DecidableEq α] (c : α) (cs : List α) : List α :=
  cs.takeWhile (· != c)

/-- `cs` with each `[]` erased, scanning once from the left: `[[]]` becomes `[]`. -/
def eraseEmptyBrackets : List CodePoint → List CodePoint
  | .char '[' :: .char ']' :: rest => eraseEmptyBrackets rest
  | c :: rest => c :: eraseEmptyBrackets rest
  | [] => []

def hexDigit (d : Nat) : CodePoint :=
  if d < 10 then .char (Char.ofNat (48 + d)) else .char (Char.ofNat (87 + d))

def hexDigits : Nat → Nat → List CodePoint
  | 0, _ => []
  | width + 1, n => hexDigits width (n / 16) ++ [hexDigit (n % 16)]

def escapeIn (q c : CodePoint) : List CodePoint :=
  if c = q ∨ c = .char '\\' then [.char '\\', c]
  else if c = .char '\t' then codePoints "\\t"
  else if c = .char '\n' then codePoints "\\n"
  else if c = .char '\r' then codePoints "\\r"
  else if c.toNat < 0x20 ∨ c.toNat = 0x7F then codePoints "\\x" ++ hexDigits 2 c.toNat
  else if c.toNat < 0x7F ∨ isPrintable c then [c]
  else if c.toNat ≤ 0xFF then codePoints "\\x" ++ hexDigits 2 c.toNat
  else if c.toNat ≤ 0xFFFF then codePoints "\\u" ++ hexDigits 4 c.toNat
  else codePoints "\\U" ++ hexDigits 8 c.toNat

def quoteMark (s : List CodePoint) : CodePoint :=
  if s.contains (.char '\'') && !s.contains (.char '"') then .char '"' else .char '\''

def quoted (s : List CodePoint) : List CodePoint :=
  let q := quoteMark s
  q :: s.flatMap (escapeIn q) ++ [q]

theorem splitAtFirst_eq_some {α : Type} [DecidableEq α] {c : α} {cs l r : List α}
    (h : splitAtFirst c cs = some (l, r)) : cs = l ++ c :: r ∧ c ∉ l := by
  induction cs generalizing l r with
  | nil => simp [splitAtFirst] at h
  | cons d ds ih =>
    simp only [splitAtFirst] at h
    split at h
    · rename_i hd; cases h; simp [hd]
    · rename_i hd
      obtain ⟨p, hp, he⟩ := Option.map_eq_some_iff.mp h
      cases he
      obtain ⟨h1, h2⟩ := ih hp
      refine ⟨by simp [h1], ?_⟩
      simp only [List.mem_cons, not_or]
      exact ⟨fun e => hd e.symm, h2⟩

theorem splitAtFirst_append_cons {α : Type} [DecidableEq α] {c : α} {l : List α}
    (h : c ∉ l) (r : List α) : splitAtFirst c (l ++ c :: r) = some (l, r) := by
  induction l with
  | nil => simp [splitAtFirst]
  | cons d ds ih =>
    have hd : d ≠ c := fun e => h (e ▸ List.mem_cons_self)
    simp [splitAtFirst, hd, ih fun hc => h (List.mem_cons_of_mem d hc)]

end CCheck.Text
