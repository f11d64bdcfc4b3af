import CCheck.Token.Basic
import CCheck.Token.Cursor
/-!
# Scanning text into tokens

The scanner reads a text in turns, each from a cursor. A turn at white space skips the whole run
of white space. Any other code point starts the longest token the rules allow there: a word (a
letter or underscore, then word characters), a number (a run of digits), a two-character
operator, a one-character operator, a symbol, or else that one code point as an unknown token; a
lone surrogate is always such an unknown token. Every turn moves the cursor on
(`length_rest_step`), so the scan ends, and a token's line is the line of the cursor at its first
code point.
-/

namespace CCheck

open Unicode

namespace Token

def startsWord (c : CodePoint) : Bool := isLetter c || c == '_'

/-- A token of one code point: an operator, a symbol, or an unknown code point. -/
def singleKind (c : CodePoint) : Kind :=
  if singleOperators.contains c then .operator else if symbols.contains c then .symbol
  else .unknown

theorem isWordChar_of_startsWord {c : CodePoint} (h : startsWord c = true) :
    isWordChar c = true := by
  simp only [startsWord, Bool.or_eq_true] at h
  simp only [isWordChar, isAlnum, Bool.or_eq_true]
  rcases h with h | h
  · exact .inl (.inl h)
  · exact .inr h

namespace Cursor

/-- One turn of the scan at `c`: `none` at the end of the text; otherwise the token read at the
cursor, or `none` when a run of white space was skipped, and the cursor after it. A
two-character operator is tried before a one-character token, whatever follows. -/
def step (v : Vocabulary) (c : Cursor) : Option (Option Token × Cursor) :=
  match c.rest with
  | [] => none
  | ch :: more =>
    if isSpace ch then some (none, c.skipBlanks)
    else if startsWord ch then
      let found := c.collect isWordChar
      some (some ⟨v.classify found.1, found.1, c.line⟩, found.2)
    else if isDigit ch then
      let found := c.collect isDigit
      some (some ⟨.number, found.1, c.line⟩, found.2)
    else
      match more with
      | d :: _ =>
        if pairOperators.contains (ch, d) then
          some (some ⟨.operator, [ch, d], c.line⟩, c.advance.advance)
        else some (some ⟨singleKind ch, [ch], c.line⟩, c.advance)
      | [] => some (some ⟨singleKind ch, [ch], c.line⟩, c.advance)

theorem length_rest_step {v : Vocabulary} {c after : Cursor} {t : Option Token}
    (h : c.step v = some (t, after)) : after.rest.length < c.rest.length := by
  unfold step at h
  split at h
  · simp at h
  · rename_i ch more hr
    split at h
    · rename_i hs
      cases h
      rw [skipBlanks_rest, hr, List.dropWhile_cons_of_pos hs]
      exact Nat.lt_succ_of_le (List.dropWhile_suffix _).length_le
    · split at h
      · rename_i _ hw
        cases h
        rw [collect_snd_rest, hr, List.dropWhile_cons_of_pos (isWordChar_of_startsWord hw)]
        exact Nat.lt_succ_of_le (List.dropWhile_suffix _).length_le
      · split at h
        · rename_i hd
          cases h
          rw [collect_snd_rest, hr, List.dropWhile_cons_of_pos hd]
          exact Nat.lt_succ_of_le (List.dropWhile_suffix _).length_le
        · split at h
          · split at h
            · cases h
              rw [rest_advance, rest_advance, hr]
              simp only [List.drop_succ_cons, List.drop_zero, List.length_cons]
              omega
            · cases h
              exact length_rest_advance_lt hr
          · cases h
            exact length_rest_advance_lt hr

end Cursor

def tokensFrom (v : Vocabulary) (c : Cursor) : List Token :=
  match _h : c.step v with
  | none => []
  | some (t, after) => t.toList ++ tokensFrom v after
termination_by c.rest.length
decreasing_by exact Cursor.length_rest_step _h

/-- The number of turns a scan takes from cursor `c`. -/
def turns (v : Vocabulary) (c : Cursor) : Nat :=
  match _h : c.step v with
  | none => 0
  | some (_, after) => turns v after + 1
termination_by c.rest.length
decreasing_by exact Cursor.length_rest_step _h

def scanWith (v : Vocabulary) (text : List CodePoint) : List Token :=
  tokensFrom v (Cursor.start text)

def scan (text : List CodePoint) : List Token := scanWith Vocabulary.c text

end Token

end CCheck
