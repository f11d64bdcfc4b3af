import CCheck.Unicode.Classes
/-!
# Cursors

A cursor is a place in a text being scanned: the code points from the current one on, and the
line of the current one. Lines count from 1, and moving onto a line feed starts the next line,
so the line of a code point is one more than the line feeds up to and including it. Past the end
of the text a cursor stays where it is.

A run of code points is collected by advancing while the current one passes a test; the
run is the longest such prefix of the rest (`collect_fst`), and the cursor stops right after it
(`collect_snd_rest`).
-/

namespace CCheck.Token

open Unicode

/-- The code points from the current one on, and the line of the current one. -/
structure Cursor where
  rest : List CodePoint
  line : Nat
  deriving DecidableEq, Repr

namespace Cursor

/-- The cursor at the front of `cs`, reached from a place on line `line`: on the next line when
`cs` starts with a line feed. -/
def enter (line : Nat) (cs : List CodePoint) : Cursor :=
  ⟨cs, if cs.head? = some (.char '\n') then line + 1 else line⟩

def start (text : List CodePoint) : Cursor := enter 1 text

def current? (c : Cursor) : Option CodePoint := c.rest.head?

def advance (c : Cursor) : Cursor :=
  match c.rest with
  | [] => c
  | _ :: rest => enter c.line rest

@[simp] theorem rest_enter (line : Nat) (cs : List CodePoint) : (enter line cs).rest = cs := rfl

theorem rest_advance (c : Cursor) : c.advance.rest = c.rest.drop 1 := by
  unfold advance
  split <;> simp_all

theorem length_rest_advance_lt {c : Cursor} {ch : CodePoint} {cs : List CodePoint}
    (h : c.rest = ch :: cs) : c.advance.rest.length < c.rest.length := by
  rw [rest_advance, h]
  simp

def skipBlanks (c : Cursor) : Cursor :=
  match _h : c.rest with
  | [] => c
  | ch :: _ => if isSpace ch then skipBlanks c.advance else c
termination_by c.rest.length
decreasing_by exact length_rest_advance_lt _h

/-- The longest run at the front of the rest whose code points satisfy `p`, and the cursor
right after it. -/
def collect (p : CodePoint → Bool) (c : Cursor) : List CodePoint × Cursor :=
  match _h : c.rest with
  | [] => ([], c)
  | ch :: _ =>
    if p ch then
      let found := collect p c.advance
      (ch :: found.1, found.2)
    else ([], c)
termination_by c.rest.length
decreasing_by exact length_rest_advance_lt _h

theorem skipBlanks_rest (c : Cursor) : c.skipBlanks.rest = c.rest.dropWhile isSpace := by
  fun_induction skipBlanks c with
  | case1 c hr => simp [hr]
  | case2 c ch cs hr hs ih => rw [ih, rest_advance, hr]; simp [hs]
  | case3 c ch cs hr hs => simp [hr, hs]

theorem collect_fst (p : CodePoint → Bool) (c : Cursor) :
    (c.collect p).1 = c.rest.takeWhile p := by
  fun_induction collect p c with
  | case1 c hr => simp [hr]
  | case2 c ch cs hr hp found ih =>
    simp only [found]
    rw [ih, rest_advance, hr]
    simp [hp]
  | case3 c ch cs hr hp => simp [hr, hp]

theorem collect_snd_rest (p : CodePoint → Bool) (c : Cursor) :
    (c.collect p).2.rest = c.rest.dropWhile p := by
  fun_induction collect p c with
  | case1 c hr => simp [hr]
  | case2 c ch cs hr hp found ih =>
    simp only [found]
    rw [ih, rest_advance, hr]
    simp [hp]
  | case3 c ch cs hr hp => simp [hr, hp]

end Cursor

end CCheck.Token
