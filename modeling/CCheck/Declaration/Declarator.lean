import CCheck.Declaration.Literal
import CCheck.Fault
import CCheck.Text.Split
import CCheck.Unicode.Classes
/-!
# Declarators

The second word of a declaration names the variable, with its sizes in brackets. A size group is
an opening bracket, a run of decimal digits and a closing bracket; the groups are found from the
left without overlapping, which one pass with a single pending group does (`sizeGroupsFrom`).
Empty groups give no size. Two sizes make a grid (a 2D array); one size, or an empty pair `[]`
anywhere in the word, makes a row (a 1D array). Both can hold at once, as in `a[2][3][]`, and the
grid is tested first wherever one shape is needed. Three or more sizes with no `[]` make nothing
but a scalar whose name keeps its brackets.

A size is read as a whole number, but no size may have more digits than `maxSizeDigits`.

A struct header is a line that starts with `struct`, white space, a word and then, after
optional white space, an opening brace.
-/

namespace CCheck.Declaration

open Unicode Text

/-- The shape a declaration gives to its name. -/
inductive Shape where
  | scalar
  | row
  | grid
  deriving DecidableEq, Repr

/-- The digit runs of the bracketed size groups, read in one pass from the left. The first
argument holds the digits read since the last opening bracket, most recent first, while that
group can still close, and is `none` otherwise. -/
def sizeGroupsFrom : Option (List CodePoint) → List CodePoint → List (List CodePoint)
  | _, [] => []
  | _, .char '[' :: rest => sizeGroupsFrom (some []) rest
  | some ds, .char ']' :: rest => ds.reverse :: sizeGroupsFrom none rest
  | some ds, c :: rest => sizeGroupsFrom (if isDecimal c then some (c :: ds) else none) rest
  | none, _ :: rest => sizeGroupsFrom none rest

def sizeGroups (word : List CodePoint) : List (List CodePoint) := sizeGroupsFrom none word

def maxSizeDigits : Nat := 4300

/-- The sizes of the non-empty groups, in order; the first group with too many digits is a fault. -/
def readSizes : List (List CodePoint) → Except Fault (List Nat)
  | [] => .ok []
  | g :: gs =>
    if g.isEmpty then readSizes gs
    else if maxSizeDigits < g.length then .error (.sizeTooLong g.length)
    else (decimalNumeral g :: ·) <$> readSizes gs

/-- A declarator: the word as written, the sizes it gives, and whether it holds `[]`. -/
structure Declarator where
  word : List CodePoint
  sizes : List Nat
  emptyPair : Bool
  deriving DecidableEq, Repr

namespace Declarator

def isGrid (d : Declarator) : Bool := d.sizes.length == 2

/-- One size, or an empty pair of brackets. -/
def isRow (d : Declarator) : Bool := d.sizes.length == 1 || d.emptyPair

def isArray (d : Declarator) : Bool := d.isRow || d.isGrid

/-- The shape, testing for a grid first. -/
def shape (d : Declarator) : Shape := if d.isGrid then .grid else if d.isRow then .row else .scalar

/-- The declared name: the word up to its first bracket for an array, else the whole word. -/
def name (d : Declarator) : List CodePoint :=
  if d.isArray then beforeFirst (.char '[') d.word else d.word

/-- Whether declaring `d` over a name stored with shape `stored` mixes rows and grids. -/
def clashes (d : Declarator) (stored : Shape) : Bool :=
  (d.isRow && stored == .grid) || (d.isGrid && stored == .row)

/-- The declarator of a word, or the fault of its first over-long size. -/
def read (word : List CodePoint) : Except Fault Declarator :=
  (fun sizes => ⟨word, sizes, hasInfix (codePoints "[]") word⟩) <$> readSizes (sizeGroups word)

end Declarator

def structHeader? (line : List CodePoint) : Option (List CodePoint) :=
  match line with
  | .char 's' :: .char 't' :: .char 'r' :: .char 'u' :: .char 'c' :: .char 't' :: c :: rest =>
    if isSpace c then
      let afterGap := rest.dropWhile isSpace
      let name := afterGap.takeWhile isWordChar
      match (afterGap.dropWhile isWordChar).dropWhile isSpace with
      | .char '{' :: _ => if name.isEmpty then none else some name
      | _ => none
    else none
  | _ => none

end CCheck.Declaration
