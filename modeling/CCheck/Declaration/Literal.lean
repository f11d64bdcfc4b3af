import CCheck.Unicode.Numeric
/-!
# Literal texts

The checker reads initializers and bracketed sizes as texts. A digit text is a non-empty run of
digits in the wide sense (superscripts count). A floating literal follows the decimal grammar:
an optional sign, then either one of the words `inf`, `infinity` and `nan` in any ASCII case, or a
mantissa `digits [. [digits]]` or `. digits` with an optional exponent `e [sign] digits`. A run
of digits takes decimal digits of any script, and an underscore may stand alone between two
digits. Each piece is a recogniser that returns what follows the part it read.
-/

namespace CCheck.Declaration

open Unicode

/-- A non-empty text of digits, superscripts and other digit characters included. -/
def isDigitText (cs : List CodePoint) : Bool := !cs.isEmpty && cs.all isDigit

/-- What follows the rest of a digit run whose first digit has been read: more decimal digits,
each on its own or after a single underscore. -/
def afterDigits : List CodePoint → List CodePoint
  | .char '_' :: d :: rest => if isDecimal d then afterDigits rest else .char '_' :: d :: rest
  | d :: rest => if isDecimal d then afterDigits rest else d :: rest
  | [] => []

def afterDigitRun? : List CodePoint → Option (List CodePoint)
  | d :: rest => if isDecimal d then some (afterDigits rest) else none
  | [] => none

def dropSign : List CodePoint → List CodePoint
  | .char '+' :: rest => rest
  | .char '-' :: rest => rest
  | cs => cs

/-- What follows the mantissa at the front of `cs`: digits with an optional point and fraction,
or a point and a fraction. -/
def afterMantissa? (cs : List CodePoint) : Option (List CodePoint) :=
  match afterDigitRun? cs with
  | some rest =>
    match rest with
    | .char '.' :: frac => some ((afterDigitRun? frac).getD frac)
    | _ => some rest
  | none =>
    match cs with
    | .char '.' :: frac => afterDigitRun? frac
    | _ => none

/-- What follows an optional exponent at the front of `cs`; an `e` without digits fails. -/
def afterExponent? : List CodePoint → Option (List CodePoint)
  | e :: rest =>
    if e = .char 'e' ∨ e = .char 'E' then afterDigitRun? (dropSign rest) else some (e :: rest)
  | [] => some []

def specialWords : List (List CodePoint) := ["inf", "infinity", "nan"].map codePoints

/-- Whether `cs` is a floating literal: a sign, then a special word or a whole decimal number. -/
def isFloatText (cs : List CodePoint) : Bool :=
  let body := dropSign cs
  specialWords.contains (body.map CodePoint.toLower) ||
    (afterMantissa? body).bind afterExponent? == some []

/-- The value of a run of decimal digits of any script, most significant first. -/
def decimalNumeral (cs : List CodePoint) : Nat :=
  cs.foldl (fun acc c => acc * 10 + (decimalValue? c).getD 0) 0

end CCheck.Declaration
