import CCheck.Unicode.CodePoint
/-!
# Diagnostics

A diagnostic is one problem found on one declaration line. Its message names the type word or
the variable involved, as written on the line; a report line puts "Line i: " in front of it,
where `i` counts input lines from 1.
-/

namespace CCheck.Declaration

open Unicode

/-- A problem found on a declaration line. -/
inductive Diagnostic where
  /-- The line neither ends with a semicolon nor mentions a struct. -/
  | missingSemicolon
  /-- The declaration has fewer than two words. -/
  | invalidDeclaration
  /-- A type word stands after the first word of the declaration. -/
  | repeatedType
  /-- A name declared as a 1D array is declared as a 2D array, or the other way round. -/
  | shapeConflict (name : List CodePoint)
  | redeclared (name : List CodePoint)
  | gridInitializer (type : List CodePoint)
  | rowInitializer (type : List CodePoint)
  | elementMismatch (type : List CodePoint)
  | elementCount (expected found : Nat)
  | valueMismatch (type : List CodePoint)
  | boolInitializer
  | structInitializer
  | charInitializer
  | stringInitializer
  | unknownType (type : List CodePoint)
  deriving DecidableEq, Repr

def around (before : String) (text : List CodePoint) (after : String) : List CodePoint :=
  codePoints before ++ text ++ codePoints after

def Diagnostic.message : Diagnostic → List CodePoint
  | .missingSemicolon => codePoints "Missing semicolon at the end."
  | .invalidDeclaration => codePoints "Invalid variable declaration."
  | .repeatedType =>
    codePoints "Error - Multiple variable declarations must use commas, not repeated types."
  | .shapeConflict name => around "Error - '" name "' cannot be declared as both 1D and 2D array."
  | .redeclared name => around "Error - Variable '" name "' is already declared."
  | .gridInitializer type =>
    around "Invalid initialization for 2D '" type "[][]'. Must use nested \x7b\x7d."
  | .rowInitializer type =>
    around "Invalid array initialization for '" type "[]'. Must use \x7b\x7d."
  | .elementMismatch type => around "Datatype mismatch in '" type "[]' initialization."
  | .elementCount expected found =>
    codePoints s!"Expected {expected} elements, but found {found}."
  | .valueMismatch type => around "Datatype mismatch for '" type "'."
  | .boolInitializer => codePoints "Invalid initialization for 'bool'. Must be 'true' or 'false'."
  | .structInitializer => codePoints "Invalid struct initialization. Must use '\x7b\x7d'."
  | .charInitializer => codePoints "Invalid initialization for 'char'."
  | .stringInitializer => codePoints "Datatype mismatch for 'char[]'. Use double quotes."
  | .unknownType type => around "Unknown data type '" type "'."

def Diagnostic.reportLine (n : Nat) (d : Diagnostic) : List CodePoint :=
  codePoints s!"Line {n}: " ++ d.message

end CCheck.Declaration
