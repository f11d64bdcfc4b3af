import CCheck.Declaration.Diagnostic
import CCheck.Declaration.Scope
import CCheck.Declaration.Statement
/-!
# Checking one declaration line

A line is trimmed and then tested rule by rule; the first rule that rejects the line reports one
diagnostic and ends the line's check.

1. A line that neither ends with `;` nor mentions `struct` lacks its semicolon.
2. A struct header adds its name to the known structs.
3. The line splits at its first `=` into the declaration and the initializer; the initializer
   loses semicolons at both ends and then white space. Without `=` there is no initializer.
4. The declaration needs a type word and a declarator, and no type word after the first word.
5. The declarator's name is declared, or reported as declared before (its stored shape stays).
6. The initializer is tested against the type word, which loses its `[]` pairs for an array.

Rules 2 and 5 rely on pattern matching; without it, a line that reaches rule 2 stops the check.
An array or struct declaration without initializer stops the check at rule 6, after whatever
rule 5 reported.
-/

namespace CCheck.Declaration

open Unicode Text

/-- What the checker may rely on: whether pattern matching is available. -/
structure Setting where
  patternsAvailable : Bool
  deriving DecidableEq, Repr

def Setting.standard : Setting := ⟨true⟩

/-- What checking one line gives: its diagnostics in order, then either the scope for the next
line or the fault that stopped the check. -/
structure Outcome where
  found : List Diagnostic
  next : Except Fault Scope

def integerTypes : List String := ["int", "long", "short"]

def floatingTypes : List String := ["float", "double"]

def enclosedBy (opening closing v : List CodePoint) : Bool :=
  opening.isPrefixOf v && closing.isSuffixOf v

/-- The elements of a braced list: braces and spaces trimmed from both ends, then each piece
between commas trimmed of white space. -/
def elements (v : List CodePoint) : List (List CodePoint) :=
  let inner := trimBy (fun c => c == .char '{' || c == .char '}' || c == .char ' ') v
  (splitAt (.char ',') inner).map trim

def isQuotedChar : List CodePoint → Bool
  | [.char '\'', _, .char '\''] => true
  | _ => false

/-- The diagnostics of an integer declaration's initializer. A grid takes `{{...}}`, a row takes
`{...}` whose elements are digit texts as many as its first size, and a scalar takes a digit
text; an array without initializer is a fault. -/
def integerDiagnostics (ty : List CodePoint) (d : Declarator) (value : Option (List CodePoint)) :
    Except Fault (List Diagnostic) :=
  match d.shape, value with
  | .grid, none => .error .initializerMissing
  | .row, none => .error .initializerMissing
  | .grid, some v =>
    .ok (if enclosedBy (codePoints "\x7b\x7b") (codePoints "\x7d\x7d") v then []
      else [.gridInitializer ty])
  | .row, some v =>
    if enclosedBy [.char '{'] [.char '}'] v then
      let es := elements v
      .ok ((if es.all isDigitText then [] else [.elementMismatch ty]) ++
        match d.sizes with
        | n :: _ => if es.length = n then [] else [.elementCount n es.length]
        | [] => [])
    else .ok [.rowInitializer ty]
  | .scalar, some v => .ok (if v.isEmpty || isDigitText v then [] else [.valueMismatch ty])
  | .scalar, none => .ok []

/-- The diagnostics of an initializer for the type word `t`: the first kind of type that `t`
names decides the test, and an empty initializer passes every test but the brace tests. A struct
declaration without initializer is a fault. -/
def initializerDiagnostics (scope : Scope) (t : List CodePoint) (d : Declarator)
    (value : Option (List CodePoint)) : Except Fault (List Diagnostic) :=
  let given := value.filter (!·.isEmpty)
  if (integerTypes.map codePoints).contains t then integerDiagnostics t d value
  else if (floatingTypes.map codePoints).contains t then
    .ok (match given with
      | some v => if isFloatText v then [] else [.valueMismatch t]
      | none => [])
  else if t = codePoints "bool" then
    .ok (match given with
      | some v =>
        if v = codePoints "true" ∨ v = codePoints "false" then [] else [.boolInitializer]
      | none => [])
  else if scope.isStruct t then
    match value with
    | some v => .ok (if enclosedBy [.char '{'] [.char '}'] v then [] else [.structInitializer])
    | none => .error .initializerMissing
  else if t = codePoints "char" then
    .ok (match given with
      | some v => if isQuotedChar v then [] else [.charInitializer]
      | none => [])
  else if t = codePoints "char[]" then
    .ok (match given with
      | some v => if enclosedBy [.char '"'] [.char '"'] v then [] else [.stringInitializer]
      | none => [])
  else .ok [.unknownType t]

/-- Rules 5 and 6 for the type word `t` and the declarator `d`. -/
def declareAndCheck (scope : Scope) (t : List CodePoint) (d : Declarator)
    (value : Option (List CodePoint)) : Outcome :=
  let ty := if d.isArray then eraseEmptyBrackets t else t
  let name := d.name
  let (notes, after) : List Diagnostic × Scope :=
    match scope.shapeOf? name with
    | some stored =>
      ([if d.clashes stored then .shapeConflict name else .redeclared name], scope)
    | none => ([], scope.declare name d.shape)
  match initializerDiagnostics after ty d value with
  | .ok found => ⟨notes ++ found, .ok after⟩
  | .error f => ⟨notes, .error f⟩

def checkLine (setting : Setting) (scope : Scope) (raw : List CodePoint) : Outcome :=
  let line := trim raw
  if !isUnterminated line && !setting.patternsAvailable then ⟨[], .error .patternsUnavailable⟩
  else
    match Statement.read line with
    | .error f => ⟨[], .error f⟩
    | .ok .unterminated => ⟨[.missingSemicolon], .ok scope⟩
    | .ok (.structHeader name) => ⟨[], .ok (scope.addStruct name)⟩
    | .ok .incomplete => ⟨[.invalidDeclaration], .ok scope⟩
    | .ok .repeatedType => ⟨[.repeatedType], .ok scope⟩
    | .ok (.declaration t d value) => declareAndCheck scope t d value

end CCheck.Declaration
