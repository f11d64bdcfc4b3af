import CCheck.Declaration.Declarator
import CCheck.Text.Split
/-!
# Statements

What a trimmed declaration line states, as far as the line alone tells: a line without its
semicolon, a struct header, a declaration with fewer than two words, a declaration with a type
word after its first word, or a declaration proper with its type word, declarator and
initializer. The tests run in this order, and the first that applies decides. Reading a
declaration proper reads its declarator, which fails on an over-long size.
-/

namespace CCheck.Declaration

open Unicode Text

/-- What a trimmed line states. -/
inductive Statement where
  | unterminated
  | structHeader (name : List CodePoint)
  | incomplete
  | repeatedType
  | declaration (typeWord : List CodePoint) (declarator : Declarator)
      (value : Option (List CodePoint))
  deriving DecidableEq, Repr

/-- Words that may only stand first in a declaration. -/
def typeWords : List String := ["int", "float", "char", "double", "bool", "long", "short"]

/-- Whether a line neither ends with a semicolon nor mentions `struct`. -/
def isUnterminated (line : List CodePoint) : Bool :=
  line.getLast? != some (.char ';') && !hasInfix (codePoints "struct") line

/-- The declaration part and the initializer of a line: the parts around its first `=`, the
initializer without semicolons at either end and then without white space. Without `=` the
declaration is the line without semicolons and white space at either end, and there is no
initializer. -/
def splitDeclaration (line : List CodePoint) : List CodePoint × Option (List CodePoint) :=
  match splitAtFirst (.char '=') line with
  | some (left, right) => (trim left, some (trim (trimBy (· == .char ';') right)))
  | none => (trim (trimBy (· == .char ';') line), none)

/-- The statement of a trimmed line, or the fault of an over-long size in its declarator. -/
def Statement.read (line : List CodePoint) : Except Fault Statement :=
  if isUnterminated line then .ok .unterminated
  else
    match structHeader? line with
    | some name => .ok (.structHeader name)
    | none =>
      let (left, value) := splitDeclaration line
      match words left with
      | t :: w :: more =>
        if (w :: more).any (typeWords.map codePoints).contains then .ok .repeatedType
        else (fun d => .declaration t d value) <$> Declarator.read w
      | _ => .ok .incomplete

end CCheck.Declaration
