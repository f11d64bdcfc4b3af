import CCheck.Unicode.CodePoint
/-!
# Tokens

A token of C source is its kind, its text and the line it starts on. Which words are
keywords and which are control-flow words is a `Vocabulary`; the C vocabulary has the 32
keywords of C, and since every control-flow word is also a keyword, it never yields a
control-flow word. Operators are the 13 two-character and 9 one-character operators of the
C subset, and symbols are the eight punctuation marks.

A token table has a header, a rule of 45 dashes and one row per token. A row holds the token's
text and the name of its kind, each left-justified to 15 code points, then its line, with single
spaces between them; a text wider than 15 pushes the rest of its row to the right.
-/

namespace CCheck

namespace Text

open Unicode

/-- `s` followed by spaces up to `width` code points; nothing is cut. -/
def leftJustify (width : Nat) (s : List CodePoint) : List CodePoint :=
  s ++ List.replicate (width - s.length) (.char ' ')

theorem length_leftJustify (width : Nat) (s : List CodePoint) :
    (leftJustify width s).length = max width s.length := by
  simp only [leftJustify, List.length_append, List.length_replicate]
  omega

end Text

open Unicode

inductive Token.Kind where
  | keyword
  | controlFlow
  | identifier
  | number
  | operator
  | symbol
  | unknown
  deriving DecidableEq, Repr

def Token.Kind.name : Token.Kind → String
  | .keyword => "KEYWORD"
  | .controlFlow => "CONTROL_FLOW"
  | .identifier => "IDENTIFIER"
  | .number => "NUMBER"
  | .operator => "OPERATOR"
  | .symbol => "SYMBOL"
  | .unknown => "UNKNOWN"

/-- A token: its kind, its text, and the line of its first character, counted from 1. -/
structure Token where
  kind : Token.Kind
  value : List CodePoint
  line : Nat
  deriving DecidableEq, Repr

/-- The words a scan classifies: keywords first, then control-flow words. -/
structure Vocabulary where
  keywords : List (List CodePoint)
  controlFlow : List (List CodePoint)

namespace Vocabulary

def controlFlowWords : List String := ["if", "else", "switch", "case", "for", "while", "do"]

/-- The 32 keywords of C, with the control-flow words of C beside them. -/
def c : Vocabulary where
  keywords :=
    ["auto", "break", "case", "char", "const", "continue", "default", "do", "double", "else",
      "enum", "extern", "float", "for", "goto", "if", "int", "long", "register", "return",
      "short", "signed", "sizeof", "static", "struct", "switch", "typedef", "union",
      "unsigned", "void", "volatile", "while"].map codePoints
  controlFlow := controlFlowWords.map codePoints

/-- The kind of a word: a keyword, else a control-flow word, else an identifier. -/
def classify (v : Vocabulary) (w : List CodePoint) : Token.Kind :=
  if v.keywords.contains w then .keyword
  else if v.controlFlow.contains w then .controlFlow
  else .identifier

end Vocabulary

namespace Token

def pairOperators : List (CodePoint × CodePoint) :=
  [('+', '+'), ('-', '-'), ('+', '='), ('-', '='), ('*', '='), ('/', '='), ('%', '='),
    ('=', '='), ('!', '='), ('<', '='), ('>', '='), ('&', '&'), ('|', '|')]

def singleOperators : List CodePoint := ['+', '-', '*', '/', '%', '=', '<', '>', '!']

def symbols : List CodePoint := [';', ',', '(', ')', '{', '}', '[', ']']

def operators : List (List CodePoint) :=
  pairOperators.map (fun p => [p.1, p.2]) ++ singleOperators.map ([·])

def columnWidth : Nat := 15

def row (t : Token) : List CodePoint :=
  Text.leftJustify columnWidth t.value ++ codePoints " " ++
    Text.leftJustify columnWidth (codePoints t.kind.name) ++ codePoints (" " ++ toString t.line)

def tableHeader : List CodePoint :=
  Text.leftJustify columnWidth (codePoints "TOKEN VALUE") ++ codePoints " " ++
    Text.leftJustify columnWidth (codePoints "TOKEN TYPE") ++ codePoints " LINE"

def tableRule : List CodePoint := List.replicate 45 (.char '-')

end Token

end CCheck
