import CCheck.Fault
import CCheck.Token.Scan
/-!
# Scanning a sequence of pieces

The scanner also reads a sequence of items in place of a text. An item is a piece of text, an
absent item, or a value of another kind. Each character test then applies to a whole piece and
holds when the piece is non-empty and every character of it passes; a word or a number is the
run of pieces that pass, joined. An operator is tried on a piece joined with the next one, or on
the piece alone at the end. Only the piece that is a line feed alone starts a new line.

An absent item ends the scan. A value of another kind stops it with a fault when a test reaches
it, or when the piece before it is joined with it. When every piece is one character, the scan
reads the same tokens as the scan of the joined text.
-/

namespace CCheck

open Unicode

namespace Token

/-- An item of a sequence read in place of a text. -/
inductive Piece where
  | text (s : List CodePoint)
  | absent
  | other (kind : String)
  deriving DecidableEq, Repr

def allOf (p : CodePoint → Bool) (s : List CodePoint) : Bool := !s.isEmpty && s.all p

/-- A piece that continues a word: letters and numeric characters only, or the underscore
alone. -/
def continuesWord (s : List CodePoint) : Bool := allOf isAlnum s || s == [.char '_']

/-- The kind of a piece read on its own: an operator, a symbol, or unknown. -/
def pieceKind (s : List CodePoint) : Kind :=
  if operators.contains s then .operator
  else if (symbols.map ([·])).contains s then .symbol
  else .unknown

/-- The text of the longest run of text pieces satisfying `p` at the front, and the items after
the run. -/
def readRun (p : List CodePoint → Bool) : List Piece → List CodePoint × List Piece
  | .text s :: rest =>
    if p s then
      let found := readRun p rest
      (s ++ found.1, found.2)
    else ([], .text s :: rest)
  | ps => ([], ps)

theorem length_readRun_le (p : List CodePoint → Bool) (ps : List Piece) :
    (readRun p ps).2.length ≤ ps.length := by
  induction ps with
  | nil => simp [readRun]
  | cons q ps ih =>
    cases q with
    | text s =>
      simp only [readRun]
      split
      · simp only [List.length_cons]; omega
      · simp
    | absent => simp [readRun]
    | other kind => simp [readRun]

/-- The tokens of the items `ps` under a vocabulary, where `line` is the line of the first. -/
def piecesFrom (v : Vocabulary) (line : Nat) (ps : List Piece) : Except Fault (List Token) :=
  match ps with
  | [] => .ok []
  | .absent :: _ => .ok []
  | .other kind :: _ => .error (.itemNotText kind "isspace")
  | .text s :: rest =>
    if allOf isSpace s then piecesFrom v (if s = [.char '\n'] then line + 1 else line) rest
    else if allOf isLetter s || s == [.char '_'] then
      let found := readRun continuesWord rest
      match found.2 with
      | .other kind :: _ => .error (.itemNotText kind "isalnum")
      | _ =>
        let word := s ++ found.1
        (⟨v.classify word, word, line⟩ :: ·) <$> piecesFrom v line found.2
    else if allOf isDigit s then
      let found := readRun (allOf isDigit) rest
      match found.2 with
      | .other kind :: _ => .error (.itemNotText kind "isdigit")
      | _ => (⟨.number, s ++ found.1, line⟩ :: ·) <$> piecesFrom v line found.2
    else
      match rest with
      | [] => .ok [⟨pieceKind s, s, line⟩]
      | .text t :: more =>
        if operators.contains (s ++ t) then
          (⟨.operator, s ++ t, line⟩ :: ·) <$> piecesFrom v line more
        else (⟨pieceKind s, s, line⟩ :: ·) <$> piecesFrom v line (.text t :: more)
      | .absent :: _ => .error (.joinWithNonText "NoneType")
      | .other kind :: _ => .error (.joinWithNonText kind)
termination_by ps.length
decreasing_by
  all_goals simp only [List.length_cons]
  all_goals first
    | omega
    | exact Nat.lt_succ_of_le (length_readRun_le _ _)

def scanPieces (ps : List Piece) : Except Fault (List Token) := piecesFrom Vocabulary.c 1 ps

end Token

end CCheck
