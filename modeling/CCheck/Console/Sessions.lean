import CCheck.Declaration.Session
import CCheck.Token.Scan
/-!
# Console sessions

A console session reads its input one line at a time. A read returns the text up to the next
line feed, without it, or the rest of the input when no line feed is left; once the input is used
up, a read fails. So the lines a session can read are the pieces between line feeds, less a last
piece that is empty. A carriage return stays in its line.

A session is handed its input as text, or as nothing at all, which reads as empty text. Input
of any other kind is refused before the session starts, so nothing is printed. What a session
shows is its transcript: the text it printed, and the fault it stopped with, if any.

* The token table session prints its banner and reads lines until it reads an empty one. The
  lines before it, each with its line feed, are the code; the session prints an empty line, the
  table header, the rule and the row of every token of the code. When the input ends before an
  empty line, the session stops after its banner.
* The prompting session prints its banner, then prompts for a line with `> ` until a line is
  blank after trimming, and hands the lines before it to the declaration checker, which prints
  its report. When the input ends first, the session stops after its last prompt. When no
  checker is in the session's scope, handing the lines over is itself the fault the session
  stops with.
* The entry program builds a scanner, then the analyzer stage and the window stage, each of
  which announces itself with one printed line. It gives its scanner no text, so it stops at
  once, before anything is printed.
-/

namespace CCheck.Console

open Declaration Text Unicode

/-- The lines that successive reads return before the input is used up. -/
def inputLines (input : List CodePoint) : List (List CodePoint) :=
  let pieces := splitAt (.char '\n') input
  if pieces.getLast? = some [] then pieces.dropLast else pieces

/-- What a session is handed as its input: text, nothing, or a value of another kind, named. -/
inductive Feed where
  | text (chars : List CodePoint)
  | absent
  | other (kind : String)
  deriving DecidableEq, Repr

def Feed.chars : Feed → Except Fault (List CodePoint)
  | .text cs => .ok cs
  | .absent => .ok []
  | .other kind => .error (.inputNotText kind)

structure Transcript where
  printed : List CodePoint
  fault : Option Fault
  deriving DecidableEq, Repr

def printLine (line : List CodePoint) : List CodePoint := line ++ [.char '\n']

/-- Runs a session on its feed: its transcript, or the fault of a feed it cannot read. -/
def runOn (session : List CodePoint → Transcript) (feed : Feed) : Except Fault Transcript :=
  session <$> feed.chars

def tableBanner : String := "Enter C code (press Enter twice to finish input):"

/-- The code gathered from `lines`: the lines before the first empty one, each followed by a
line feed, or `none` when no line is empty. -/
def gatherCode (lines : List (List CodePoint)) : Option (List CodePoint) :=
  match lines.span (fun l => !l.isEmpty) with
  | (before, _ :: _) => some (before.flatMap printLine)
  | (_, []) => none

def tableText (tokens : List Token) : List CodePoint :=
  printLine [] ++ printLine Token.tableHeader ++ printLine Token.tableRule ++
    tokens.flatMap fun t => printLine t.row

def tableSession (input : List CodePoint) : Transcript :=
  match gatherCode (inputLines input) with
  | some code => ⟨printLine (codePoints tableBanner) ++ tableText (Token.scan code), none⟩
  | none => ⟨printLine (codePoints tableBanner), some .endOfInput⟩

def promptBanner : String := "Enter your code line by line. Press Enter on a blank line to finish."

def promptMark : String := "> "

/-- The transcript of the prompting session on `input`, handing its lines to a checker with
setting `checker`, or to none when `checker` is `none`. -/
def promptSession (checker : Option Setting) (input : List CodePoint) : Transcript :=
  let (filled, rest) := (inputLines input).span (fun l => !(trim l).isEmpty)
  let asked := printLine (codePoints promptBanner) ++
    (List.replicate (filled.length + 1) (codePoints promptMark)).flatten
  match rest, checker with
  | [], _ => ⟨asked, some .endOfInput⟩
  | _ :: _, none => ⟨asked, some .checkerNotInScope⟩
  | _ :: _, some setting =>
    let report := check setting (filled.map .line)
    ⟨asked ++ report.lines.flatMap printLine, report.fault⟩

/-- The stages the entry program builds after the scanner. -/
inductive Stage where
  | analyzer
  | window
  deriving DecidableEq, Repr

def Stage.name : Stage → String
  | .analyzer => "Syntax"
  | .window => "GUI"

def Stage.announcement : Stage → String
  | .analyzer => "Syntax Analyzer initialized."
  | .window => "GUI initialized."

/-- The transcript of the entry program whose scanner is given `text`, or no text. -/
def entryProgram (text : Option (List CodePoint)) : Transcript :=
  match text with
  | none => ⟨[], some .scannerWithoutText⟩
  | some _ =>
    ⟨[Stage.analyzer, .window].flatMap fun s => printLine (codePoints s.announcement), none⟩

end CCheck.Console
