import CCheck.Console.Sessions
import CCheck.Workload.Count
/-!
# Workloads

Four workloads exercise the scanner and the checker, each scaled by one count and summarised by a
short list of numbers and texts.

* `tokenize` scans the sample source repeated `n` times and gives the number of tokens and the
  rows of the first and the last token.
* `analyze` checks the blocks of sample declarations numbered below `n`, then three clean
  declarations, and gives the number of lines and the first and the last line.
* `pipeline` scans a fixed unit of code repeated `n` times and checks `n` blocks, and gives the
  number of tokens and of lines.
* `programs` runs the token table session on a script of `n` code lines, the prompting session
  on its declaration lines and the entry program with a text, then scans the control-flow words
  repeated `max 1 (n / 7)` times with no keywords at all; it gives the number of tokens, the kind
  of the first and the row of the last.

The sample data that the workloads read (the C source, the blocks of declaration lines and the
scripts of the sessions) is a parameter, a `Fixture`, so every workload is defined for any such
data. Of the benchmark's own fixture what is known is this: its source has 28 lines, 711 code
points and 193 tokens and ends with a line feed, and its block numbered `i` has 30 lines, the
first `int broken` followed by `i` and the last `short plain` followed by `i` and a semicolon.

A summary that needs a first and a last item of an empty sequence is a fault, and so is a fault
of any step, a repeated sequence too large for the machine among them. Every workload has a name
with the prefix `bench_`, and a name for its count; it takes its arguments as a table of named
counts.
-/

namespace CCheck

inductive Workload where
  | tokenize
  | analyze
  | pipeline
  | programs
  deriving DecidableEq, Repr

namespace Workload

open Console Declaration Unicode

/-- The sample data of the workloads: the C source that `tokenize` repeats, the block of
declaration lines numbered `i`, the line of code the token table session reads once for each
line of its script, the declaration lines the prompting session reads for a count, and the text
the entry program's scanner is built with. -/
structure Fixture where
  source : String
  declarations : Nat → List String
  codeLine : String
  promptLines : Nat → List String
  entryText : String

variable (fx : Fixture)

/-- The blocks of declaration lines numbered `0` to `n - 1`, in order. -/
def Fixture.blocks (n : Nat) : List String := (List.range n).flatMap fx.declarations

def cleanDeclarations : List String := ["int x = 5;", "float y = 1.0;", "bool z = false;"]

/-- The unit of code that the pipeline workload repeats: 17 tokens on four lines. -/
def pipelineUnit : String := "int value = 10;\nfloat ratio = 1.5;\nvalue += 1;\n@\n"

def controlFlowOrder : List String := ["if", "else", "while", "for", "do", "switch", "case"]

/-- An item of a workload's summary: a number or a text. -/
inductive Item where
  | count (n : Nat)
  | text (s : List CodePoint)
  deriving DecidableEq, Repr

/-- The number of items and the first and the last of them, or the fault of an empty list. -/
def ends {α : Type} (display : α → List CodePoint) (xs : List α) : Except Fault (List Item) :=
  match xs.head?, xs.getLast? with
  | some first, some last => .ok [.count xs.length, .text (display first), .text (display last)]
  | _, _ => .error .emptyResult

def checkAll (lines : List String) : Except Fault Unit :=
  match (checkLines (lines.map codePoints)).fault with
  | some f => .error f
  | none => .ok ()

def finished (t : Transcript) : Except Fault Unit :=
  match t.fault with
  | some f => .error f
  | none => .ok ()

/-- The text a session reads: the lines, each with its line feed, then an empty line. -/
def script (lines : List (List CodePoint)) : List CodePoint :=
  lines.flatMap printLine ++ printLine []

/-- The vocabulary with no keywords, in which control-flow words are their own kind. -/
def controlFlowOnly : Vocabulary := ⟨[], Vocabulary.controlFlowWords.map codePoints⟩

def all : List Workload := [.tokenize, .analyze, .pipeline, .programs]

def name : Workload → String
  | .tokenize => "bench_lexical_tokenize"
  | .analyze => "bench_semantic_analyze"
  | .pipeline => "bench_pipeline_lex_then_semantic"
  | .programs => "bench_module_mains"

def namePrefix : String := "bench_"

def parameter : Workload → String
  | .tokenize => "n_copies"
  | .analyze => "n_blocks"
  | .pipeline => "n_units"
  | .programs => "n_lines"

def defaultCount : Workload → Nat
  | .tokenize => 30
  | .analyze => 60
  | .pipeline => 40
  | .programs => 200

def select (name : List CodePoint) : Except Fault Workload :=
  if (codePoints namePrefix).isPrefixOf name then
    match all.find? (codePoints ·.name = name) with
    | some w => .ok w
    | none => .error (.unknownWorkload name)
  else .error (.notAWorkload name)

def run : Workload → Count → Except Fault (List Item)
  | .tokenize, c => do
    let n ← c.repeats
    let source ← repeatText (codePoints fx.source) n
    ends Token.row (Token.scan source)
  | .analyze, c => do
    let n ← c.steps
    let lines := fx.blocks n
    checkAll lines
    checkAll cleanDeclarations
    ends codePoints lines
  | .pipeline, c => do
    let n ← c.repeats
    let source ← repeatText (codePoints pipelineUnit) n
    let tokens := Token.scan source
    let lines := fx.blocks n
    checkAll lines
    return [.count tokens.length, .count lines.length]
  | .programs, c => do
    let n ← c.repeats
    let code ← repeatList [codePoints fx.codeLine] n
    finished (tableSession (script code))
    finished (promptSession (some .standard) (script ((fx.promptLines n).map codePoints)))
    finished (entryProgram (some (codePoints fx.entryText)))
    let words ← repeatList controlFlowOrder (max 1 (n / 7))
    let tokens := Token.scanWith controlFlowOnly (codePoints (" ".intercalate words))
    match tokens.head?, tokens.getLast? with
    | some first, some last =>
      return [.count tokens.length, .text (codePoints first.kind.name), .text last.row]
    | _, _ => .error .emptyResult

/-- A workload's arguments as given: a table of named counts, or a value of another kind,
named. -/
inductive Arguments where
  | named (args : List (List CodePoint × Count))
  | other (kind : String)
  deriving DecidableEq, Repr

/-- Runs a workload with named arguments: its count, if given, and no other. -/
def call (w : Workload) : Arguments → Except Fault (List Item)
  | .other kind => .error (.argumentsNotNamed w.name kind)
  | .named args =>
    match args.find? (·.1 ≠ codePoints w.parameter) with
    | some (key, _) => .error (.unexpectedArgument w.name key)
    | none => run fx w ((args.lookup (codePoints w.parameter)).getD (.whole w.defaultCount))

/-- Runs every workload once with its default count, keeping no summary. -/
def runAll : Except Fault Unit := all.forM fun w => (fun _ => ()) <$> call fx w (.named [])

end Workload

end CCheck
