import CCheck.Unicode.CodePoint
/-!
# Faults

The ways a run of the checker, a console session or a workload stops without an answer. Each
fault is a cause; how a fault is shown to a caller is up to whoever presents the answer.
-/

namespace CCheck

open Unicode

/-- Why a run stopped without an answer. -/
inductive Fault where
  | endOfInput
  | checkerNotInScope
  | scannerWithoutText
  | patternsUnavailable
  | lineNotText (kind : String)
  | initializerMissing
  | sizeTooLong (digits : Nat)
  | inputNotText (kind : String)
  | linesNotSequence (kind : String)
  | textWithoutLength (kind : String)
  | textNotIndexed
  /-- An item of the scanner's input sequence is not text, so the character test `test` cannot
  be applied to it; `kind` names what it is. -/
  | itemNotText (kind test : String)
  /-- A piece of text of the scanner's input was joined with the next item, which is not text;
  `kind` names what it is. -/
  | joinWithNonText (kind : String)
  | repeatByNonInteger (kind : String)
  | rangeByNonInteger (kind : String)
  | countTooLarge
  | repeatTooLong
  | outOfMemory
  | argumentsNotNamed (workload kind : String)
  | emptyResult
  | unexpectedArgument (workload : String) (argument : List CodePoint)
  | notAWorkload (name : List CodePoint)
  | unknownWorkload (name : List CodePoint)
  deriving DecidableEq, Repr

def Fault.describe : Fault → String
  | .endOfInput => "the input ended before a blank line"
  | .checkerNotInScope => "the checker is not in scope"
  | .scannerWithoutText => "the scanner was built without text"
  | .patternsUnavailable => "pattern support is absent"
  | .lineNotText kind => s!"an input line is a {kind}, not text"
  | .initializerMissing => "an array or struct declaration has no initializer"
  | .sizeTooLong digits => s!"a size literal has {digits} digits"
  | .inputNotText kind => s!"the session input is a {kind}, not text"
  | .linesNotSequence kind => s!"the lines are a {kind}, not a sequence"
  | .textWithoutLength kind => s!"the text is a {kind}, which has no length"
  | .textNotIndexed => "the text is a table without positions"
  | .itemNotText kind test => s!"an item of the text is a {kind}, which has no test {test}"
  | .joinWithNonText kind => s!"a piece of text was joined with a {kind}"
  | .repeatByNonInteger kind => s!"a repeat count is a {kind}"
  | .rangeByNonInteger kind => s!"a range bound is a {kind}"
  | .countTooLarge => "a count does not fit a machine index"
  | .repeatTooLong => "a repeated text would be too long"
  | .outOfMemory => "a workload ran out of memory"
  | .argumentsNotNamed w kind => s!"the arguments of {w} are a {kind}, not a table"
  | .emptyResult => "the workload produced nothing"
  | .unexpectedArgument w a => s!"{w} takes no argument " ++ render a
  | .notAWorkload name => render name ++ " is not a workload name"
  | .unknownWorkload name => "there is no workload " ++ render name

end CCheck
