import CCheck.Declaration.Check
/-!
# Checking a sequence of lines

The checker takes its lines one at a time, numbering them from 1, and carries the scope from
each line to the next. An entry that is not text, or a fault on a line, stops the run; what was
reported before stays in the report. A run that stops without a fault and found nothing ends its
report with `No errors found.`.
-/

namespace CCheck.Declaration

open Unicode

/-- An entry of the checker's input: a line of text, or a value of another kind, named. -/
inductive Entry where
  | line (text : List CodePoint)
  | other (kind : String)
  deriving DecidableEq, Repr

/-- The diagnostics of a run with their line numbers, and the fault that stopped it, if any. -/
structure Report where
  found : List (Nat × Diagnostic)
  fault : Option Fault
  deriving DecidableEq, Repr

def checkFrom (setting : Setting) (scope : Scope) (n : Nat) : List Entry → Report
  | [] => ⟨[], none⟩
  | .other kind :: _ => ⟨[], some (.lineNotText kind)⟩
  | .line text :: rest =>
    let outcome := checkLine setting scope text
    let here := outcome.found.map fun d => (n, d)
    match outcome.next with
    | .error f => ⟨here, some f⟩
    | .ok after =>
      let later := checkFrom setting after (n + 1) rest
      ⟨here ++ later.found, later.fault⟩

/-- The scope after checking `lines` in order from `scope`, or the fault that stopped the check. -/
def scopeAfter (setting : Setting) (scope : Scope) : List (List CodePoint) → Except Fault Scope
  | [] => .ok scope
  | line :: rest =>
    match (checkLine setting scope line).next with
    | .ok after => scopeAfter setting after rest
    | .error f => .error f

/-- Checks `entries` from the empty scope, numbering them from 1. -/
def check (setting : Setting) (entries : List Entry) : Report := checkFrom setting .empty 1 entries

def checkLines (lines : List (List CodePoint)) : Report := check .standard (lines.map .line)

def cleanMessage : String := "No errors found."

/-- The printed lines of a report: one per diagnostic, then `cleanMessage` when the run ended
without a fault and found nothing. -/
def Report.lines (r : Report) : List (List CodePoint) :=
  r.found.map (fun p => p.2.reportLine p.1) ++
    if r.fault.isNone && r.found.isEmpty then [codePoints cleanMessage] else []

end CCheck.Declaration
