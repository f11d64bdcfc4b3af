import CCheck.Console.Sessions
/-!
# Command line

`main tokens` runs the token table session on standard input, `main declarations` runs the
prompting session, and `main` alone runs the entry program. The transcript goes to standard
output; a fault is described on standard error and makes the exit code 1.
-/

open CCheck Console Unicode

partial def readRest (stream : IO.FS.Stream) (acc : String) : IO String := do
  let line ← stream.getLine
  if line.isEmpty then return acc else readRest stream (acc ++ line)

def main (args : List String) : IO UInt32 := do
  let input := codePoints (← readRest (← IO.getStdin) "")
  let transcript := match args with
    | ["tokens"] => tableSession input
    | ["declarations"] => promptSession none input
    | _ => entryProgram none
  IO.print (render transcript.printed)
  match transcript.fault with
  | some f => IO.eprintln f.describe; return 1
  | none => return 0
