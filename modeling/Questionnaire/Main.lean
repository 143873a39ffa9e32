/-
The command line.

An operator adds the sample questionnaires, or imports the answers in a file into the
questionnaire under a link.  A dash stands for standard input.  The database lives in
memory for as long as the program runs, and no server can be reached.
-/
import Questionnaire.Service.Command
import Questionnaire.CommandLine

namespace Questionnaire.CommandLine

/-- The service before anything is in it. -/
def fresh : Service := { links := fun n => String.ofList (Text.hex 32 (n + 1)) }

/-- What a command prints, or why it fails. -/
def outcome (c : Command) : Except String String :=
  (c.run.run fresh).1.mapError Failure.message

/-- The text of a file; a dash stands for standard input. -/
def readFile (file : String) : IO String := do
  if file = "-" then (← IO.getStdin).readToEnd else IO.FS.readFile file

/-- The command that an order asks for, unless it goes to a server. -/
def Order.command? : Order → IO (Option Command)
  | .seedSamples => return some .seedSamples
  | .importAnswers link file server submit => do
    let text ← readFile file
    return if (server.getD "").isEmpty then some (.importAnswers link text submit) else none

/-- Carries out an order; gives the exit code. -/
def Order.run (o : Order) : IO UInt32 := do
  match ← o.command? with
  | none =>
    IO.eprintln "Error: no server can be reached"
    return 1
  | some command =>
    match outcome command with
    | .ok text =>
      IO.print text
      return 0
    | .error message =>
      IO.eprintln ("Error: " ++ message)
      return 1

end Questionnaire.CommandLine

open Questionnaire.CommandLine in
def main (args : List String) : IO UInt32 := do
  match read args with
  | .order o => o.run
  | .help text =>
    IO.print text
    return 0
  | .misuse m =>
    IO.eprintln ("Error: " ++ m.message)
    return 2
