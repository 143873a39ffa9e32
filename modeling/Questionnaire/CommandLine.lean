/-
The arguments of the program.

The first argument names what is to be done; what follows are options and places, in any
order.  An option begins with a hyphen and is more than the hyphen, for that alone stands
for standard input.  After two hyphens nothing is an option any more.

Options are read before anything else is looked at.  A request for help goes before a
missing place, but not before an option that does not exist.
-/

namespace Questionnaire.CommandLine

/-! ### What arguments can say -/

/-- What the arguments ask for. -/
inductive Order
  /-- Adds the sample questionnaires. -/
  | seedSamples
  /-- Imports the answers in a file, into a server if one is given. -/
  | importAnswers (link file : String) (server : Option String) (submit : Bool)
  deriving DecidableEq, Repr

/-- What is wrong with arguments. -/
inductive Misuse
  | noCommand
  | unknownCommand (name : String)
  | unknownOption (name : String)
  /-- A value for an option that takes none. -/
  | valueGiven (name : String)
  | valueMissing (name : String)
  | placeMissing (name : String)
  | placesLeft (rest : List String)
  deriving DecidableEq, Repr

/-- What arguments come to. -/
inductive Reading
  | order (o : Order)
  /-- A text to show. -/
  | help (text : String)
  | misuse (m : Misuse)
  deriving DecidableEq, Repr

def Misuse.message : Misuse → String
  | .noCommand => "Missing command."
  | .unknownCommand name => "No such command '" ++ name ++ "'."
  | .unknownOption name => "No such option: " ++ name
  | .valueGiven name => "Option '" ++ name ++ "' does not take a value."
  | .valueMissing name => "Option '" ++ name ++ "' requires an argument."
  | .placeMissing name => "Missing argument '" ++ name ++ "'."
  | .placesLeft rest => "Got unexpected extra arguments (" ++ " ".intercalate rest ++ ")"

/-! ### Help -/

def seedUsage : String := "Usage: vsaq seed-sample-template [OPTIONS]\n"

def seedHelp : String :=
  seedUsage ++ "\n" ++
  "  Seed the bundled sample questionnaire templates (validated first).\n\n" ++
  "Options:\n" ++
  "  --help  Show this message and exit.\n"

def importUsage : String := "Usage: vsaq import-answers [OPTIONS] LINK ANSWERS_FILE\n"

def importHelp : String :=
  importUsage ++ "\n" ++
  "  Import a \x7bquestion_id: value\x7d JSON file into the instance at LINK.\n\n" ++
  "Options:\n" ++
  "  --remote URL  Save through the fill API of this server instead of the local\n" ++
  "                database.\n" ++
  "  --submit      Submit the questionnaire after importing.\n" ++
  "  --help        Show this message and exit.\n"

/-! ### Reading -/

/-- The arguments of a command, sorted. -/
structure Sorted where
  places : List String := []
  server : Option String := none
  submit : Bool := false
  help : Bool := false
  deriving DecidableEq, Repr

/-- Whether an argument is an option. -/
def isOption (s : String) : Bool := s.startsWith "-" && s != "-"

/-- The name of an option and the value after its equals sign. -/
def nameAndValue (s : String) : String × Option String :=
  let name := s.toList.takeWhile (· ≠ '=')
  if name.length = s.length then (s, none)
  else (String.ofList name, some (String.ofList (s.toList.drop (name.length + 1))))

/-- Sorts the arguments of the import. -/
def sortImport (a : Sorted) : List String → Except Misuse Sorted
  | [] => .ok a
  | arg :: rest =>
    if !isOption arg then sortImport { a with places := a.places ++ [arg] } rest
    else match nameAndValue arg with
      | ("--", none) => .ok { a with places := a.places ++ rest }
      | ("--help", none) => sortImport { a with help := true } rest
      | ("--submit", none) => sortImport { a with submit := true } rest
      | ("--remote", some url) => sortImport { a with server := some url } rest
      | ("--remote", none) =>
        match rest with
        | [] => .error (.valueMissing "--remote")
        | url :: rest => sortImport { a with server := some url } rest
      | (name, value) =>
        if ["--help", "--submit"].contains name && value.isSome then .error (.valueGiven name)
        else .error (.unknownOption name)

/-- Sorts the arguments of a command that has no options but the one for help. -/
def sortPlain (a : Sorted) : List String → Except Misuse Sorted
  | [] => .ok a
  | arg :: rest =>
    if !isOption arg then sortPlain { a with places := a.places ++ [arg] } rest
    else match nameAndValue arg with
      | ("--", none) => .ok { a with places := a.places ++ rest }
      | ("--help", none) => sortPlain { a with help := true } rest
      | (name, value) =>
        if name = "--help" && value.isSome then .error (.valueGiven name)
        else .error (.unknownOption name)

def readSeed (args : List String) : Reading :=
  match sortPlain {} args with
  | .error m => .misuse m
  | .ok a =>
    if a.help then .help seedHelp
    else if a.places.isEmpty then .order .seedSamples
    else .misuse (.placesLeft a.places)

def readImport (args : List String) : Reading :=
  match sortImport {} args with
  | .error m => .misuse m
  | .ok a =>
    if a.help then .help importHelp
    else match a.places with
      | [] => .misuse (.placeMissing "LINK")
      | [_] => .misuse (.placeMissing "ANSWERS_FILE")
      | [link, file] => .order (.importAnswers link file a.server a.submit)
      | _ :: _ :: rest => .misuse (.placesLeft rest)

/-- What the arguments of the program come to. -/
def read : List String → Reading
  | [] => .misuse .noCommand
  | "seed-sample-template" :: args => readSeed args
  | "import-answers" :: args => readImport args
  | name :: _ => .misuse (.unknownCommand name)

example : read ["import-answers", "--submit", "l", "-"] =
    .order (.importAnswers "l" "-" none true) := by decide +kernel
example : read ["import-answers", "--", "-l", "-"] =
    .order (.importAnswers "-l" "-" none false) := by decide +kernel
example : read ["import-answers", "--remote=u", "l", "-"] =
    .order (.importAnswers "l" "-" (some "u") false) := by decide +kernel
example : read ["import-answers", "--help", "-"] = .help importHelp := by decide +kernel
example : read ["import-answers", "--submit", "-"] = .misuse (.placeMissing "ANSWERS_FILE") := by
  decide +kernel

end Questionnaire.CommandLine
