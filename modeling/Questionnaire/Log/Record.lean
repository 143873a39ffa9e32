/-
Lines of the log.

A record is written as one JSON object for machines, or as one coloured line for people.
Of what is known about the surroundings of a record only listed names are written, in
the order of the list, so that nothing else can slip into the log.
-/
import Questionnaire.Log.Pattern
import Questionnaire.Json.Writer
import Questionnaire.Time.Moment

namespace Questionnaire.Log

/-- How urgent a record is. -/
inductive Level
  | debug | info | warning | error | critical
  /-- A level that this log gives no colour. -/
  | other (name : String)
  deriving DecidableEq, Repr

namespace Level

def name : Level → String
  | .debug => "DEBUG"
  | .info => "INFO"
  | .warning => "WARNING"
  | .error => "ERROR"
  | .critical => "CRITICAL"
  | .other name => name

/-- The level with a name; two of the levels have a second one. -/
def ofName : String → Level
  | "WARN" => .warning
  | "FATAL" => .critical
  | name =>
    (([.debug, .info, .warning, .error, .critical] : List Level).find? (·.name = name)).getD
      (.other name)

/-- What switches a terminal to the colour of a level. -/
def colour : Level → String
  | .debug => "\x1b[36m"
  | .info => "\x1b[32m"
  | .warning => "\x1b[33m"
  | .error => "\x1b[31m"
  | .critical => "\x1b[35m"
  | .other _ => ""

end Level

/-- What switches a terminal back. -/
def plain : String := "\x1b[0m"

/-- Something that happened. -/
structure Record where
  logger : Json
  level : Level
  /-- The message, with places for the values. -/
  pattern : String
  values : List Json := []
  created : Moment
  line : Json := .int 1
  function : Json := .null
  /-- What is known about the surroundings. -/
  context : Entries Json := []

/-- The names of what is written about the surroundings. -/
def contextNames : List String :=
  ["method", "path", "status", "duration_ms", "remote_addr", "request_id",
    "admin_id", "instance_id", "question_id", "event_type"]

namespace Record

/-- What is known under a name; null counts as nothing. -/
def known (r : Record) (name : String) : Option Json := (r.context.get? name).bind Json.nonNull?

def message (r : Record) : Except Misfit String := Log.message r.pattern r.values

/-- The record as one object. -/
def toJson (r : Record) : Except Misfit Json := do
  let message ← r.message
  return .obj ([("timestamp", .str r.created.iso), ("level", .str r.level.name),
      ("logger", r.logger), ("message", .str message), ("function", r.function),
      ("line", r.line)] ++
    contextNames.filterMap fun name => (r.known name).map (name, ·))

/-- The record as a line for machines. -/
def machineLine (r : Record) : Except Misfit String := Json.render <$> r.toJson

/-- How long something took, as it is shown: whole milliseconds. -/
def duration (v : Json) : Except Misfit String :=
  match v with
  | .str _ => .error .content
  | v => String.ofList <$> ({ precision := some 0 } : Directive).write 'f' v

/-- The questionnaire and the question that a record is about. -/
def tags (r : Record) : List String :=
  ((r.known "instance_id").map ("instance=" ++ ·.words)).toList ++
    (((r.known "question_id").filter Json.truthy).map ("q=" ++ ·.words)).toList

/-- The record as a line for people. -/
def readableLine (r : Record) : Except Misfit String := do
  let clock ← r.created.localClock
  let message ← r.message
  let name := r.level.name
  let padding := String.ofList (List.replicate (8 - name.length) ' ')
  let line := r.level.colour ++ clock ++ " " ++ name ++ padding ++ plain ++ " " ++
    r.logger.words ++ ": " ++ message
  let tags := if r.tags.isEmpty then "" else " (" ++ " ".intercalate r.tags ++ ")"
  let duration ← match r.known "duration_ms" with
    | some v => do pure (" [" ++ (← duration v) ++ "ms]")
    | none => pure ""
  return line ++ tags ++ duration

end Record

/-! ### Requests in the log -/

/-- The path under which respondents' links stand. -/
def fillPath : String := "/api/v1/fill/"

/-- A path in which a respondent's link is cut to four characters: whoever has the whole link
has the questionnaire. -/
def redact (path : String) : String :=
  let cs := path.toList
  let stem := fillPath.toList
  if stem.isPrefixOf cs then
    let rest := cs.drop stem.length
    let link := rest.takeWhile (· ≠ '/')
    if link.isEmpty then path
    else String.ofList (stem ++ link.take 4 ++ '…' :: rest.dropWhile (· ≠ '/'))
  else path

/-- How long a request may take before it counts as slow, in milliseconds. -/
def slow : Int := 1000

/-- From which status on a request counts as failed by the service. -/
def failing : Int := 500

/-- Whether a number is greater than a whole one. -/
def isAbove (n : Int) : Json → Except Misfit Bool
  | .int m => .ok (n < m)
  | .float x => .ok (x.exceeds n)
  | .bool b => .ok (n < (if b then 1 else 0))
  | _ => .error .kind

/-- Whether a number is a whole one or greater. -/
def isFrom (n : Int) : Json → Except Misfit Bool
  | .int m => .ok (n ≤ m)
  | .float x => .ok (x.exceeds n || x.equalInt n)
  | .bool b => .ok (n ≤ (if b then 1 else 0))
  | _ => .error .kind

/-- How urgent a request is by its status and its duration, and what it is called. -/
def urgency (status duration : Json) : Except Misfit (Level × String) := do
  if ← isAbove slow duration then return (.warning, "Slow request")
  if ← isFrom failing status then return (.error, "Server error")
  return (.debug, "Request")

end Questionnaire.Log
