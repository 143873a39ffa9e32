/-
Where the service is run.

A deployment is what an environment lays down and the variables of the surroundings change.
A variable that is set counts even if it is empty, but for the secret and the database,
where the empty text says as little as none.  Production refuses to start without
either; development keeps its database in a file, and tests keep theirs in memory.
-/
import Questionnaire.Api.Handler
import Questionnaire.Text.Numeral

namespace Questionnaire

/-- What the service is run for. -/
inductive Environment
  | development | testing | production
  deriving DecidableEq, Repr

namespace Environment

/-- The environment with a name. -/
def ofName? : String → Option Environment
  | "development" | "default" => some .development
  | "testing" => some .testing
  | "production" => some .production
  | _ => none

end Environment

/-- How connections to the database are kept. -/
structure Pool where
  /-- After how many seconds a connection is made anew. -/
  recycle : Nat := 300
  /-- How many connections are kept, how many more may be made, and how many seconds to wait
  for one. -/
  bounds : Option (Nat × Nat × Nat) := none
  deriving DecidableEq, Repr

namespace Pool

/-- The settings of a pool under their names. -/
def toJson (p : Pool) : Json :=
  .obj ([("pool_pre_ping", .bool true), ("pool_recycle", .int p.recycle)] ++
    match p.bounds with
    | some (size, overflow, timeout) =>
      [("pool_size", .int size), ("max_overflow", .int overflow), ("pool_timeout", .int timeout)]
    | none => [])

end Pool

/-- What the service is run with. -/
structure Deployment where
  environment : Environment
  /-- What sessions are signed with. -/
  secret : String
  /-- The address of the database. -/
  database : String
  /-- How connections are kept, where there are several. -/
  pool : Option Pool
  /-- Whether those who manage questionnaires need a key, as a switch. -/
  gate : String
  /-- The most bytes that a body may have. -/
  limit : Int
  /-- The address that respondents' links are handed out under. -/
  fillBase : String
  /-- The pages that may use the service, with commas between. -/
  origins : String
  /-- Where requests are counted; in memory if empty. -/
  counter : String
  deriving DecidableEq, Repr

namespace Deployment

/-- Why the service does not start. -/
inductive Fault
  /-- The limit is no whole number. -/
  | limit
  /-- Variables that have to be set are not. -/
  | missing (names : List String)
  deriving DecidableEq, Repr

def Fault.message : Fault → String
  | .limit => ""
  | .missing names => "Production config requires: " ++ ", ".intercalate names

/-- What a deployment takes from the place where it is. -/
structure Site where
  /-- The directory of the service. -/
  directory : String
  /-- A secret drawn by chance. -/
  drawn : String

/-- A variable, and what counts where it is not set. -/
def valueOf (vars : Entries String) (name default : String) : String :=
  (vars.get? name).getD default

/-- A text, or another one if it is empty. -/
def orText (s other : String) : String := if s = "" then other else s

/-- The address of the database as it is given, with the name of its kind in full. -/
def databaseGiven (vars : Entries String) : String :=
  let given := valueOf vars "DATABASE_URL" ""
  let brief := "postgres://".toList
  if brief.isPrefixOf given.toList then
    "postgresql://" ++ String.ofList (given.toList.drop brief.length)
  else given

/-- The bytes that a body may have where nothing else is said: two binary megabytes. -/
def usualLimit : Int := 2097152

/-- The variables without which production does not start, in the order they are asked for. -/
def missingIn (vars : Entries String) : List String :=
  (if databaseGiven vars = "" then ["DATABASE_URL"] else []) ++
    (if valueOf vars "SECRET_KEY" "" = "" then ["SECRET_KEY"] else [])

/-- The deployment in an environment with variables. -/
def read (environment : Environment) (vars : Entries String) (site : Site) :
    Except Fault Deployment := do
  let limit ← match vars.get? "MAX_CONTENT_LENGTH" with
    | none => pure usualLimit
    | some text =>
      match Text.integer? text with
      | some n => pure n
      | none => throw .limit
  let secret := orText (valueOf vars "SECRET_KEY" "") site.drawn
  let counter := valueOf vars "REDIS_URL" ""
  let fillBase := valueOf vars "FILL_BASE_URL" "/fill"
  match environment with
  | .development =>
    return { environment, secret, limit, counter, fillBase
             database := orText (databaseGiven vars)
               ("sqlite:///" ++ site.directory ++ "/instance/vsaq_dev.db")
             pool := some {}
             gate := valueOf vars "API_AUTH_ENABLED" "false"
             origins := valueOf vars "CORS_ORIGINS" "*" }
  | .testing =>
    return { environment, secret, limit, counter
             fillBase := "http://vsaq.test/fill"
             database := valueOf vars "TEST_DATABASE_URL" "sqlite:///:memory:"
             pool := none
             gate := "false"
             origins := valueOf vars "CORS_ORIGINS" "*" }
  | .production =>
    let missing := missingIn vars
    if !missing.isEmpty then throw (.missing missing)
    return { environment, secret, limit, counter, fillBase
             database := databaseGiven vars
             pool := some { bounds := some (5, 10, 20) }
             gate := valueOf vars "API_AUTH_ENABLED" "true"
             origins := valueOf vars "CORS_ORIGINS" "" }

/-- The settings of a deployment under their names. -/
def members (d : Deployment) : Entries Json :=
  [("SECRET_KEY", .str d.secret), ("DEBUG", .bool (d.environment = .development)),
    ("TESTING", .bool (d.environment = .testing)),
    ("SQLALCHEMY_TRACK_MODIFICATIONS", .bool false),
    ("SQLALCHEMY_ENGINE_OPTIONS", (d.pool.map Pool.toJson).getD (.obj [])),
    ("API_AUTH_ENABLED", .str d.gate), ("REDIS_URL", .str d.counter),
    ("CORS_ORIGINS", .str d.origins), ("FILL_BASE_URL", .str d.fillBase),
    ("MAX_CONTENT_LENGTH", .int d.limit), ("SQLALCHEMY_DATABASE_URI", .str d.database)] ++
  if d.environment = .testing then [("RATELIMIT_ENABLED", .bool false)] else []

/-- What the answers to requests depend on.  The variables are asked again at every request,
so that the gate can be opened and closed while the service runs. -/
def settings (d : Deployment) (vars : Entries String) : Api.Settings :=
  { gate := {
      override := valueOf vars "API_AUTH_ENABLED" ""
      configured := some d.gate
      keys := valueOf vars "API_KEYS" "" }
    limit := some d.limit
    debug := d.environment = .development
    testing := d.environment = .testing }

end Deployment

end Questionnaire
