/-
Sample questionnaires.

Two templates that a new service can start with.  Adding them is safe to repeat: one whose
name is taken is left out.
-/
import Questionnaire.Service.Basic
import Questionnaire.Service.Content

namespace Questionnaire

/-- A questionnaire that comes with the service. -/
structure Sample where
  name : String
  description : String
  content : Json

namespace Sample

/-- A question of a type. -/
def question (type id text : String) : Entries Json :=
  [("type", .str type), ("id", .str id), ("text", .str text)]

/-- A question that has to be answered. -/
def required (type id text : String) : Json :=
  .obj (question type id text ++ [("required", .bool true)])

/-- A question that has to be answered, with its text last. -/
def requiredFirst (type id text : String) : Json :=
  .obj [("type", .str type), ("id", .str id), ("required", .bool true), ("text", .str text)]

/-- A question that may be left open. -/
def optional (type id text : String) : Json := .obj (question type id text)

def block (text : String) (items : List Json) : Json :=
  .obj [("type", .str "block"), ("text", .str text), ("items", .arr items)]

def questionnaire (items : List Json) : Json := .obj [("version", .int 1), ("items", .arr items)]

def securityTeam : Json :=
  .obj (question "yesno" "has_security_team" "Do you have a dedicated security team?" ++
    [("required", .bool true),
      ("yes", .arr [optional "line" "security_team_size" "How many people are on the team?"]),
      ("no", .arr [
        .obj [("type", .str "tip"), ("id", .str "tip_no_team"), ("warn", .bool true),
          ("severity", .str "high"),
          ("text", .str "A named owner for security is expected for vendors handling customer data.")],
        optional "box" "security_owner" "Who is responsible for security?"])])

def encryptionGaps : Json :=
  .obj (question "box" "encryption_gaps" "Describe the data that is not encrypted and why." ++
    [("cond", .obj [("or",
      .arr [.str "encrypts_at_rest/no", .str "encrypts_in_transit/no"])])])

def updateFrequency : Json :=
  .obj (question "radiogroup" "update_frequency" "How often do you update your systems?" ++
    [("choices", .arr [.obj [("update_daily", .str "Daily")], .obj [("update_weekly", .str "Weekly")],
        .obj [("update_monthly", .str "Monthly")], .obj [("update_quarterly", .str "Quarterly")]]),
      ("required", .bool true)])

def basicSecurity : Sample where
  name := "Basic Security Questionnaire"
  description := "A simple questionnaire for basic security assessment"
  content := questionnaire [
    block "Company Information" [
      required "line" "company_name" "Company Name",
      required "line" "contact_email" "Contact Email",
      optional "box" "company_description" "Company Description"],
    block "Security Controls" [
      securityTeam,
      requiredFirst "yesno" "performs_audits" "Do you perform regular security audits?",
      optional "check" "encrypts_at_rest" "We encrypt data at rest",
      optional "check" "encrypts_in_transit" "We encrypt data in transit",
      encryptionGaps,
      updateFrequency]]

def employeeOnboarding : Sample where
  name := "Employee Onboarding Security"
  description := "Security procedures for new employee onboarding"
  content := questionnaire [
    block "Employee Information" [
      required "line" "full_name" "Full Name",
      required "line" "department" "Department",
      required "line" "start_date" "Start Date"],
    block "Security Training" [
      .obj [("type", .str "info"),
        ("text", .str "All employees must complete security training within their first week.")],
      requiredFirst "check" "completed_awareness" "I have completed the security awareness training",
      requiredFirst "check" "read_aup" "I have read and understood the acceptable use policy",
      requiredFirst "check" "configured_2fa" "I have configured two-factor authentication",
      .obj [("type", .str "spacer")],
      optional "box" "security_questions" "Do you have any security concerns or questions?"]]

def all : List Sample := [basicSecurity, employeeOnboarding]

end Sample

namespace Service

/-- Adds the samples whose names are free, without committing, and counts them.  Samples
that the tables do not admit end the transaction. -/
def addSamples (admin : Int) : List Sample → Attempt Service Nat
  | [] => return 0
  | sample :: rest => do
    if (← read (·.templates)).any (·.name = sample.name) then addSamples admin rest
    else
      let (content, _) ← Attempt.lift (Content.check sample.content)
      let now ← time
      let row : Template :=
        { id := 0, name := sample.name, description := some sample.description, content
          createdBy := admin, createdAt := now, updatedAt := now }
      match (← get).tables.addTemplate row with
      | .ok (_, tables) =>
        change fun _ => tables
        return (← addSamples admin rest) + 1
      | .error failure =>
        rollback
        throw failure

/-- Adds the samples that are not there yet and counts them. -/
def seed (admin : Int) : Attempt Service Nat := addSamples admin Sample.all

end Service

end Questionnaire
