/-
A client and a server in one program.

Requests of a client are served by a service in the same program, as if they had come over
the network.
-/
import Questionnaire.Api.Server

namespace Questionnaire.Api

/-- The target that an address names; an address that cannot be read leads nowhere. -/
def targetOf (url : String) : Target := (Target.read url).toOption.getD { path := "/" }

/-- The request that a client sends. -/
def requestOf : Remote.Request → Request
  | .get url => { target := targetOf url, headers := [("Accept", "application/json")] }
  | .post url body =>
    { sentMethod := "POST", target := targetOf url, contentType := "application/json"
      body := Json.write { ascii := true } body }

/-- The response as a client reads it. -/
def replyOf (response : Response) : Remote.Reply :=
  { status := response.status
    text := match response.body with
      | .json v => Json.write { ascii := true } v
      | .text s => s }

/-- Sending requests to a service in the same program. -/
def loopback (s : Settings) (around : Surroundings) : Remote.Transport Service where
  send request := do
    let (response, service) := serve s around (requestOf request) (← get)
    set service
    return .ok (replyOf response)
  pause _ := pure ()

end Questionnaire.Api
