/-
The target of a request.

A target is a server, a path and, behind a question mark, a query.  In the latter two, a
percent sign with two hexadecimal digits writes a byte, and in a query a plus sign writes a
blank.  Bytes that write no character are replaced in a path, and stay in percent signs in a
query.  A path has exactly one slash in front, however it was sent.
-/
import Questionnaire.Api.Address

namespace Questionnaire.Api

/-- The characters that stand for themselves in a path. -/
def pathMarks : List Char := "!$&'()*+,/:;=@".toList

/-- The characters that stand for themselves in a query that is sent as it was. -/
def queryMarks : List Char := '%' :: '?' :: pathMarks

/-- A text of a query. -/
def queryText (cs : List Char) : String :=
  Text.unquoteReadable (String.ofList (cs.map fun c => if c = '+' then ' ' else c))

/-- The names and values of a query, in order. -/
def readQuery (s : String) : List (String × String) :=
  ((Text.splitAll '&' s.toList).filter (!·.isEmpty)).map fun part =>
    let (name, value) := Text.splitFirst '=' part
    (queryText name, queryText (value.getD []))

/-- A target in its parts. -/
structure Target where
  scheme : String := "http"
  server : String := "localhost"
  path : String
  query : List (String × String) := []
  /-- The query as it was sent. -/
  queryString : String := ""
  deriving DecidableEq, Repr

/-- A path with exactly one slash in front. -/
def rooted (path : String) : String := String.ofList ('/' :: path.toList.dropWhile (· = '/'))

/-- A path as it is sent.  It is read as an address, and if it seems to name a server, then that
is named in plain letters. -/
def sentPath (path : String) : Except Misfit String := do
  let a ← Address.read path
  let scheme := if a.scheme = "" then "" else a.scheme ++ ":"
  let server ← if a.server = "" then pure "" else a.serverName.map ("//" ++ ·)
  return scheme ++ server ++ a.path

/-- Reads a target.  The address is read once for the server to ask, and what is left of it once
more for what to ask; if that seems to name a server too, the name is passed over. -/
def Target.read (s : String) : Except Misfit Target := do
  let called ← Address.read s
  let asked ← Address.read
    (called.path ++ if called.query = "" then "" else "?" ++ called.query)
  let path ← sentPath asked.path
  let server ← if called.server = "" then pure "localhost" else called.serverName
  return {
    scheme := if called.scheme = "" then "http" else called.scheme
    server
    path := rooted (Text.unquote path)
    query := readQuery asked.query
    queryString := asked.query }

example : readQuery "x=1&y=%20t+u&&z=%ff" = [("x", "1"), ("y", " t u"), ("z", "%FF")] := by
  decide +kernel
example : (Target.read "https:/a%20b/%C3%A9?d#e").toOption =
    some ⟨"https", "localhost", "/a b/é", [("d", "")], "d"⟩ := by decide +kernel

end Questionnaire.Api
