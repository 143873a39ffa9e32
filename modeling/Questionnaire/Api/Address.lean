/-
Addresses.

An address may name a scheme and a server before the path, and a query behind it; a fragment
behind that is not sent.  Controls and blanks in front of an address, and tabs and line ends
anywhere in it, do not belong to it.
-/
import Questionnaire.Host.Authority

namespace Questionnaire.Api

/-- An address in its parts; a part that is missing is empty. -/
structure Address where
  scheme : String
  /-- The server, as it is written between the slashes. -/
  server : String
  path : String
  query : String
  deriving DecidableEq, Repr

/-- Whether characters can name a scheme. -/
def isScheme : List Char → Bool
  | [] => false
  | c :: rest =>
    c.isAlpha && rest.all fun c => c.isAlphanum || c = '+' || c = '-' || c = '.'

/-- The scheme in front of a colon, and what follows. -/
def readScheme (cs : List Char) : String × List Char :=
  match Text.splitFirst ':' cs with
  | (scheme, some rest) =>
    if isScheme scheme then (Text.lower (String.ofList scheme), rest) else ("", cs)
  | (_, none) => ("", cs)

/-- The server behind two slashes, and what follows. -/
def readServer : List Char → List Char × List Char
  | '/' :: '/' :: rest =>
    let inside (c : Char) : Bool := c ≠ '/' && c ≠ '?' && c ≠ '#'
    (rest.takeWhile inside, rest.dropWhile inside)
  | cs => ([], cs)

namespace Address

/-- Reads an address.  The server has to be one that can be looked for. -/
def read (s : String) : Except Misfit Address :=
  let cs := (s.toList.dropWhile (·.toNat ≤ 0x20)).filter fun c =>
    c ≠ '\t' && c ≠ '\n' && c ≠ '\r'
  let (scheme, cs) := readScheme cs
  let (server, cs) := readServer cs
  if Host.isReadable server then
    let (cs, _) := Text.splitFirst '#' cs
    let (path, query) := Text.splitFirst '?' cs
    .ok ⟨scheme, String.ofList server, String.ofList path, String.ofList (query.getD [])⟩
  else .error .content

/-- The name of the server in plain letters; empty if there is none. -/
def serverName (a : Address) : Except Misfit String :=
  (Host.serverName a.server.toList).map String.ofList

end Address

example : (Address.read " http://host:80/a?b#c").toOption =
    some ⟨"http", "host:80", "/a", "b"⟩ := by decide +kernel
example : (Address.read "//host/a").toOption = some ⟨"", "host", "/a", ""⟩ := by decide +kernel
example : (Address.read "/a:b").toOption = some ⟨"", "", "/a:b", ""⟩ := by decide +kernel
example : (Address.read "//[a/b").toOption = none := by decide +kernel

end Questionnaire.Api
