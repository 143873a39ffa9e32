/-
Reading documents.

A document is read from a JSON object, from text that writes one, or from the bytes
of such text.  The list of items stands under `items` or, in older documents, under
`questionnaire`.  Only the frame is strict: the list, an integer version, and lists
wherever children stand.  Any other field of an item is taken for the text or the
truth value that it counts for, and an entry of no known type is kept whole.
-/
import Questionnaire.Document.Basic
import Questionnaire.Document.Comment
import Questionnaire.Json.Display
import Questionnaire.Json.Reader

namespace Questionnaire

namespace Item

/-- The options of a radio question.  An object gives value and text, any other value
but null gives both at once. -/
def readChoices : Json → List Choice
  | .arr entries => entries.filterMap fun entry =>
    match entry with
    | .null => none
    | .obj _ =>
      let value := (entry.getD "value").text
      some ⟨value, ((entry.get? "text").map Json.text).getD value⟩
    | v => some ⟨v.text, v.text⟩
  | _ => []

/-- The options of a group: every member of every object in the list. -/
def readGroupChoices : Json → List GroupChoice
  | .arr entries => entries.flatMap fun entry =>
    entry.members.map fun m => ⟨m.1, m.2.text⟩
  | _ => []

/-- What an object says about a question. -/
def readQuestion (source : Json) : Question :=
  { id := (source.getD "id").text
    text := (source.getD "text").text
    required := (source.getD "required").truthy
    cond := source.getD "cond" }

/-- What an object says about a hint. -/
def readTip (source : Json) : Tip :=
  { id := (source.getD "id").text
    text := (source.getD "text").text
    severity := (source.getD "severity").text?
    why := (source.getD "why").text?
    name := (source.getD "name").text?
    warn := (source.getD "warn").truthy
    cond := source.getD "cond" }

/-- What an object says about a group. -/
def readGroup (source : Json) : GroupChoices :=
  ⟨readGroupChoices (source.getD "choices"), (source.getD "defaultChoice").text?⟩

/-- An item that holds no others. -/
def readLeaf (source : Json) : Item :=
  match source.getD "type" with
  | .str "info" => .info (source.getD "text").text (source.getD "cond")
  | .str "tip" => .tip (readTip source)
  | .str "spacer" => .spacer
  | .str "line" => .line (readQuestion source) (source.getD "placeholder").text?
  | .str "box" => .box (readQuestion source) (source.getD "placeholder").text?
  | .str "check" => .check (readQuestion source)
  | .str "radio" => .radio (readQuestion source) (readChoices (source.getD "choices"))
  | .str "radiogroup" => .radioGroup (readQuestion source) (readGroup source)
  | .str "checkgroup" => .checkGroup (readQuestion source) (readGroup source)
  | type => .unknown type.text source

mutual

/-- The item that a value describes; none where the children of a container are no
list. -/
def read : Json → Option Item
  | .obj ms =>
    match ms.lookup "type" with
    | some (.str "block") => do
      let items ← readSlot "items" ms
      return .block (Json.getD (.obj ms) "text").text (Json.getD (.obj ms) "cond") items
    | some (.str "yesno") => do
      let yes ← readSlot "yes" ms
      let no ← readSlot "no" ms
      return .yesNo (readQuestion (.obj ms)) yes no
    | _ => some (readLeaf (.obj ms))
  | v => some (.unknown "" v)

/-- The items under a name of an object: none where it is missing or null. -/
def readSlot (name : String) : List (String × Json) → Option (List Item)
  | [] => some []
  | (n, v) :: ms => if name = n then readChildren v else readSlot name ms

/-- The items of a list of children. -/
def readChildren : Json → Option (List Item)
  | .null => some []
  | .arr entries => readAll entries
  | _ => none

/-- The items of a list. -/
def readAll : List Json → Option (List Item)
  | [] => some []
  | v :: vs => do
    let item ← read v
    let items ← readAll vs
    return item :: items

end

end Item

namespace Document

/-- What keeps a value, a text or bytes from being a document. -/
inductive Fault
  | encoding
  | kind (name : String)
  | text (e : Json.SyntaxError)
  | root
  | noItems
  | items (name : String)
  | version
  | children
  /-- Content to be stored that is neither a text nor made up of items. -/
  | content
  deriving DecidableEq, Repr

/-- The words for a fault. -/
def Fault.message : Fault → String
  | .encoding => "Invalid UTF-8"
  | .kind name => s!"Unsupported document type: {name}"
  | .text e => s!"Invalid JSON: {e.fault.message} (line {e.line})"
  | .root => "Document root must be a JSON object"
  | .noItems => "Document must contain an 'items' or 'questionnaire' array"
  | .items name => s!"'{name}' must be a JSON array"
  | .version => "'version' must be an integer"
  | .children => "Item children must be a JSON array"
  | .content => "content must be a JSON string or object"

/-- The name under which an object lists its items. -/
def itemsName? (source : Json) : Option String :=
  ["items", "questionnaire"].find? fun name => source.members.has name

/-- The version of a document; one where none is given. -/
def readVersion (source : Json) : Except Fault Int :=
  match source.get? "version" with
  | none => .ok 1
  | some (.int n) => .ok n
  | some _ => .error .version

/-- The document that an object describes. -/
def ofObject (source : Json) : Except Fault Document :=
  match itemsName? source with
  | none => .error .noItems
  | some name =>
    match source.getD name with
    | .arr entries => do
      let version ← readVersion source
      match Item.readAll entries with
      | some items => .ok ⟨version, items⟩
      | none => .error .children
    | _ => .error (.items name)

/-- The document that a text writes. -/
def ofText (text : String) : Except Fault Document :=
  match Json.parse (String.ofList (Comment.strip text.toList)) with
  | .error e => .error (.text e)
  | .ok source => if source.isObject then ofObject source else .error .root

/-- The document that bytes write. -/
def ofBytes (bytes : ByteArray) : Except Fault Document :=
  match String.fromUTF8? bytes with
  | some text => ofText text
  | none => .error .encoding

/-- The document that a value gives: an object describes it, a text writes it. -/
def ofJson : Json → Except Fault Document
  | .obj ms => ofObject (.obj ms)
  | .str text => ofText text
  | .null => .error (.kind "NoneType")
  | .bool _ => .error (.kind "bool")
  | .int _ => .error (.kind "int")
  | .float _ => .error (.kind "float")
  | .arr _ => .error (.kind "list")

/-- The document with the given items and version. -/
def ofItems (items version : Json) : Except Fault Document :=
  ofObject (.obj [("version", version), ("items", items)])

end Document

end Questionnaire
