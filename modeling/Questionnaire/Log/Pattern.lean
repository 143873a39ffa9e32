/-
Messages with places for values.

A percent sign begins a place; two of them write one.  Between the sign and the letter stand,
each of them optional, the name of a value in parentheses, marks, a width, a precision
behind a point, and a length that means nothing.  A star takes a width or a precision from
the values.  Every value has to be used, unless values go by name.
-/
import Questionnaire.Log.Directive
import Questionnaire.Entries

namespace Questionnaire.Log

/-- The values for the places of a message. -/
structure Values where
  /-- The values that go by name. -/
  named : Option (Entries Json) := none
  /-- The values that are still to be used, in order. -/
  queue : List Json := []

namespace Values

/-- The values in a list; one record alone gives them by name. -/
def ofList : List Json → Values
  | [.obj (m :: ms)] => { named := some (m :: ms), queue := [.obj (m :: ms)] }
  | vs => { queue := vs }

/-- The next value. -/
def next (vs : Values) : Except Misfit (Json × Values) :=
  match vs.queue with
  | v :: rest => .ok (v, { vs with queue := rest })
  | [] => .error .kind

/-- The values with the one that goes by a name as the next. -/
def choose (vs : Values) (name : String) : Except Misfit Values :=
  match vs.named with
  | none => .error .kind
  | some members =>
    match members.get? name with
    | some v => .ok { vs with queue := [v] }
    | none => .error .member

end Values

/-- A name in parentheses, which may hold further ones in pairs, and what follows it. -/
def readName : (depth : Nat) → List Char → Option (List Char × List Char)
  | _, [] => none
  | 0, ')' :: rest => some ([], rest)
  | depth + 1, ')' :: rest => (readName depth rest).map fun (name, rest) => (')' :: name, rest)
  | depth, '(' :: rest => (readName (depth + 1) rest).map fun (name, rest) => ('(' :: name, rest)
  | depth, c :: rest => (readName depth rest).map fun (name, rest) => (c :: name, rest)

/-- The marks of a directive, and what follows them. -/
def readMarks (d : Directive) : List Char → Directive × List Char
  | '-' :: rest => readMarks { d with left := true } rest
  | '+' :: rest => readMarks { d with plus := true } rest
  | ' ' :: rest => readMarks { d with blank := true } rest
  | '#' :: rest => readMarks { d with full := true } rest
  | '0' :: rest => readMarks { d with zero := true } rest
  | cs => (d, cs)

/-- A number in ASCII digits, and what follows it. -/
def readCount (cs : List Char) : Nat × List Char :=
  let isDigit (c : Char) : Bool := '0' ≤ c && c ≤ '9'
  ((cs.takeWhile isDigit).foldl (fun n c => 10 * n + (c.toNat - '0'.toNat)) 0, cs.dropWhile isDigit)

/-- A number that is written or, for a star, is the next value; and what follows it.  It has
to lie below a bound. -/
def readSize (bound : Int) (vs : Values) : List Char → Except Misfit (Int × List Char × Values)
  | '*' :: rest => do
    let (v, vs) ← vs.next
    let n ← exactOf v
    if n < -bound || bound ≤ n then .error .range else return (n, rest, vs)
  | cs =>
    let (n, rest) := readCount cs
    if bound ≤ n then .error .content else .ok (n, rest, vs)

/-- The width of a directive; a negative one puts the value to the left. -/
def readWidth (d : Directive) (vs : Values) (cs : List Char) :
    Except Misfit (Directive × List Char × Values) := do
  let (n, rest, vs) ← readSize (2 ^ 63) vs cs
  return (if n < 0 then { d with left := true, width := n.natAbs } else { d with width := n.toNat },
    rest, vs)

/-- The precision of a directive, if it has one. -/
def readPrecision (d : Directive) (vs : Values) :
    List Char → Except Misfit (Directive × List Char × Values)
  | '.' :: rest => do
    let (n, rest, vs) ← readSize (2 ^ 31) vs rest
    return ({ d with precision := some n.toNat }, rest, vs)
  | cs => .ok (d, cs, vs)

/-- What follows a length. -/
def skipLength : List Char → List Char
  | c :: rest => if c = 'h' || c = 'l' || c = 'L' then rest else c :: rest
  | [] => []

/-- The name of a value, if it has one. -/
def readKey (vs : Values) : List Char → Except Misfit (List Char × Values)
  | '(' :: rest =>
    if vs.named.isNone then .error .kind
    else
      match readName 0 rest with
      | none => .error .content
      | some (name, rest) => do return (rest, ← vs.choose (String.ofList name))
  | cs => .ok (cs, vs)

/-- The text of one directive, from behind the percent sign, and what follows it. -/
def fillDirective (vs : Values) (cs : List Char) :
    Except Misfit (List Char × List Char × Values) := do
  let (cs, vs) ← readKey vs cs
  let (d, cs) := readMarks {} cs
  let (d, cs, vs) ← readWidth d vs cs
  let (d, cs, vs) ← readPrecision d vs cs
  match skipLength cs with
  | [] => .error .content
  | letter :: rest => do
    let (v, vs) ← vs.next
    return (← d.write letter v, rest, vs)

/-- The text in one place, from behind the percent sign, and what follows it. -/
def fillPlace (vs : Values) : List Char → Except Misfit (List Char × List Char × Values)
  | '%' :: rest => .ok (['%'], rest, vs)
  | cs => fillDirective vs cs

/-- Fills the places of a message.  Every place takes a character at least, so that the
length of the message is steps enough. -/
def fillPlaces : (steps : Nat) → Values → List Char → Except Misfit (List Char)
  | 0, vs, _ | _, vs, [] => if vs.named.isNone && !vs.queue.isEmpty then .error .kind else .ok []
  | steps + 1, vs, '%' :: rest => do
    let (text, rest, vs) ← fillPlace vs rest
    return text ++ (← fillPlaces steps vs rest)
  | steps + 1, vs, c :: rest => do return c :: (← fillPlaces steps vs rest)

/-- A message with its values; without values it stands as it is. -/
def message (pattern : String) (values : List Json) : Except Misfit String :=
  if values.isEmpty then .ok pattern
  else String.ofList <$> fillPlaces pattern.length (Values.ofList values) pattern.toList

end Questionnaire.Log
