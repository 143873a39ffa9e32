/-
Names with other letters, written in plain ones.

The plain letters of a name come first, then a hyphen, then one number for each of the other
letters.  The numbers tell, in the order of the letters, how many steps of a count pass between
two of them: the count runs through all places of the name for a letter, then for the next
letter, and so on.  Numbers are written with the least digit first, in digits whose weights
change with how large the numbers before were.
-/

namespace Questionnaire.Host.Punycode

/-- The digit of a value: the letters first, then the numerals. -/
def digit (n : Nat) : Char :=
  if n < 26 then Char.ofNat ('a'.toNat + n) else Char.ofNat ('0'.toNat + (n - 26))

/-- The value from which on a digit at a place is followed by another one. -/
def threshold (place bias : Nat) : Nat :=
  if place ≤ bias then 1 else if bias + 26 ≤ place then 26 else place - bias

theorem threshold_pos (place bias : Nat) : 0 < threshold place bias := by
  unfold threshold
  split
  · decide
  · split <;> omega

/-- The digits of a number, from a place on. -/
def digits (bias place n : Nat) : List Char :=
  let t := threshold place bias
  if n < t then [digit n]
  else digit (t + (n - t) % (36 - t)) :: digits bias (place + 36) ((n - t) / (36 - t))
termination_by n
decreasing_by
  have := threshold_pos place bias
  exact Nat.lt_of_le_of_lt (Nat.div_le_self _ _) (by omega)

/-- How often a number is divided until it is small, in places, and what is left. -/
def shrink (n places : Nat) : Nat × Nat :=
  if 455 < n then shrink (n / 35) (places + 36) else (n, places)
termination_by n
decreasing_by exact Nat.div_lt_self (by omega) (by omega)

/-- The bias after a number, when so many letters are written. -/
def adapt (n written : Nat) (isFirst : Bool) : Nat :=
  let n := if isFirst then n / 700 else n / 2
  let (n, places) := shrink (n + n / written) 0
  places + 36 * n / (n + 38)

/-- How far the writing has come. -/
structure Progress where
  text : List Char := []
  /-- The steps since the last letter. -/
  steps : Nat := 0
  bias : Nat := 72
  /-- How many letters are written. -/
  written : Nat

/-- Goes past a letter of the name, looking for the letter `n`; `plain` is how many plain letters
the name has. -/
def pass (plain n : Nat) (p : Progress) (c : Char) : Progress :=
  if c.toNat < n then { p with steps := p.steps + 1 }
  else if c.toNat = n then
    { text := p.text ++ digits p.bias 36 p.steps
      steps := 0
      bias := adapt p.steps (p.written + 1) (p.written = plain)
      written := p.written + 1 }
  else p

/-- Writes letters, given in order, after those below `next`. -/
def write (name : List Char) (plain next : Nat) (p : Progress) : List Nat → Progress
  | [] => p
  | n :: rest =>
    let p := { p with steps := p.steps + (n - next) * (p.written + 1) }
    let p := name.foldl (pass plain n) p
    write name plain (n + 1) { p with steps := p.steps + 1 } rest

/-- A name written in plain letters. -/
def encode (name : List Char) : List Char :=
  let plain := name.filter (·.toNat < 0x80)
  let others := ((name.filter (0x80 ≤ ·.toNat)).map Char.toNat).eraseDups.mergeSort (· ≤ ·)
  (if plain.isEmpty then [] else plain ++ ['-']) ++
    (write name plain.length 0x80 { written := plain.length } others).text

example : encode "bücher".toList = "bcher-kva".toList := by cbv
example : encode "例え".toList = "r8jz45g".toList := by cbv

end Questionnaire.Host.Punycode
