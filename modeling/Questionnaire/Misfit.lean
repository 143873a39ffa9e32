/-
Values that do not fit.

An operation that meets a value it cannot use says how the value fails it.  There
are no words to go with these: they are the failures of a caller, not of a
respondent or an author.
-/

namespace Questionnaire

/-- How a value fails to be what an operation needs. -/
inductive Misfit
  /-- A value of another kind than the operation takes. -/
  | kind
  /-- A value that lacks the parts the operation asks of it. -/
  | part
  /-- A value of the right kind whose content is not usable. -/
  | content
  /-- A record without a member that has to be there. -/
  | member
  /-- A position outside a list. -/
  | position
  /-- A number beyond the range that can be held. -/
  | range
  /-- A name whose letters cannot be brought into the form they need. -/
  | letters
  /-- A moment so far off that the system has no date for it. -/
  | calendar
  deriving DecidableEq, Repr

end Questionnaire
