import FlowPilot.Text.Blank
import FlowPilot.Text.Case

/-!
# Texts in comparable form

## Main definitions

* `normal`: the words of a text in small letters, one blank between them. Two texts read alike by
  an operator have one normal form.
* `clip`: a text cut to a length, with dots where something is missing.
-/

namespace FlowPilot.Text

/-- The words of a text with one blank between them. -/
def singleSpaced (s : String) : String := String.ofList (joined [' '] (words s.toList))

/-- The words of a text in small letters, one blank between them. -/
def normal (s : String) : String := lower (singleSpaced s)

/-- The first `max` characters, followed by three dots if there are more. -/
def clip (s : String) (max : Nat) : String :=
  let cs := s.toList
  if cs.length ≤ max then s else String.ofList (cs.take max ++ ['.', '.', '.'])

end FlowPilot.Text
