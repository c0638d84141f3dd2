import FlowPilot.Fault
import FlowPilot.Text.Normal
import FlowPilot.Text.Search

/-!
# How a cell is compared

## Main definitions

* `MatchMode`: a cell holds the wanted text, or is the wanted text.
* `MatchMode.ofField`: the mode that a step asks for.
* `MatchMode.holds`: the comparison.
-/

namespace FlowPilot

/-- How the text of a cell is compared with the wanted one. -/
inductive MatchMode
  | includes
  | exact
  deriving DecidableEq, Repr

namespace MatchMode

def name : MatchMode → String
  | includes => "includes"
  | exact => "exact"

/-- The mode that a step asks for; case and blanks around it do not count. -/
def ofField (raw : Option String) : Except Fault MatchMode :=
  match Text.lower (Text.trim (raw.getD "")) with
  | "" | "includes" => .ok includes
  | "exact" => .ok exact
  | other => .error (.config (.matchMode other))

/-- Whether a text is found under a mode. -/
def holds (mode : MatchMode) (candidate target : String) : Bool :=
  match mode with
  | includes => Text.contains candidate target
  | exact => candidate == target

end MatchMode

end FlowPilot
