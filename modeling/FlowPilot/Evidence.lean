import FlowPilot.Digest.Sha256
import FlowPilot.Fault
import FlowPilot.Text.Blank
import FlowPilot.Text.Case

/-!
# Evidence

A screenshot is stored in a file that is named for the moment and for a label, and is described by
its digest and size.

## Main definitions

* `Evidence.label`: a label that is safe as part of a file name.
* `Evidence.stamp`: a moment as part of a file name.
* `Evidence.fileName`: the name of the file of a screenshot.
* `Evidence.describe`: the evidence that a stored screenshot is.
-/

namespace FlowPilot.Evidence

def maxLabelLength : Nat := 48

/-- The characters that labels keep. -/
def isLabelChar (c : Char) : Bool :=
  ('a' ≤ c && c ≤ 'z') || ('0' ≤ c && c ≤ '9') || c == '_' || c == '-'

/-- A safe label: small letters, digits, hyphens and underscores, which stand for all else. -/
def label (raw : String) : String :=
  let safe := (Text.lower (Text.trim raw)).toList.map fun c => if isLabelChar c then c else '_'
  -- Nothing left means that the label was blank: every other character leaves one.
  match safe.take maxLabelLength with
  | [] => "screenshot"
  | cs => String.ofList cs

/-- A moment without colons and dots. -/
def stamp (moment : String) : String :=
  String.ofList (moment.toList.map fun c => if c == ':' || c == '.' then '-' else c)

def fileName (moment raw : String) : String := stamp moment ++ "_" ++ label raw ++ ".png"

def describe (path : String) (picture : List UInt8) : Evidence :=
  ⟨path, Sha256.hex picture, picture.length⟩

end FlowPilot.Evidence
