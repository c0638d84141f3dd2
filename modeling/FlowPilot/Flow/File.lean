import FlowPilot.Fault
import FlowPilot.Host
import FlowPilot.Json.Parser

/-!
# Flow files

A flow file is a JSON object. Each member names a flow; its steps stand under `steps`.

## Main definitions

* `FlowFile`: the members of a flow file.
* `FlowFile.steps?`: the steps of a flow.
* `FlowFile.read`: a flow file from its bytes.
-/

namespace FlowPilot

structure FlowFile where
  members : Json.Members
  deriving Repr

/-- The steps that stand under a name in a JSON object. -/
def Json.stepsOf (j : Json) (name : String) : Option (List Json) := do
  let flow ← j.get? name
  let steps ← flow.get? "steps"
  steps.array?

namespace FlowFile

def providerFlow : String := "provider_open"

def invoiceFlow : String := "invoice_open"

def applySection : String := "apply"

def toJson (file : FlowFile) : Json := .object file.members

/-- A file from a JSON value, which must be an object. -/
def ofJson (j : Json) : Except Fault FlowFile :=
  match j.object? with
  | some members => .ok ⟨members⟩
  | none => .error (.config .notAnObject)

def section? (file : FlowFile) (name : String) : Option Json := file.members.lookup name

def steps? (file : FlowFile) (name : String) : Option (List Json) := file.toJson.stepsOf name

/-- The address of the login page, empty when the file names none. -/
def loginUrl (file : FlowFile) : String :=
  ((file.section? "target_url_login").bind Json.text?).getD ""

/-- A flow file from its bytes, unless they could not be read. -/
def parse (w : Wording) (content : Except FlowFileFault ByteArray) :
    Except FlowFileFault FlowFile := do
  let bytes ← content
  match String.fromUTF8? bytes with
  | none => .error .notUtf8
  | some text =>
    match Json.parse? text with
    | none => .error (.malformed (w.json text))
    | some (.object members) => .ok ⟨members⟩
    | some _ => .error .notAnObject

/-- The flow file at a path from its bytes. -/
def read (w : Wording) (path : String) (content : Except FlowFileFault ByteArray) :
    Except Fault FlowFile :=
  (parse w content).mapError (.configMissing path)

end FlowFile

end FlowPilot
