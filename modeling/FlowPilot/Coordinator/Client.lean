import FlowPilot.Coordinator.Basic
import FlowPilot.Host
import FlowPilot.Json.Parser
import FlowPilot.Text.Percent
import FlowPilot.Text.Search

/-!
# Talking to the coordinator

Three requests are known: who a token belongs to, the plan of an import, and an event. Answers
that declare to be JSON are read as JSON, all others as text, and so is JSON that is malformed.

## Main definitions

* `Request`, `Response`, `Transport`: what is sent and what comes back.
* `Client.of`: a client for an address and a token.
* `Client.checkToken`, `Client.fetchRawPlan`, `Client.fetchPlan`, `Client.post`.
-/

namespace FlowPilot

/-- What is sent. -/
structure Request where
  method : String
  url : String
  token : String
  body : Option Json
  deriving Repr

/-- What comes back. -/
structure Response where
  status : Nat
  contentType : Option String
  body : String
  deriving DecidableEq, Repr

/-- Carries requests. Where nothing comes back, it says why. -/
abbrev Transport := Request → Except String Response

def Response.isSuccess (r : Response) : Bool := decide (200 ≤ r.status ∧ r.status < 300)

/-- The body as a value. -/
def Response.data (r : Response) : Json :=
  if r.contentType.any (Text.contains · "application/json") then
    (Json.parse? r.body).getD (.text r.body)
  else .text r.body

/-- The data of a success, or the failure with its body. -/
def Response.result (r : Response) : Except Fault Json :=
  if r.isSuccess then .ok r.data
  else
    .error (.http r.status (match r.data with
      | .text s => s
      | j => j.compact))

/-- A client of the coordinator. -/
structure Client where
  base : String
  token : String
  deriving DecidableEq, Repr

namespace Client

/-- An address below a base; slashes at the end of the base do not count. -/
def urlBelow (base suffix : String) : String :=
  String.ofList (Text.dropEndWhile (· == '/') base.toList) ++ suffix

/-- A client for an address and a token, neither of which may be blank. -/
def of (base token : String) : Except Fault Client :=
  if Text.isBlankText base then .error (.missingField "base_url")
  else if Text.isBlankText token then .error (.missingField "token")
  else .ok ⟨base, token⟩

def exchange (c : Client) (transport : Transport) (method suffix : String) (body : Option Json) :
    Except Fault Json :=
  match transport ⟨method, urlBelow c.base suffix, c.token, body⟩ with
  | .ok response => response.result
  | .error detail => .error (.transport detail)

def checkToken (c : Client) (transport : Transport) : Except Fault Json :=
  c.exchange transport "GET" "/api/agent/me" none

def planPath (importId : String) : String :=
  "/api/agent/importaciones/" ++ Text.percentEncode (Text.trim importId) ++ "/plan.json"

/-- The plan of an import as it comes. -/
def fetchRawPlan (c : Client) (transport : Transport) (importId : String) : Except Fault Json :=
  if Text.isBlankText importId then .error (.missingField "importacion_id")
  else c.exchange transport "GET" (planPath importId) none

def fetchPlan (c : Client) (w : Wording) (transport : Transport) (importId : String) :
    Except Fault Plan := do
  let raw ← c.fetchRawPlan transport importId
  match Plan.ofJson? raw with
  | some plan => .ok plan
  | none => .error (.invalidPlan (w.plan raw))

def post (c : Client) (transport : Transport) (stamp : Nat → String) (e : ProgressEvent) :
    Except Fault Json :=
  c.exchange transport "POST" "/api/agent/events" (some (e.toJson stamp))

/-- The coordinator that a client talks to. -/
def coordinator (c : Client) (w : Wording) (transport : Transport) (stamp : Nat → String) :
    Coordinator where
  plan _ importId := c.fetchPlan w transport importId
  reply _ e := c.post transport stamp e

end Client

end FlowPilot
