import FlowPilot.Json.Basic

/-!
# The host

Some of what the program says and does is decided by what it runs on. Libraries choose the words in
which they refuse a text, and these words are passed on as they are: they may be anything, also a
text over several lines.

## Main definitions

* `Wording`: what libraries say about what they refuse.
* `Wording.brief`: one short line for everything.
* `Host`: what the program runs on.
-/

namespace FlowPilot

/-- What libraries say about what they refuse. -/
structure Wording where
  /-- about a text that is no pattern -/
  pattern : (text : String) → String
  /-- about a value of a wrong form in a field of a template -/
  step : (field : String) → (given : Json) → String
  /-- about a section on categories with something of a wrong form -/
  category : (what : String) → (given : Json) → String
  /-- about a text that is no JSON -/
  json : (text : String) → String
  /-- about a value that is no plan -/
  plan : (value : Json) → String
  /-- about an address to which no traces can be sent -/
  endpoint : (address : String) → String
  /-- about a command line -/
  usage : (args : List String) → String

/-- One short line for everything. -/
def Wording.brief : Wording where
  pattern text := "invalid pattern " ++ text
  step field _ := "invalid type: " ++ field
  category what _ := "invalid type: " ++ what
  json _ := "malformed JSON"
  plan _ := "unexpected form"
  endpoint address := "invalid URI " ++ address
  usage _ := "error: invalid arguments"

/-- What the program runs on. -/
structure Host where
  wording : Wording
  /-- how many checks a poll makes at one instant before it counts as endless -/
  patience : Nat

/-- A host of few words and little patience. -/
def Host.brief : Host := ⟨.brief, 8⟩

end FlowPilot
