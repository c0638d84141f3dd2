import FlowPilot.Clock
import FlowPilot.Page.Interference
import FlowPilot.Page.Resolve

/-!
# Pages

A page is an element tree, an address, a record of what was done to it, and a time at which things
happen on their own.

## Main definitions

* `Page`: the state of a page.
* `Page.Event`: what the record holds.
* `Page.accept`: what an accepted click does.
* `Page.pass`: the page after some time.
-/

namespace FlowPilot

/-- What the record of a page holds. -/
inductive Page.Event
  | goto (url : String)
  | scroll (target : Locator)
  | clicked (kind : ClickKind) (node : Nat) (target : Locator)
  | refused (kind : ClickKind) (target : Locator)
  | filled (target : Locator) (text : String)
  | selected (target : Locator) (option : SelectOption)
  | pressed (target : Locator) (key : String)
  | screenshot
  deriving DecidableEq, Repr

def Page.Event.toText : Page.Event → String
  | goto url => "goto " ++ url
  | scroll target => "scroll " ++ target.toText
  | clicked kind _ target => kind.verb ++ " " ++ target.toText
  | refused kind target => kind.verb ++ "-failed " ++ target.toText
  | filled target text => "fill " ++ target.toText ++ " = " ++ text
  | selected target option => "select " ++ target.toText ++ " " ++ option.toText
  | pressed target key => "press " ++ target.toText ++ " " ++ key
  | screenshot => "screenshot"

/-- A click that the page makes on its own. -/
structure Page.Appointment where
  time : Nat
  target : Locator
  deriving DecidableEq, Repr

structure Page where
  dom : Dom
  url : String
  /-- what was done, oldest first -/
  events : List Page.Event
  /-- the time in milliseconds -/
  clock : Nat
  /-- what will happen on its own, earliest first -/
  schedule : List Page.Appointment
  /-- whether no picture can be taken -/
  blind : Bool
  picture : List UInt8
  interference : Interference
  /-- whether a wait has begun that never ends -/
  stuck : Bool

namespace Page

def log (p : Page) (e : Event) : Page := { p with events := p.events ++ [e] }

/-- What an effect of a click changes. -/
def applyEffect (p : Page) : Element.Effect → Page
  | .navigate url => { p with url := url }
  | .uncover id => { p with dom := p.dom.modify id fun e => { e with hidden := false } }
  | .cover id => { p with dom := p.dom.modify id fun e => { e with hidden := true } }
  | .setWidth id width => { p with dom := p.dom.modify id fun e => { e with width := width } }
  | .setText id text => { p with dom := p.dom.modify id fun e => { e with text := text } }

/-- The page after a node accepted a click. -/
def accept (p : Page) (kind : ClickKind) (node : Nat) (target : Locator) : Page :=
  let effects := ((p.dom.element? node).map (·.onClick)).getD []
  effects.foldl applyEffect (p.log (.clicked kind node target))

/-- The page after a click of a kind on the first node that a locator names, if there is one. A
node refuses the kinds of clicks that it lists. -/
def clicked (p : Page) (kind : ClickKind) (target : Locator) (node : Nat) : Bool × Page :=
  if ((p.dom.element? node).map (·.refused.contains kind)).getD false then
    (false, p.log (.refused kind target))
  else (true, p.accept kind node target)

def keep (p : Page) (a : Appointment) : Page :=
  match p.dom.first? a.target with
  | some node => (p.clicked .dispatched a.target node).2
  | none => p

/-- The page after some milliseconds: what is due by then has happened, in order. -/
def pass (ms : Nat) (p : Page) : Page :=
  let time := p.clock + ms
  let due := p.schedule.filter fun a => decide (a.time ≤ time)
  let later := p.schedule.filter fun a => !decide (a.time ≤ time)
  -- An appointment that misses its element is dropped, not tried again.
  { due.foldl keep { p with schedule := later } with clock := time }

instance : Clock Page := ⟨Page.clock, pass⟩

def opened (url : String) : Page where
  dom := .empty
  url := url
  events := []
  clock := 0
  schedule := []
  blind := false
  picture := []
  interference := .none
  stuck := false

end Page

end FlowPilot
