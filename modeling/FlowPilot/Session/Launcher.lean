import FlowPilot.Page.Operations

/-!
# Launching browsers

A launcher opens browsers, a browser opens contexts and a context opens pages. Everything that is
opened has a number, counted from zero for its sort. All pages show the same portal page.

## Main definitions

* `Launcher`: the portal page, and what was opened and closed so far.
* `Launcher.launch`, `Launcher.newContext`, `Launcher.newPage`, `Launcher.close`.
-/

namespace FlowPilot

/-- The portal page, and what was opened and closed so far. -/
structure Launcher where
  /-- the page that all pages show -/
  page : Page
  browsers : Nat := 0
  contexts : Nat := 0
  pages : Nat := 0
  /-- the browsers that were told to close, the last one first -/
  closeCalls : List Nat := []
  /-- how many browsers closed when they were told to -/
  closed : Nat := 0

namespace Launcher

def onPage {α : Type} : Act Page α → Act Launcher α :=
  Act.onPart Launcher.page fun l page => { l with page := page }

/-- Lets interference strike an operation on browsers. -/
def attemptTo (op : Operation) : Act Launcher Unit := onPage (Page.operation op (return ()))

/-- Launches a browser and returns its number. -/
def launch : Act Launcher Nat := do
  attemptTo .launch
  modifyGet fun l => (l.browsers, { l with browsers := l.browsers + 1 })

/-- Opens a context and returns its number. -/
def newContext : Act Launcher Nat := do
  attemptTo .newContext
  modifyGet fun l => (l.contexts, { l with contexts := l.contexts + 1 })

/-- Opens a page and returns its number. -/
def newPage : Act Launcher Nat := do
  attemptTo .newPage
  modifyGet fun l => (l.pages, { l with pages := l.pages + 1 })

def close (browser : Nat) : Act Launcher Unit := do
  -- Noted before interference strikes, which may keep the browser open.
  modify fun l => { l with closeCalls := browser :: l.closeCalls }
  attemptTo .close
  modify fun l => { l with closed := l.closed + 1 }

end Launcher

end FlowPilot
