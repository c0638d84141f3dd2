import FlowPilot.Page.Element

/-!
# The element tree

The nodes of a page are kept in document order, each with the numbers of its ancestors. A node's
descendants follow it directly, so a subtree is a stretch of the list.

## Main definitions

* `Dom.Node`: an element with its number and its ancestors, nearest first.
* `Dom.add`: a new last child of a node.
* `Dom.isVisible`: whether a node and everything around it is shown.
* `Dom.textOf`: the text of a subtree.
-/

namespace FlowPilot

/-- An element in its place. -/
structure Dom.Node where
  id : Nat
  /-- the numbers of the ancestors, nearest first -/
  lineage : List Nat
  element : Element
  deriving DecidableEq, Repr

/-- The nodes of a page in document order. -/
structure Dom where
  nodes : List Dom.Node
  deriving DecidableEq, Repr

namespace Dom

def root : Nat := 0

/-- A page with nothing but a root. -/
def empty : Dom := ⟨[⟨root, [], { tag := "html" }⟩]⟩

def node? (d : Dom) (id : Nat) : Option Node := d.nodes.find? (·.id == id)

def element? (d : Dom) (id : Nat) : Option Element := (d.node? id).map (·.element)

/-- Puts a node behind the subtree of its parent. -/
def insertUnder (parent : Nat) (id : Nat) (element : Element) : List Node → List Node
  | [] => []
  | n :: rest =>
    if n.id = parent then
      -- The subtree of the parent is the stretch behind it.
      n :: rest.takeWhile (·.lineage.contains parent)
        ++ ⟨id, parent :: n.lineage, element⟩ :: rest.dropWhile (·.lineage.contains parent)
    else n :: insertUnder parent id element rest

/-- Adds a last child to a node. The new node gets the next free number. -/
def add (d : Dom) (parent : Nat) (element : Element) : Dom :=
  ⟨insertUnder parent d.nodes.length element d.nodes⟩

def modify (d : Dom) (id : Nat) (change : Element → Element) : Dom :=
  ⟨d.nodes.map fun n => if n.id = id then { n with element := change n.element } else n⟩

/-- Adds a table with a body, one row per list of cell texts. -/
def addTable (d : Dom) (id : String) (rows : List (List String)) : Dom :=
  let table := d.nodes.length
  let body := table + 1
  let d := (d.add root { tag := "table", id := some id }).add table { tag := "tbody" }
  rows.foldl (fun d cells =>
    let row := d.nodes.length
    cells.foldl (fun d cell => d.add row { tag := "td", text := cell })
      (d.add body { tag := "tr" })) d

/-- The children of a node in order. -/
def children (d : Dom) (id : Nat) : List Nat :=
  (d.nodes.filter (·.lineage.head? == some id)).map (·.id)

/-- Whether a node and all its ancestors are shown. -/
def isShownAt (d : Dom) (n : Node) : Bool :=
  n.element.isShown && n.lineage.all fun a => (d.element? a).all Element.isShown

/-- Whether the node with a number is visible. -/
def isVisible (d : Dom) (id : Nat) : Bool := (d.node? id).any d.isShownAt

/-- The nodes of a subtree in document order. -/
def subtree (d : Dom) (id : Nat) : List Node :=
  d.nodes.filter fun n => n.id == id || n.lineage.contains id

/-- The texts of some nodes, one blank between those that are not empty. -/
def textOfNodes (nodes : List Node) : String :=
  " ".intercalate ((nodes.map (·.element.text)).filter (· ≠ ""))

def textOf (d : Dom) (id : Nat) : String := textOfNodes (d.subtree id)

/-- The text of the visible part of a subtree. -/
def visibleTextOf (d : Dom) (id : Nat) : String := textOfNodes ((d.subtree id).filter d.isShownAt)

end Dom

end FlowPilot
