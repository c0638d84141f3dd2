import FlowPilot.Page.Resolve
import FlowPilot.Proofs.Page.Forest

/-!
# Pages as arenas

Another way to keep a page: the elements in the order in which they came, each with the number of
its parent and the numbers of its children. All that is asked of a page is then found by walks along
these numbers, which end only if the numbers make no circle.

## Main definitions

* `Dom.Arena`: the elements of a page, with their parents and children.
* `Dom.Arena.descend?`, `Dom.Arena.shownFrom?`, `Dom.Arena.climb?`, `Dom.Arena.text?`: the walks,
  with a bound on their steps; a walk that does not end within it has no result.
* `Dom.Arena.resolve?`: the nodes that a locator names.
* `Dom.Arena.Records`: an arena that holds the nodes of a forest.

## Main statements

* `Dom.Arena.records_built`: arenas that are built hold the tree of their additions.
-/

namespace FlowPilot.Dom

open Selector

/-- An element with the numbers of its parent and its children. -/
structure Arena.Entry where
  element : Element
  /-- the number of the parent, if there is one -/
  parent : Option Nat
  children : List Nat
  deriving DecidableEq

/-- The elements of a page in the order in which they came. The number of an element is its
place. -/
structure Arena where
  entries : List Arena.Entry
  deriving DecidableEq

namespace Arena

def size (a : Arena) : Nat := a.entries.length

def empty : Arena := ⟨[⟨{ tag := "html" }, none, []⟩]⟩

/-- Adds a last child to an element. -/
def add (a : Arena) (parent : Nat) (element : Element) : Arena :=
  let entries : List Entry := a.entries ++ [⟨element, some parent, []⟩]
  ⟨entries.modify parent fun n => { n with children := n.children ++ [a.size] }⟩

/-- A page that is built by additions, beginning with nothing but a root. -/
def built (additions : List Addition) : Arena :=
  additions.foldl (fun a x => a.add x.parent x.element) empty

/-! ### Walks -/

/-- Behind what was found, what lies below an element: each child is followed by what lies below
it. -/
def descend? (a : Arena) : (depth : Nat) → (found : List Nat) → Nat → Option (List Nat)
  | 0, _, _ => none
  | depth + 1, found, x => do
    let n ← a.entries[x]?
    n.children.foldlM (fun found child => a.descend? depth (found ++ [child]) child) found

/-- What lies below an element. -/
def descendants? (a : Arena) (x : Nat) : Option (List Nat) := a.descend? a.size [] x

/-- Whether an element and all above it are shown, walking up. -/
def shownFrom? (a : Arena) : (steps : Nat) → Option Nat → Option Bool
  | _, none => some true
  | 0, some _ => none
  | steps + 1, some x => do
    let n ← a.entries[x]?
    if n.element.isShown then a.shownFrom? steps n.parent else some false

def isVisible? (a : Arena) (x : Nat) : Option Bool := a.shownFrom? a.size (some x)

def isRead? (a : Arena) (onlyVisible : Bool) (x : Nat) : Option Bool :=
  if onlyVisible then a.isVisible? x else some true

/-- The text of an element and of all below it, or of what is visible of them. -/
def textFrom? (a : Arena) (onlyVisible : Bool) : (depth : Nat) → Nat → Option String
  | 0, _ => none
  | depth + 1, x => do
    let n ← a.entries[x]?
    if ← a.isRead? onlyVisible x then
      let texts ← n.children.mapM (a.textFrom? onlyVisible depth)
      return " ".intercalate ((n.element.text :: texts).filter (· ≠ ""))
    else return ""

/-- The text of an element, or what is visible of it. -/
def text? (a : Arena) (onlyVisible : Bool) (x : Nat) : Option String :=
  a.textFrom? onlyVisible a.size x

/-- Whether elements for the compounds are found one above the other, walking up: each compound
takes the first element that meets it, and none takes the root. -/
def climb? (a : Arena) : (steps : Nat) → List (Option Compound) → Option Nat → Option Bool
  | _, [], _ => some true
  | _, _ :: _, none => some false
  | 0, _ :: _, some _ => none
  | steps + 1, c :: cs, some x => do
    let n ← a.entries[x]?
    a.climb? steps (if x ≠ root ∧ compoundHolds c n.element then cs else c :: cs) n.parent

def matchesAlternative? (a : Arena) (x : Nat) (s : Alternative) : Option Bool := do
  let n ← a.entries[x]?
  if n.element.labels.contains s.text then return true
  match s.compounds with
  | [] => return false
  | own :: above =>
    if compoundHolds own n.element then a.climb? a.size above n.parent else return false

def matches? (a : Arena) (s : Selector) (x : Nat) : Option Bool := do
  let n ← a.entries[x]?
  if n.element.labels.contains s.text then return true
  s.alternatives.anyM (a.matchesAlternative? x)

/-- Adds an element to what was found if a selector matches it, unless it was found before. -/
def note? (a : Arena) (s : Selector) (found : List Nat) (x : Nat) : Option (List Nat) := do
  let hit ← a.matches? s x
  return if hit && !found.contains x then found ++ [x] else found

/-- Adds what a selector matches below an element to what was found. -/
def gather? (a : Arena) (s : Selector) (found : List Nat) (scope : Nat) : Option (List Nat) := do
  let all ← a.descendants? scope
  all.foldlM (a.note? s) found

/-- What a selector finds below some elements, one after the other. -/
def below? (a : Arena) (scopes : List Nat) (selector : String) : Option (List Nat) :=
  scopes.foldlM (a.gather? (Selector.ofText selector)) []

/-- The elements that one part of a locator names, inside those that the parts before it name. -/
def resolvePart? (a : Arena) (scopes : List Nat) (part : Locator.Part) : Option (List Nat) :=
  let found? := if part.selector = Locator.scope then some scopes else a.below? scopes part.selector
  match part.index with
  | some i => found?.map fun found => found[i]?.toList
  | none => found?

def resolve? (a : Arena) (l : Locator) : Option (List Nat) :=
  l.parts.foldlM a.resolvePart? [root]

/-! ### What an arena holds -/

variable {a : Arena} {f c : Forest} {lineage line : List Nat} {n : Node} {parent : Option Nat}
  {p x depth steps : Nat} {element : Element}

/-- The entries of a forest below a parent. -/
def Records (a : Arena) (parent : Option Nat) : Forest → Prop
  | .nil => True
  | .cons id element below beside =>
    a.entries[id]? = some ⟨element, parent, below.tops⟩ ∧ a.Records (some id) below ∧
      a.Records parent beside

theorem size_add (a : Arena) (p : Nat) (element : Element) :
    (a.add p element).size = a.size + 1 := by
  simp [size, add]

/-- An addition writes one new entry and one new child. -/
theorem entries_add (hp : p < a.size) (x : Nat) :
    (a.add p element).entries[x]? =
      if x = a.size then some ⟨element, some p, []⟩
      else (a.entries[x]?).map fun n =>
        if x = p then { n with children := n.children ++ [a.size] } else n := by
  unfold add size at *
  rw [List.getElem?_modify]
  rcases Nat.lt_trichotomy x a.entries.length with hx | rfl | hx
  · rw [if_neg (Nat.ne_of_lt hx), List.getElem?_append_left hx]
    simp [eq_comm, Option.map_eq_map]
  · simp [Nat.ne_of_lt hp]
  · rw [if_neg (Nat.ne_of_gt hx), List.getElem?_eq_none (by simp; omega),
      List.getElem?_eq_none (Nat.le_of_lt hx)]
    rfl

/-- What does not change is recorded as before. -/
theorem Records.add_of_not_mem (h : a.Records parent f) (hids : ∀ x ∈ f.ids, x < a.size)
    (hp : p < a.size) (hout : p ∉ f.ids) : (a.add p element).Records parent f := by
  induction f generalizing parent with
  | nil => trivial
  | cons i e below beside ihBelow ihBeside =>
    obtain ⟨hentry, hbelow, hbeside⟩ := h
    simp only [Forest.ids, List.mem_cons, List.mem_append, not_or] at hids hout
    refine ⟨?_, ihBelow hbelow (fun x hx => hids x (.inr (.inl hx))) hout.2.1,
      ihBeside hbeside (fun x hx => hids x (.inr (.inr hx))) hout.2.2⟩
    rw [entries_add hp, if_neg (Nat.ne_of_lt (hids i (.inl rfl))), hentry, Option.map_some,
      if_neg (Ne.symm hout.1)]

theorem Records.snoc (h : a.Records parent f) (hx : a.entries[x]? = some ⟨element, parent, []⟩) :
    a.Records parent (f.snoc x element) := by
  induction f with
  | nil => exact ⟨hx, trivial, trivial⟩
  | cons i e below beside _ ih => exact ⟨h.1, h.2.1, ih h.2.2⟩

/-- An addition is recorded. -/
theorem Records.add (h : a.Records parent f) (hunique : f.ids.Nodup)
    (hids : ∀ x ∈ f.ids, x < a.size) (hp : p < a.size) :
    (a.add p element).Records parent (f.addUnder p a.size element) := by
  induction f generalizing parent with
  | nil => trivial
  | cons i e below beside ihBelow ihBeside =>
    obtain ⟨hentry, hbelow, hbeside⟩ := h
    simp only [Forest.ids, List.nodup_cons, List.nodup_append, List.mem_cons, List.mem_append,
      not_or] at hunique hids
    have hidsBelow : ∀ x ∈ below.ids, x < a.size := fun x hx => hids x (.inr (.inl hx))
    have hidsBeside : ∀ x ∈ beside.ids, x < a.size := fun x hx => hids x (.inr (.inr hx))
    have hi : (a.add p element).entries[i]? = _ := entries_add hp i
    rw [if_neg (Nat.ne_of_lt (hids i (.inl rfl))), hentry, Option.map_some] at hi
    rw [Forest.addUnder]
    -- Only the entry of the parent changes: it gets one more child.
    by_cases hip : i = p
    · subst hip
      rw [if_pos rfl] at hi ⊢
      refine ⟨by rw [hi, Forest.tops_snoc], ?_, hbeside.add_of_not_mem hidsBeside hp hunique.1.2⟩
      refine (hbelow.add_of_not_mem hidsBelow hp hunique.1.1).snoc ?_
      rw [entries_add hp, if_pos rfl]
    · rw [if_neg hip] at hi ⊢
      refine ⟨?_, ihBelow hbelow hunique.2.1 hidsBelow, ihBeside hbeside hunique.2.2.1 hidsBeside⟩
      rw [hi, Forest.tops_addUnder]

theorem built_append (additions : List Addition) (x : Addition) :
    built (additions ++ [x]) = (built additions).add x.parent x.element := by
  rw [built, built, List.foldl_concat]

/-- Arenas that are built hold the tree of their additions. -/
theorem records_built {additions : List Addition} (h : ParentsExist additions) :
    (built additions).Records none (shape additions) ∧
      (built additions).size = additions.length + 1 := by
  induction additions using List.reverseRecOn with
  | nil => exact ⟨⟨rfl, trivial, trivial⟩, rfl⟩
  | append_singleton additions x ih =>
    obtain ⟨hrecords, hsize⟩ := ih h.init
    obtain ⟨hshaped, hlength⟩ := isShapedBy_built h.init
    have hids : (shape additions).ids.length = (built additions).size := by
      rw [hshaped.length_ids, hlength, hsize]
    rw [built_append, shape_append, hids, size_add, hsize, List.length_append]
    refine ⟨hsize ▸ hrecords.add hshaped.fresh.unique (fun y hy => ?_) ?_, rfl⟩
    · rw [hsize, ← hlength]
      exact hshaped.mem_ids_iff.mp hy
    · rw [hsize]
      exact Nat.lt_succ_of_le h.last

/-! ### Nodes of an arena -/

/-- An element and those above it, each the child of the next one. -/
def IsLine (a : Arena) : List Nat → Prop
  | [] => True
  | x :: above => (∃ n, a.entries[x]? = some n ∧ n.parent = above.head?) ∧ a.IsLine above

theorem Records.of_holds (h : Forest.Holds lineage f n c) (hrecords : a.Records lineage.head? f) :
    a.entries[n.id]? = some ⟨n.element, n.lineage.head?, c.tops⟩ ∧ a.Records (some n.id) c := by
  induction h with
  | here => exact ⟨hrecords.1, hrecords.2.1⟩
  | inside _ ih => exact ih hrecords.2.1
  | aside _ ih => exact ih hrecords.2.2

theorem IsLine.of_holds (h : Forest.Holds lineage f n c) (hrecords : a.Records lineage.head? f)
    (hline : a.IsLine lineage) : a.IsLine (n.id :: n.lineage) := by
  induction h with
  | here => exact ⟨⟨_, hrecords.1, rfl⟩, hline⟩
  | inside _ ih => exact ih hrecords.2.1 ⟨⟨_, hrecords.1, rfl⟩, hline⟩
  | aside _ ih => exact ih hrecords.2.2 hline

/-! ### Walks that end -/

def element? (a : Arena) (x : Nat) : Option Element := (a.entries[x]?).map (·.element)

/-- The walk down ends, and finds what lies below some siblings in document order. -/
theorem Records.descend?_eq (h : a.Records parent f) (hdepth : f.ids.length ≤ depth)
    (found : List Nat) :
    f.tops.foldlM (fun found child => a.descend? depth (found ++ [child]) child) found =
      some (found ++ f.ids) := by
  induction f generalizing parent depth found with
  | nil => simp [Forest.tops, Forest.ids]
  | cons i e below beside ihBelow ihBeside =>
    obtain ⟨hentry, hbelow, hbeside⟩ := h
    simp only [Forest.ids, List.length_cons, List.length_append] at hdepth
    obtain ⟨depth, rfl⟩ := Nat.exists_eq_add_of_lt (show 0 < depth by omega)
    rw [Nat.zero_add] at hdepth ⊢
    have hroom : below.ids.length ≤ depth := by omega
    have hroomBeside : beside.ids.length ≤ depth + 1 := by omega
    have hdown := ihBelow hbelow hroom (found ++ [i])
    have hacross := ihBeside hbeside hroomBeside (found ++ [i] ++ below.ids)
    rw [Forest.tops, List.foldlM_cons, descend?, hentry]
    simp only [Option.bind_eq_bind, Option.bind_some, hdown, hacross]
    simp [Forest.ids]

/-- The walk up ends, and tells whether all elements of a line are shown. -/
theorem IsLine.shownFrom?_eq (h : a.IsLine line) (hsteps : line.length ≤ steps) :
    a.shownFrom? steps line.head? =
      some (line.all fun x => (a.element? x).all Element.isShown) := by
  induction line generalizing steps with
  | nil => cases steps <;> rfl
  | cons x above ih =>
    obtain ⟨⟨n, hentry, hparent⟩, habove⟩ := h
    obtain ⟨steps, rfl⟩ := Nat.exists_eq_add_of_lt (show 0 < steps from
      Nat.lt_of_lt_of_le (Nat.zero_lt_succ _) hsteps)
    rw [Nat.zero_add] at hsteps ⊢
    have hup := ih habove (Nat.le_of_succ_le_succ hsteps)
    rw [List.head?_cons, shownFrom?, hentry]
    by_cases hshown : n.element.isShown <;> simp [element?, hentry, hshown, hparent, hup]

/-- The walk up for ancestors ends, and finds what the search among the elements of a line but the
root finds. -/
theorem IsLine.climb?_eq (h : a.IsLine line) (hsteps : line.length ≤ steps)
    (cs : List (Option Compound)) :
    a.climb? steps cs line.head? =
      some (climbs cs ((line.filter (· ≠ root)).filterMap a.element?)) := by
  induction line generalizing steps cs with
  | nil => cases cs <;> cases steps <;> rfl
  | cons x above ih =>
    obtain ⟨⟨n, hentry, hparent⟩, habove⟩ := h
    obtain ⟨steps, rfl⟩ := Nat.exists_eq_add_of_lt (show 0 < steps from
      Nat.lt_of_lt_of_le (Nat.zero_lt_succ _) hsteps)
    rw [Nat.zero_add] at hsteps ⊢
    have hup := fun cs => ih habove (Nat.le_of_succ_le_succ hsteps) cs
    cases cs with
    | nil => rfl
    | cons c cs =>
      rw [List.head?_cons, climb?, hentry]
      simp only [Option.bind_eq_bind, Option.bind_some, hparent, hup]
      -- The root is passed over on both sides.
      by_cases hroot : x = root
      · simp [hroot]
      · by_cases hholds : compoundHolds c n.element <;>
          simp [hroot, hholds, element?, hentry, climbs]

/-! ### Texts -/

/-- Texts with one blank between those that are not empty. -/
def joinTexts (texts : List String) : String := " ".intercalate (texts.filter (· ≠ ""))

/-- Two texts with a blank between them, if neither is empty. -/
def glue (s t : String) : String := if s = "" then t else if t = "" then s else s ++ " " ++ t

theorem append_blank_ne (s t : String) : s ++ " " ++ t ≠ "" := by
  intro h
  have := congrArg String.length h
  simp [String.length_append] at this

theorem glue_assoc (s t u : String) : glue (glue s t) u = glue s (glue t u) := by
  unfold glue
  by_cases hs : s = "" <;> by_cases ht : t = "" <;> by_cases hu : u = "" <;>
    simp [hs, ht, hu, String.append_assoc]

theorem joinTexts_cons (s : String) (texts : List String) :
    joinTexts (s :: texts) = glue s (joinTexts texts) := by
  unfold joinTexts
  by_cases hs : s = ""
  · simp [hs, glue]
  · rw [List.filter_cons, if_pos (by simpa using hs), glue, if_neg hs]
    cases hrest : texts.filter (· ≠ "") with
    | nil => rfl
    | cons t rest =>
      have ht : t ≠ "" := by
        have := List.of_mem_filter (hrest ▸ List.mem_cons_self : t ∈ texts.filter (· ≠ ""))
        simpa using this
      have hne : " ".intercalate (t :: rest) ≠ "" := by
        cases rest with
        | nil => simpa using ht
        | cons u rest =>
          rw [String.intercalate_cons_cons]
          exact append_blank_ne _ _
      rw [String.intercalate_cons_cons, if_neg hne]

theorem joinTexts_append (texts more : List String) :
    joinTexts (texts ++ more) = glue (joinTexts texts) (joinTexts more) := by
  induction texts with
  | nil => simp [joinTexts, glue]
  | cons s texts ih => rw [List.cons_append, joinTexts_cons, ih, joinTexts_cons, glue_assoc]

theorem textOfNodes_append (nodes more : List Node) :
    textOfNodes (nodes ++ more) = glue (textOfNodes nodes) (textOfNodes more) := by
  show joinTexts ((nodes ++ more).map _) = _
  rw [List.map_append, joinTexts_append]
  rfl

theorem textOfNodes_cons (n : Node) (nodes : List Node) :
    textOfNodes (n :: nodes) = glue n.element.text (textOfNodes nodes) :=
  joinTexts_cons _ _

/-- What is read of a node and what lies below it stands before what is read of the others. -/
theorem textOfNodes_filter {keep : Node → Bool} {n : Node} {below beside : List Node}
    (hclosed : ∀ m ∈ below, keep m = true → keep n = true) :
    textOfNodes ((n :: (below ++ beside)).filter keep) =
      glue (if keep n then glue n.element.text (textOfNodes (below.filter keep)) else "")
        (textOfNodes (beside.filter keep)) := by
  rw [List.filter_cons, List.filter_append]
  by_cases hkeep : keep n
  · rw [if_pos hkeep, if_pos hkeep, textOfNodes_cons, textOfNodes_append, glue_assoc]
  · have hnone : below.filter keep = [] :=
      List.filter_eq_nil_iff.mpr fun m hm hkept => hkeep (hclosed m hm hkept)
    rw [if_neg hkeep, if_neg hkeep, hnone, List.nil_append, glue, if_pos rfl]

theorem textFrom?_of_entry {onlyVisible kept : Bool} {children : List Nat} {texts : List String}
    (hentry : a.entries[x]? = some ⟨element, parent, children⟩)
    (hread : a.isRead? onlyVisible x = some kept)
    (htexts : children.mapM (a.textFrom? onlyVisible depth) = some texts) :
    a.textFrom? onlyVisible (depth + 1) x =
      some (if kept then glue element.text (joinTexts texts) else "") := by
  rw [textFrom?, hentry, ← joinTexts_cons]
  simp only [Option.bind_eq_bind, Option.bind_some, hread]
  split <;> simp [htexts, joinTexts]

/-- The walk for a text ends, and joins the texts of the nodes that are to be read. What lies below
a node that is not to be read is not read either. -/
theorem Records.textFrom?_eq {onlyVisible : Bool} {keep : Node → Bool}
    (h : a.Records lineage.head? f) (hdepth : f.ids.length ≤ depth)
    (hread : ∀ n ∈ f.nodes lineage, a.isRead? onlyVisible n.id = some (keep n))
    (hclosed : ∀ n ∈ f.nodes lineage, ∀ m ∈ f.nodes lineage,
      n.id ∈ m.lineage → keep m = true → keep n = true) :
    ∃ texts, f.tops.mapM (a.textFrom? onlyVisible depth) = some texts ∧
      joinTexts texts = textOfNodes ((f.nodes lineage).filter keep) := by
  induction f generalizing lineage depth with
  | nil => exact ⟨[], by simp [Forest.tops], rfl⟩
  | cons i e below beside ihBelow ihBeside =>
    obtain ⟨hentry, hbelow, hbeside⟩ := h
    simp only [Forest.ids, List.length_cons, List.length_append] at hdepth
    obtain ⟨depth, rfl⟩ := Nat.exists_eq_add_of_lt (show 0 < depth by omega)
    rw [Nat.zero_add] at hdepth ⊢
    -- the walk goes one step deeper below the element, and none beside it
    have hroom : below.ids.length ≤ depth := by omega
    have hroomBeside : beside.ids.length ≤ depth + 1 := by omega
    have hrecords : a.Records (i :: lineage).head? below := hbelow
    simp only [Forest.nodes, List.forall_mem_cons, List.forall_mem_append] at hread hclosed
    obtain ⟨hreadOwn, hreadBelow, hreadBeside⟩ := hread
    obtain ⟨⟨-, hclosedOwn, -⟩, hclosedBelow, hclosedBeside⟩ := hclosed
    obtain ⟨inner, hinner, hinnerText⟩ := ihBelow hrecords hroom hreadBelow
      fun n hn => (hclosedBelow n hn).2.1
    obtain ⟨others, hothers, hothersText⟩ := ihBeside hbeside hroomBeside hreadBeside
      fun n hn => (hclosedBeside n hn).2.2
    have hown := textFrom?_of_entry hentry hreadOwn hinner
    refine ⟨(if keep ⟨i, lineage, e⟩ then glue e.text (joinTexts inner) else "") :: others, ?_, ?_⟩
    · rw [Forest.tops, List.mapM_cons, hown, hothers]
      rfl
    · rw [joinTexts_cons, hothersText, hinnerText, Forest.nodes]
      exact (textOfNodes_filter fun m hm =>
        hclosedOwn m hm (Forest.subset_lineage hm List.mem_cons_self)).symm

end Arena

end FlowPilot.Dom
