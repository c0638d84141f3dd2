import FlowPilot.Proofs.Page.Arena
import Mathlib.Logic.Relation

/-!
# What walks find

The same additions make a list of nodes in document order and an arena of numbers. The arena is a
tree, so that all walks along its numbers end, and what they find is what is read off the list.

## Main definitions

* `Dom.Arena.IsTree`: parents and children agree, and each element but the root has one parent,
  which came before it.
* `Dom.Arena.IsAbove`: an element is an ancestor of another one.
* `Dom.Arena.Keeps`: an arena and a list of nodes that hold the same tree.

## Main statements

* `Dom.filter_isBelow_append`: what one more scope adds to what is found.
* `Dom.Arena.Keeps.resolve?_eq`: locators name the same nodes in both.
* `Dom.nth_selects`: an index names one of the nodes that are named without it.
* `Dom.Arena.answers_of_built`: pages that are built are trees, all walks on them end, and locators
  name distinct nodes in document order, inside those that their parts name.
-/

namespace FlowPilot.Dom

open Selector

variable {a : Arena} {d : Dom} {f c : Forest} {n m : Node} {x y : Nat} {found done : List Nat}
  {selector : String} {additions : List Addition}

/-! ### Pages that are shaped by a forest -/

theorem IsShapedBy.nodup (h : d.IsShapedBy f) : (d.nodes.map (·.id)).Nodup := by
  rw [h.map_id]
  exact h.fresh.unique

theorem IsShapedBy.eq_of_id (h : d.IsShapedBy f) (hn : n ∈ d.nodes) (hm : m ∈ d.nodes)
    (hid : n.id = m.id) : n = m := List.inj_on_of_nodup_map h.nodup hn hm hid

theorem IsShapedBy.exists_holds (h : d.IsShapedBy f) (hn : n ∈ d.nodes) :
    ∃ c, Forest.Holds [] f n c := Forest.exists_holds (h.nodes_eq ▸ hn)

theorem IsShapedBy.mem_ids_of_lineage (h : d.IsShapedBy f) (hn : n ∈ d.nodes)
    (hx : x ∈ n.lineage) : x ∈ f.ids :=
  (Forest.mem_of_mem_lineage (h.nodes_eq ▸ hn) hx).resolve_right List.not_mem_nil

theorem IsShapedBy.exists_node (h : d.IsShapedBy f) (hx : x ∈ f.ids) : ∃ n ∈ d.nodes, n.id = x := by
  rw [← h.map_id] at hx
  simpa using hx

/-- What is above a node is above everything below that node. -/
theorem IsShapedBy.isTree (h : d.IsShapedBy f) : d.IsTree where
  unique := h.nodup
  id_lt n hn := by
    rw [← h.mem_ids_iff, ← h.map_id]
    exact List.mem_map_of_mem hn
  lineage_lt n hn x hx := h.mem_ids_iff.mp (h.mem_ids_of_lineage hn hx)
  nested n hn m hm habove := by
    obtain ⟨c, hc⟩ := h.exists_holds hm
    have hin := hc.mem_nodes h.fresh (h.nodes_eq ▸ hn) habove
    exact List.Subset.trans (List.subset_cons_self _ _) (Forest.subset_lineage hin)

/-! ### One more scope -/

/-- What comes before the last of some members of a list. -/
theorem sublist_before {s t : List Nat} (h : (done ++ [x]).Sublist (s ++ x :: t))
    (hunique : (s ++ x :: t).Nodup) : done.Sublist s := by
  -- `x` stands in the list once, so the last member can only be that one.
  have ht : x ∉ t := (List.nodup_cons.mp (List.nodup_append.mp hunique).2.1).1
  obtain ⟨front, back, hsplit, hfront, hback⟩ := List.sublist_append_iff.mp h
  rcases List.eq_nil_or_concat back with rfl | ⟨back, z, rfl⟩
  · have hx : x ∈ s := hfront.subset (by rw [← List.append_nil front, ← hsplit]; simp)
    exact absurd rfl ((List.nodup_append.mp hunique).2.2 x hx x List.mem_cons_self)
  · rw [List.concat_eq_append, ← List.append_assoc] at hsplit
    obtain ⟨hdone, hz⟩ := List.append_inj' hsplit rfl
    obtain rfl := List.cons.inj hz |>.1
    rw [List.concat_eq_append] at hback
    have hnil : back = [] := by
      cases back with
      | nil => rfl
      | cons y back =>
        rcases List.sublist_cons_iff.mp hback with hback | ⟨rest, heq, hback⟩
        · exact absurd (hback.subset (by simp)) ht
        · rw [List.cons_append] at heq
          have hrest := (List.cons.inj heq).2
          exact absurd (hback.subset (by rw [← hrest]; simp)) ht
    rw [hdone, hnil, List.append_nil]
    exact hfront

/-- Whether a node lies below one of some scopes. -/
def isBelow (scopes : List Nat) (n : Node) : Bool := n.lineage.any scopes.contains

theorem isBelow_iff {scopes : List Nat} :
    isBelow scopes n = true ↔ ∃ x ∈ scopes, x ∈ n.lineage := by
  simp only [isBelow, List.any_eq_true, List.contains_iff_mem]
  exact ⟨fun ⟨x, hx, hs⟩ => ⟨x, hs, hx⟩, fun ⟨x, hs, hx⟩ => ⟨x, hx, hs⟩⟩

theorem isBelow_append_singleton (scopes : List Nat) (x : Nat) (m : Node) :
    isBelow (scopes ++ [x]) m = (isBelow scopes m || m.lineage.contains x) := by
  rw [Bool.eq_iff_iff]
  simp only [Bool.or_eq_true, isBelow_iff, List.mem_append, List.mem_singleton,
    List.contains_iff_mem]
  constructor
  · rintro ⟨y, hy | rfl, hmem⟩
    · exact .inl ⟨y, hy, hmem⟩
    · exact .inr hmem
  · rintro (⟨y, hy, hmem⟩ | hmem)
    · exact ⟨y, .inl hy, hmem⟩
    · exact ⟨x, .inr rfl, hmem⟩

/-- What is below an inner scope is below the scope around it. -/
theorem isBelow_of_inner (h : d.IsShapedBy f) (hn : n ∈ d.nodes) (hinner : isBelow done n = true)
    (hm : m ∈ d.nodes) (habove : n.id ∈ m.lineage) : isBelow done m = true := by
  obtain ⟨x, hx, hmem⟩ := isBelow_iff.mp hinner
  exact isBelow_iff.mpr ⟨x, hx, h.isTree.nested m hm n hn habove hmem⟩

/-- No scope before a node that is not below it is above what follows the node: that would have to
be below it too. -/
theorem isBelow_of_later (h : d.IsShapedBy f) {before later : List Node}
    (hnodes : d.nodes = before ++ n :: later) (hdone : done.Sublist (before.map (·.id)))
    (houter : isBelow done n = false) (hm : m ∈ later) : isBelow done m = false := by
  refine Bool.eq_false_iff.mpr fun hbelow => ?_
  obtain ⟨x, hx, hmem⟩ := isBelow_iff.mp hbelow
  obtain ⟨k, hk, rfl⟩ := List.mem_map.mp (hdone.subset hx)
  have hsub : [k, n, m].Sublist (f.nodes []) := by
    rw [← h.nodes_eq, hnodes]
    exact (List.singleton_sublist.mpr hk).append ((List.singleton_sublist.mpr hm).cons_cons n)
  have hbetween := Forest.mem_lineage_of_between h.fresh hsub hmem
  exact absurd (isBelow_iff.mpr ⟨k.id, hx, hbetween⟩) (ne_true_of_eq_false houter)

/-- What lies below a node is a stretch of the list of nodes behind it. -/
theorem IsShapedBy.exists_stretch (h : d.IsShapedBy f) (hc : Forest.Holds [] f n c) :
    ∃ before after, d.nodes = before ++ n :: (c.nodes (n.id :: n.lineage) ++ after) ∧
      (∀ m ∈ before ++ n :: after, (m.lineage.contains n.id) = false) ∧
      ∀ m ∈ c.nodes (n.id :: n.lineage), (m.lineage.contains n.id) = true := by
  obtain ⟨before, after, hsplit, hbefore, hafter⟩ := hc.exists_split h.fresh
  refine ⟨before, after, h.nodes_eq.trans hsplit, fun m hm => ?_, fun m hm => ?_⟩
  · rw [List.append_cons, List.mem_append] at hm
    simpa using hm.elim (hbefore m) (hafter m)
  · exact List.contains_iff_mem.mpr (Forest.subset_lineage hm List.mem_cons_self)

/-- A class that holds of a stretch and of nothing before or behind it. -/
theorem filter_stretch {p : Node → Bool} {before stretch after : List Node}
    (hbefore : ∀ m ∈ before, p m = false) (hstretch : ∀ m ∈ stretch, p m = true)
    (hafter : ∀ m ∈ after, p m = false) :
    (before ++ n :: (stretch ++ after)).filter p = [n].filter p ++ stretch := by
  have hfront : before.filter p = [] :=
    List.filter_eq_nil_iff.mpr fun m hm => ne_true_of_eq_false (hbefore m hm)
  have hback : after.filter p = [] :=
    List.filter_eq_nil_iff.mpr fun m hm => ne_true_of_eq_false (hafter m hm)
  rw [List.filter_append, ← List.singleton_append, List.filter_append, List.filter_append, hfront,
    hback, List.filter_eq_self.mpr hstretch, List.nil_append, List.append_nil]

theorem IsShapedBy.filter_contains (h : d.IsShapedBy f) (hc : Forest.Holds [] f n c) :
    d.nodes.filter (·.lineage.contains n.id) = c.nodes (n.id :: n.lineage) := by
  obtain ⟨before, after, hnodes, hapart, hstretch⟩ := h.exists_stretch hc
  simp only [List.forall_mem_append, List.forall_mem_cons] at hapart
  obtain ⟨hbefore, hself, hafter⟩ := hapart
  rw [hnodes, filter_stretch hbefore hstretch hafter, List.filter_singleton, hself]
  rfl

theorem IsShapedBy.subtree_eq (h : d.IsShapedBy f) (hc : Forest.Holds [] f n c) :
    d.subtree n.id = n :: c.nodes (n.id :: n.lineage) := by
  obtain ⟨before, after, hnodes, hapart, hstretch⟩ := h.exists_stretch hc
  simp only [List.forall_mem_append, List.forall_mem_cons] at hapart
  obtain ⟨hbefore, -, hafter⟩ := hapart
  have hunique := h.nodup
  rw [hnodes, List.map_append, List.map_cons, List.nodup_middle, List.nodup_cons,
    ← List.map_append] at hunique
  have hother : ∀ m ∈ before ++ (c.nodes (n.id :: n.lineage) ++ after), (m.id == n.id) = false :=
    fun m hm => beq_false_of_ne fun hid => hunique.1 (List.mem_map.mpr ⟨m, hm, hid⟩)
  simp only [List.forall_mem_append] at hother
  rw [subtree, hnodes, filter_stretch (fun m hm => by rw [hother.1 m hm, hbefore m hm]; rfl)
    (fun m hm => by rw [hstretch m hm, Bool.or_true])
    (fun m hm => by rw [hother.2.2 m hm, hafter m hm]; rfl)]
  simp

/-- A scope inside another one adds nothing. -/
theorem filter_isBelow_of_inner (h : d.IsShapedBy f) (hn : n ∈ d.nodes)
    (hinner : isBelow done n = true) (p : Node → Bool) :
    (d.nodes.filter fun m => isBelow (done ++ [n.id]) m && p m) =
        (d.nodes.filter fun m => isBelow done m && p m) ∧
      ((d.nodes.filter (·.lineage.contains n.id)).filter fun m => p m && !isBelow done m) = [] := by
  constructor
  · refine List.filter_congr fun m hm => ?_
    rw [isBelow_append_singleton]
    by_cases habove : n.id ∈ m.lineage
    · simp [isBelow_of_inner h hn hinner hm habove]
    · simp [habove]
  · refine List.filter_eq_nil_iff.mpr fun m hm => ?_
    obtain ⟨hm, habove⟩ := List.mem_filter.mp hm
    simp [isBelow_of_inner h hn hinner hm (List.contains_iff_mem.mp habove)]

/-- What was found before stands before a scope that is not inside another one, and what the scope
adds stands behind it. -/
theorem filter_isBelow_of_outer (h : d.IsShapedBy f) (hn : n ∈ d.nodes)
    (hdone : (done ++ [n.id]).Sublist (d.nodes.map (·.id))) (houter : isBelow done n = false)
    (p : Node → Bool) :
    (d.nodes.filter fun m => isBelow (done ++ [n.id]) m && p m) =
      (d.nodes.filter fun m => isBelow done m && p m) ++
        (d.nodes.filter (·.lineage.contains n.id)).filter fun m => p m && !isBelow done m := by
  obtain ⟨c, hc⟩ := h.exists_holds hn
  obtain ⟨before, after, hnodes, hapart, hstretch⟩ := h.exists_stretch hc
  have hbelow := h.filter_contains hc
  generalize c.nodes (n.id :: n.lineage) = stretch at hnodes hstretch hbelow
  have hunique := h.nodup
  rw [hnodes, List.map_append, List.map_cons] at hdone hunique
  -- In document order the subtree of the new scope is one stretch. What was below a scope before
  -- stands in front of it, or else the new scope would be inside that one.
  have hlater : ∀ m ∈ n :: (stretch ++ after), isBelow done m = false :=
    List.forall_mem_cons.mpr ⟨houter, fun m hm =>
      isBelow_of_later h hnodes (sublist_before hdone hunique) houter hm⟩
  have hold : (n :: (stretch ++ after)).filter (fun m => isBelow done m && p m) = [] :=
    List.filter_eq_nil_iff.mpr fun m hm => by simp [hlater m hm]
  simp only [List.forall_mem_append, List.forall_mem_cons] at hapart hlater
  obtain ⟨hbefore, hself, hafter⟩ := hapart
  have hfound : before.filter (fun m => isBelow (done ++ [n.id]) m && p m) =
      before.filter fun m => isBelow done m && p m := List.filter_congr fun m hm => by
    rw [isBelow_append_singleton, hbefore m hm, Bool.or_false]
  have hadded : stretch.filter (fun m => isBelow (done ++ [n.id]) m && p m) =
      stretch.filter fun m => p m && !isBelow done m := List.filter_congr fun m hm => by
    rw [isBelow_append_singleton, hstretch m hm, hlater.2.1 m hm]
    simp
  have hnothing : after.filter (fun m => isBelow (done ++ [n.id]) m && p m) = [] :=
    List.filter_eq_nil_iff.mpr fun m hm => by
      rw [isBelow_append_singleton, hafter m hm, hlater.2.2 m hm]
      simp
  rw [hbelow, hnodes, List.filter_append, List.filter_append, hold, hfound, List.append_nil,
    List.filter_cons, isBelow_append_singleton, houter, hself, List.filter_append, hadded, hnothing,
    List.append_nil]
  rfl

/-- One more scope, behind the others in document order, adds those of the nodes below it that are
below none of the others, and these come last. -/
theorem filter_isBelow_append (h : d.IsShapedBy f) (hn : n ∈ d.nodes)
    (hdone : (done ++ [n.id]).Sublist (d.nodes.map (·.id))) (p : Node → Bool) :
    (d.nodes.filter fun m => isBelow (done ++ [n.id]) m && p m) =
      (d.nodes.filter fun m => isBelow done m && p m) ++
        (d.nodes.filter (·.lineage.contains n.id)).filter fun m => p m && !isBelow done m := by
  cases hinner : isBelow done n with
  | true =>
    obtain ⟨hsame, hnone⟩ := filter_isBelow_of_inner h hn hinner p
    rw [hsame, hnone, List.append_nil]
  | false => exact filter_isBelow_of_outer h hn hdone hinner p

theorem IsShapedBy.contains_below (h : d.IsShapedBy f) (hm : m ∈ d.nodes) (scopes : List Nat) :
    (d.below scopes selector).contains m.id =
      (isBelow scopes m && (Selector.ofText selector).matchesNode d m) := by
  rw [Bool.eq_iff_iff, List.contains_iff_mem, Bool.and_eq_true]
  constructor
  · intro hmem
    obtain ⟨k, hk, hid⟩ := List.mem_map.mp hmem
    obtain ⟨hk, hboth⟩ := List.mem_filter.mp hk
    obtain rfl := h.eq_of_id hk hm hid
    exact Bool.and_eq_true_iff.mp hboth
  · exact fun hboth => List.mem_map_of_mem
      (List.mem_filter.mpr ⟨hm, Bool.and_eq_true_iff.mpr hboth⟩)

/-! ### What an arena and a list of nodes agree on -/

namespace Arena

/-- An arena and a list of nodes that hold the same tree. -/
structure Keeps (a : Arena) (d : Dom) (f : Forest) : Prop where
  shaped : d.IsShapedBy f
  records : a.Records none f
  size_eq : a.size = d.nodes.length

theorem keeps_built (h : ParentsExist additions) :
    (built additions).Keeps (Dom.built additions) (shape additions) := by
  obtain ⟨hshaped, hlength⟩ := isShapedBy_built h
  obtain ⟨hrecords, hsize⟩ := records_built h
  exact ⟨hshaped, hrecords, hsize.trans hlength.symm⟩

theorem Keeps.exists_node (h : a.Keeps d f) (hx : x < a.size) : ∃ n ∈ d.nodes, n.id = x :=
  h.shaped.exists_node (h.shaped.mem_ids_iff.mpr (h.size_eq ▸ hx))

/-- The entry of a node, and the entries of what lies below it. -/
theorem Keeps.exists_entry (h : a.Keeps d f) (hn : n ∈ d.nodes) :
    ∃ c, Forest.Holds [] f n c ∧ a.entries[n.id]? = some ⟨n.element, n.lineage.head?, c.tops⟩ ∧
      a.Records (some n.id) c := by
  obtain ⟨c, hc⟩ := h.shaped.exists_holds hn
  exact ⟨c, hc, Records.of_holds hc h.records⟩

theorem Keeps.element?_eq (h : a.Keeps d f) : a.element? = d.element? := by
  funext x
  by_cases hx : x < a.size
  · obtain ⟨n, hn, rfl⟩ := h.exists_node hx
    obtain ⟨c, -, hentry, -⟩ := h.exists_entry hn
    rw [element?, hentry, Dom.element?, h.shaped.isTree.node?_eq hn]
    rfl
  · have hnone : d.node? x = none := by
      refine List.find?_eq_none.mpr fun n hn hid => hx ?_
      rw [beq_iff_eq] at hid
      rw [h.size_eq, ← hid]
      exact h.shaped.isTree.id_lt n hn
    rw [element?, List.getElem?_eq_none (Nat.le_of_not_lt hx), Dom.element?, hnone]
    rfl

theorem Keeps.isLine (h : a.Keeps d f) (hn : n ∈ d.nodes) :
    a.IsLine (n.id :: n.lineage) ∧ (n.id :: n.lineage).length ≤ a.size := by
  obtain ⟨c, hc, -, -⟩ := h.exists_entry hn
  refine ⟨IsLine.of_holds hc h.records trivial, ?_⟩
  have hlength := hc.length_lineage_lt
  rw [h.shaped.length_ids, ← h.size_eq] at hlength
  exact hlength

theorem Keeps.descendants?_eq (h : a.Keeps d f) (hn : n ∈ d.nodes) :
    a.descendants? n.id = some ((d.nodes.filter (·.lineage.contains n.id)).map (·.id)) := by
  obtain ⟨c, hc, hentry, hbelow⟩ := h.exists_entry hn
  obtain ⟨before, after, hnodes, -, -⟩ := hc.exists_split h.shaped.fresh
  have hroom : c.ids.length < a.size := by
    have hlength := congrArg List.length hnodes
    rw [← List.length_map (f := Node.id), Forest.map_id_nodes, h.shaped.length_ids,
      ← h.size_eq] at hlength
    rw [hlength, ← Forest.map_id_nodes c (n.id :: n.lineage)]
    simp only [List.length_append, List.length_cons, List.length_map]
    omega
  obtain ⟨depth, hdepth⟩ := Nat.exists_eq_add_of_lt hroom
  rw [descendants?, hdepth, descend?, hentry, h.shaped.filter_contains hc, Forest.map_id_nodes]
  exact hbelow.descend?_eq (Nat.le_add_right _ _) []

theorem Keeps.isVisible?_eq (h : a.Keeps d f) (hn : n ∈ d.nodes) :
    a.isVisible? n.id = some (d.isShownAt n) := by
  obtain ⟨hline, hlength⟩ := h.isLine hn
  have hwalk := hline.shownFrom?_eq hlength
  rw [isVisible?, ← List.head?_cons (a := n.id) (l := n.lineage), hwalk, h.element?_eq]
  simp [isShownAt, Dom.element?, h.shaped.isTree.node?_eq hn]

/-- The text of a subtree is what the walk for texts joins. -/
theorem Keeps.textFrom?_eq (h : a.Keeps d f) (hn : n ∈ d.nodes) {onlyVisible : Bool}
    {keep : Node → Bool} (hread : ∀ m ∈ d.nodes, a.isRead? onlyVisible m.id = some (keep m))
    (hclosed : ∀ k ∈ d.nodes, ∀ m ∈ d.nodes, k.id ∈ m.lineage → keep m = true → keep k = true) :
    a.text? onlyVisible n.id = some (textOfNodes ((d.subtree n.id).filter keep)) := by
  obtain ⟨c, hc, hentry, hbelow⟩ := h.exists_entry hn
  -- the node alone, with what lies below it
  let alone : Forest := .cons n.id n.element c .nil
  have hsubtree : alone.nodes n.lineage = d.subtree n.id := by
    rw [h.shaped.subtree_eq hc]
    simp [alone, Forest.nodes]
  have hrecords : a.Records n.lineage.head? alone := ⟨hentry, hbelow, trivial⟩
  have hin : ∀ m ∈ alone.nodes n.lineage, m ∈ d.nodes := fun m hm =>
    (List.mem_filter.mp (hsubtree ▸ hm)).1
  have hroom : alone.ids.length ≤ a.size := by
    rw [← Forest.map_id_nodes alone n.lineage, hsubtree, List.length_map, h.size_eq]
    exact List.length_filter_le _ _
  obtain ⟨texts, hwalk, htext⟩ := hrecords.textFrom?_eq hroom (fun m hm => hread m (hin m hm))
    (fun k hk m hm => hclosed k (hin k hk) m (hin m hm))
  have halone : alone.tops = [n.id] := rfl
  rw [halone] at hwalk
  rw [← hsubtree, ← htext, text?]
  cases hone : a.textFrom? onlyVisible a.size n.id with
  | none => simp [hone] at hwalk
  | some t =>
    obtain rfl : [t] = texts := by simpa [hone] using hwalk
    rw [joinTexts_cons]
    simp [joinTexts, glue]

/-- The text of an element, read in full. -/
theorem Keeps.text?_false (h : a.Keeps d f) (hn : n ∈ d.nodes) :
    a.text? false n.id = some (d.textOf n.id) := by
  have hread : ∀ m ∈ d.nodes, a.isRead? false m.id = some true := fun _ _ => rfl
  have hall := h.textFrom?_eq hn hread fun _ _ _ _ _ h => h
  rw [List.filter_true] at hall
  exact hall

/-- What is visible of the text of an element. -/
theorem Keeps.text?_true (h : a.Keeps d f) (hn : n ∈ d.nodes) :
    a.text? true n.id = some (d.visibleTextOf n.id) :=
  h.textFrom?_eq hn (fun _ hm => h.isVisible?_eq hm) fun _ hk _ hm habove hshown =>
    h.shaped.isTree.isShownAt_of_mem_lineage hk hm habove hshown

theorem anyM_eq_some {α : Type} {p : α → Option Bool} {q : α → Bool} {xs : List α}
    (h : ∀ x ∈ xs, p x = some (q x)) : xs.anyM p = some (xs.any q) := by
  induction xs with
  | nil => rfl
  | cons x xs ih =>
    obtain ⟨hx, hxs⟩ := List.forall_mem_cons.mp h
    rw [List.anyM, hx]
    cases hq : q x <;> simp [hq, ih hxs]

theorem Keeps.matchesAlternative?_eq (h : a.Keeps d f) (hn : n ∈ d.nodes) (s : Alternative) :
    a.matchesAlternative? n.id s = some (s.matchesNode d n) := by
  obtain ⟨c, -, hentry, -⟩ := h.exists_entry hn
  obtain ⟨⟨-, hline⟩, hlength⟩ := h.isLine hn
  have hclimb := hline.climb?_eq (Nat.le_of_succ_le hlength)
  rw [matchesAlternative?, hentry, Alternative.matchesNode]
  by_cases hlabel : s.text ∈ n.element.labels
  · simp [hlabel]
  · cases s.compounds with
    | nil => simp [hlabel]
    | cons own above =>
      cases hown : compoundHolds own n.element <;>
        simp [hlabel, hown, hclimb, h.element?_eq, ancestorsBelowRoot]

theorem Keeps.matches?_eq (h : a.Keeps d f) (hn : n ∈ d.nodes) (s : Selector) :
    a.matches? s n.id = some (s.matchesNode d n) := by
  obtain ⟨c, -, hentry, -⟩ := h.exists_entry hn
  rw [matches?, hentry, matchesNode]
  by_cases hlabel : s.text ∈ n.element.labels
  · simp [hlabel]
  · simp [hlabel, anyM_eq_some fun s _ => h.matchesAlternative?_eq hn s]

theorem Keeps.note?_eq (h : a.Keeps d f) (hn : n ∈ d.nodes) (s : Selector) (found : List Nat) :
    a.note? s found n.id = some (found ++
      ([n].filter fun n => s.matchesNode d n && !found.contains n.id).map (·.id)) := by
  rw [note?, h.matches?_eq hn, List.filter_singleton]
  show some (if (s.matchesNode d n && !found.contains n.id) = true then _ else _) = _
  cases s.matchesNode d n && !found.contains n.id <;> simp

/-- Nodes that a selector matches are added behind those that were found before, each once. -/
theorem Keeps.foldlM_note?_eq (h : a.Keeps d f) (s : Selector) {nodes : List Node}
    (hnodes : ∀ n ∈ nodes, n ∈ d.nodes) (hunique : (nodes.map (·.id)).Nodup) (found : List Nat) :
    (nodes.map (·.id)).foldlM (a.note? s) found =
      some (found ++ (nodes.filter fun n => s.matchesNode d n && !found.contains n.id).map
        (·.id)) := by
  induction nodes generalizing found with
  | nil => simp
  | cons n nodes ih =>
    obtain ⟨hn, hnodes⟩ := List.forall_mem_cons.mp hnodes
    rw [List.map_cons] at hunique
    obtain ⟨hnew, hunique⟩ := List.nodup_cons.mp hunique
    rw [List.map_cons, List.foldlM_cons, h.note?_eq hn, Option.bind_eq_bind, Option.bind_some,
      ih hnodes hunique, List.append_assoc, ← List.map_append]
    -- the node itself is none of those that follow
    have hothers : nodes.filter (fun m => s.matchesNode d m && !(found ++ ([n].filter fun n =>
          s.matchesNode d n && !found.contains n.id).map (·.id)).contains m.id) =
        nodes.filter fun m => s.matchesNode d m && !found.contains m.id := by
      refine List.filter_congr fun m hm => ?_
      have hne : m.id ≠ n.id := fun hid => hnew (hid ▸ List.mem_map_of_mem hm)
      rw [List.filter_singleton]
      cases s.matchesNode d n && !found.contains n.id <;> simp [hne]
    rw [hothers, ← List.filter_append, List.singleton_append]

/-- What is found below one more scope, behind the others in document order. -/
theorem Keeps.gather?_eq (h : a.Keeps d f) (hn : n ∈ d.nodes)
    (hdone : (done ++ [n.id]).Sublist (d.nodes.map (·.id))) :
    a.gather? (Selector.ofText selector) (d.below done selector) n.id =
      some (d.below (done ++ [n.id]) selector) := by
  obtain ⟨c, hc⟩ := h.shaped.exists_holds hn
  have hbelow : ∀ m ∈ d.nodes.filter (·.lineage.contains n.id), m ∈ d.nodes := fun m hm =>
    List.mem_of_mem_filter hm
  have hunique : ((d.nodes.filter (·.lineage.contains n.id)).map (·.id)).Nodup :=
    h.shaped.nodup.sublist (List.filter_sublist.map _)
  rw [gather?, h.descendants?_eq hn, Option.bind_eq_bind, Option.bind_some,
    h.foldlM_note?_eq _ hbelow hunique]
  have hadded := filter_isBelow_append h.shaped hn hdone
    ((Selector.ofText selector).matchesNode d)
  -- What was found before is left out by its number; for a match that means to be below an earlier
  -- scope.
  have hnew : ((d.nodes.filter (·.lineage.contains n.id)).filter fun m =>
      (Selector.ofText selector).matchesNode d m && !(d.below done selector).contains m.id) =
      (d.nodes.filter (·.lineage.contains n.id)).filter fun m =>
        (Selector.ofText selector).matchesNode d m && !isBelow done m := by
    refine List.filter_congr fun m hm => ?_
    rw [h.shaped.contains_below (hbelow m hm)]
    cases (Selector.ofText selector).matchesNode d m <;> cases isBelow done m <;> rfl
  rw [hnew, below, below, ← List.map_append]
  exact congrArg (some <| List.map Node.id ·) hadded.symm

/-- What is found below scopes in document order, one after the other. -/
theorem Keeps.foldlM_gather?_eq (h : a.Keeps d f) (scopes : List Nat)
    (hscopes : (done ++ scopes).Sublist (d.nodes.map (·.id))) :
    scopes.foldlM (a.gather? (Selector.ofText selector)) (d.below done selector) =
      some (d.below (done ++ scopes) selector) := by
  induction scopes generalizing done with
  | nil => simp
  | cons x scopes ih =>
    obtain ⟨n, hn, rfl⟩ := List.mem_map.mp (hscopes.subset (by simp) : x ∈ d.nodes.map (·.id))
    rw [List.append_cons] at hscopes ⊢
    rw [List.foldlM_cons, h.gather?_eq hn ((List.sublist_append_left _ _).trans hscopes),
      Option.bind_eq_bind, Option.bind_some, ih hscopes]

theorem Keeps.below?_eq (h : a.Keeps d f) {scopes : List Nat}
    (hscopes : scopes.Sublist (d.nodes.map (·.id))) (selector : String) :
    a.below? scopes selector = some (d.below scopes selector) := by
  have hnone : d.below [] selector = [] := by simp [below]
  have hall : scopes.foldlM (a.gather? (Selector.ofText selector)) (d.below [] selector) =
      some (d.below ([] ++ scopes) selector) := h.foldlM_gather?_eq scopes hscopes
  rw [hnone] at hall
  exact hall

end Arena

/-- What a part of a locator names is in document order. -/
theorem resolvePart_sublist {scopes : List Nat} (hscopes : scopes.Sublist (d.nodes.map (·.id)))
    (part : Locator.Part) : (d.resolvePart scopes part).Sublist (d.nodes.map (·.id)) := by
  have hfound : (if part.selector = Locator.scope then scopes
      else d.below scopes part.selector).Sublist (d.nodes.map (·.id)) := by
    split
    · exact hscopes
    · exact List.filter_sublist.map _
  unfold resolvePart
  cases part.index with
  | none => exact hfound
  | some i =>
    refine List.Sublist.trans ?_ hfound
    generalize (if part.selector = Locator.scope then scopes
      else d.below scopes part.selector) = all
    cases hi : all[i]? with
    | none => simp [hi]
    | some x =>
      simp only [hi, Option.toList_some]
      exact List.singleton_sublist.mpr (List.mem_of_getElem? hi)

namespace Arena

theorem Keeps.resolvePart?_eq (h : a.Keeps d f) {scopes : List Nat}
    (hscopes : scopes.Sublist (d.nodes.map (·.id))) (part : Locator.Part) :
    a.resolvePart? scopes part = some (d.resolvePart scopes part) := by
  unfold resolvePart? resolvePart
  rw [h.below?_eq hscopes]
  split <;> cases part.index <;> rfl

/-- Locators name the same nodes in both, in document order. -/
theorem Keeps.resolve?_eq (h : a.Keeps d f) (hroot : root < a.size) (l : Locator) :
    a.resolve? l = some (d.resolve l) ∧ (d.resolve l).Sublist (d.nodes.map (·.id)) := by
  have hstart : [root].Sublist (d.nodes.map (·.id)) := by
    obtain ⟨n, hn, hid⟩ := h.exists_node hroot
    exact List.singleton_sublist.mpr (hid ▸ List.mem_map_of_mem hn)
  unfold resolve? resolve
  generalize [root] = scopes at hstart ⊢
  induction l.parts generalizing scopes with
  | nil => exact ⟨rfl, hstart⟩
  | cons part parts ih =>
    rw [List.foldlM_cons, h.resolvePart?_eq hstart, Option.bind_eq_bind, Option.bind_some]
    exact ih _ (resolvePart_sublist hstart part)

/-! ### Indexes -/

theorem resolve?_append (a : Arena) (parts : List Locator.Part) (part : Locator.Part) :
    a.resolve? ⟨parts ++ [part]⟩ =
      (a.resolve? ⟨parts⟩).bind fun scopes => a.resolvePart? scopes part := by
  simp [resolve?, List.foldlM_append]

/-- An index keeps one of the elements that are named without it. -/
theorem resolve?_nth (a : Arena) (l : Locator) (i : Nat) :
    a.resolve? (l.nth i) = (a.resolve? l).map fun found => found[i]?.toList := by
  unfold Locator.nth
  split
  next selector hlast =>
    obtain ⟨init, hparts⟩ := List.getLast?_eq_some_iff.mp hlast
    obtain rfl : l = ⟨init ++ [⟨selector, none⟩]⟩ := congrArg Locator.mk hparts
    rw [List.dropLast_concat, resolve?_append, resolve?_append, Option.map_bind]
    rfl
  next =>
    rw [resolve?_append, Option.map_eq_bind]
    rfl

end Arena

/-- An index behind another one gets a part of its own. -/
theorem nth_nth (l : Locator) (i j : Nat) :
    (l.nth j).nth i = ⟨(l.nth j).parts ++ [⟨Locator.scope, some i⟩]⟩ := by
  obtain ⟨selector, hlast⟩ : ∃ selector, (l.nth j).parts.getLast? = some ⟨selector, some j⟩ := by
    unfold Locator.nth
    split <;> exact ⟨_, List.getLast?_concat⟩
  generalize l.nth j = l at hlast
  unfold Locator.nth
  rw [hlast]

/-- An index behind what keeps everything becomes the index of that part. -/
theorem nth_within_scope (l : Locator) (i : Nat) :
    (l.within Locator.scope).nth i = ⟨l.parts ++ [⟨Locator.scope, some i⟩]⟩ := by
  have hclean : Locator.cleanSelector Locator.scope = Locator.scope := by decide
  simp only [Locator.within, Locator.nth, hclean, List.getLast?_concat, List.dropLast_concat]

/-- An index names the element at its place among those that are named without it, or nothing, on
every page. Behind another index only the first place is taken, and keeping everything first makes
no difference. -/
theorem nth_selects (a : Arena) (d : Dom) (l : Locator) (i : Nat) :
    (d.resolve (l.nth i) = (d.resolve l)[i]?.toList ∧
      a.resolve? (l.nth i) = (a.resolve? l).map fun found => found[i]?.toList) ∧
    (d.resolve l.first = (d.resolve l).head?.toList ∧
      a.resolve? l.first = (a.resolve? l).map fun found => found.head?.toList) ∧
    (∀ j, (l.nth j).nth i = ⟨(l.nth j).parts ++ [⟨Locator.scope, some i⟩]⟩ ∧
      d.resolve ((l.nth j).nth i) = if i = 0 then d.resolve (l.nth j) else []) ∧
    ((l.within Locator.scope).nth i = ⟨l.parts ++ [⟨Locator.scope, some i⟩]⟩ ∧
      d.resolve ((l.within Locator.scope).nth i) = (d.resolve l)[i]?.toList) := by
  refine ⟨⟨resolve_nth d l i, a.resolve?_nth l i⟩, ⟨?_, ?_⟩,
    fun j => ⟨nth_nth l i j, ?_⟩, nth_within_scope l i, ?_⟩
  · rw [Locator.first, resolve_nth, List.head?_eq_getElem?]
  · simp only [Locator.first, Arena.resolve?_nth, List.head?_eq_getElem?]
  · rw [resolve_nth, resolve_nth]
    cases (d.resolve l)[j]? <;> cases i <;> rfl
  · rw [resolve_nth, resolve_within, if_pos (by decide)]

namespace Arena

/-! ### Trees -/

/-- An element is the parent of another one. -/
def IsParent (a : Arena) (x y : Nat) : Prop := ∃ n, a.entries[y]? = some n ∧ n.parent = some x

/-- An element is a proper ancestor of another one. -/
def IsAbove (a : Arena) : Nat → Nat → Prop := Relation.TransGen a.IsParent

/-- The root has no parent, every other element has one that came before it, and the children of an
element are those that have it for a parent, each once. -/
structure IsTree (a : Arena) : Prop where
  root_parent : ∃ n, a.entries[root]? = some n ∧ n.parent = none
  exists_parent : ∀ x < a.size, x ≠ root → ∃ p < x, a.IsParent p x
  children_nodup : ∀ (x : Nat) (n : Entry), a.entries[x]? = some n → n.children.Nodup
  mem_children_iff : ∀ (x : Nat) (n : Entry), a.entries[x]? = some n →
    ∀ y, y ∈ n.children ↔ a.IsParent x y

theorem Keeps.isParent_iff (h : a.Keeps d f) (hn : n ∈ d.nodes) :
    a.IsParent x n.id ↔ n.lineage.head? = some x := by
  obtain ⟨c, -, hentry, -⟩ := h.exists_entry hn
  simp [IsParent, hentry]

theorem Keeps.exists_node_of_entry (h : a.Keeps d f) {e : Entry} (he : a.entries[x]? = some e) :
    ∃ n ∈ d.nodes, n.id = x :=
  h.exists_node (List.getElem?_eq_some_iff.mp he).1

/-- The children of an element are those that have it for a parent. -/
theorem Keeps.mem_tops_iff (h : a.Keeps d f) (hc : Forest.Holds [] f n c) :
    y ∈ c.tops ↔ a.IsParent n.id y := by
  constructor
  · intro hy
    obtain ⟨m, hm, rfl, hlineage⟩ :
        ∃ m ∈ c.nodes (n.id :: n.lineage), m.id = y ∧ m.lineage = n.id :: n.lineage :=
      Forest.exists_of_mem_tops hy
    rw [← h.shaped.filter_contains hc] at hm
    rw [h.isParent_iff (List.mem_of_mem_filter hm), hlineage, List.head?_cons]
  · rintro ⟨e, he, hparent⟩
    obtain ⟨m, hm, rfl⟩ := h.exists_node_of_entry he
    have hhead := (h.isParent_iff hm).mp ⟨e, he, hparent⟩
    have hmem := List.mem_of_mem_head? hhead
    have hbelow := hc.mem_nodes h.shaped.fresh (h.shaped.nodes_eq ▸ hm) hmem
    rcases Forest.lineage_cases hbelow with ⟨htop, -⟩ | ⟨z, hz, hzhead⟩
    · exact htop
    · -- the node is not below itself
      obtain rfl := Option.some.inj (hzhead.symm.trans hhead)
      exact absurd List.mem_cons_self ((hc.fresh h.shaped.fresh).new _ hz)

theorem IsAbove.exists_entry (h : a.IsAbove x y) : ∃ e, a.entries[y]? = some e := by
  cases h with
  | single hparent => exact ⟨_, hparent.choose_spec.1⟩
  | tail _ hparent => exact ⟨_, hparent.choose_spec.1⟩

theorem IsLine.isAbove {above : List Nat} (h : a.IsLine (y :: above)) (hx : x ∈ above) :
    a.IsAbove x y := by
  induction above generalizing y with
  | nil => simp at hx
  | cons z above ih =>
    obtain ⟨hparent, hrest⟩ := h
    rcases List.mem_cons.mp hx with rfl | hx
    · exact .single hparent
    · exact (ih hrest hx).tail hparent

/-- An element is above another one if it is in the lineage of its node. -/
theorem Keeps.isAbove_iff (h : a.Keeps d f) (hn : n ∈ d.nodes) :
    a.IsAbove x n.id ↔ x ∈ n.lineage := by
  refine ⟨fun habove => ?_, (h.isLine hn).1.isAbove⟩
  generalize hy : n.id = y at habove
  induction habove generalizing n with
  | single hparent =>
    rw [← hy, h.isParent_iff hn] at hparent
    exact List.mem_of_mem_head? hparent
  | @tail z y _ hparent ih =>
    rw [← hy, h.isParent_iff hn] at hparent
    have hz := List.mem_of_mem_head? hparent
    obtain ⟨k, hk, rfl⟩ := h.shaped.exists_node (h.shaped.mem_ids_of_lineage hn hz)
    exact h.shaped.isTree.nested n hn k hk hz (ih hk rfl)

end Arena

/-- What is above a node came before it, and only the root has nothing above it. -/
structure Node.Rises (n : Node) : Prop where
  lt : ∀ y ∈ n.lineage, y < n.id
  top : n.lineage = [] ↔ n.id = root

theorem rises_add (htree : d.IsTree) (hne : d.nodes ≠ []) (h : ∀ n ∈ d.nodes, n.Rises)
    (parent : Nat) (element : Element) : ∀ n ∈ (d.add parent element).nodes, n.Rises := by
  rcases insertUnder_perm parent d.nodes.length element d.nodes with hsame | ⟨m, hm, _, hperm⟩
  · rw [add, hsame]
    exact h
  · intro n hn
    rcases List.mem_cons.mp (hperm.mem_iff.mp hn) with rfl | hn
    · refine ⟨List.forall_mem_cons.mpr ⟨htree.id_lt m hm, htree.lineage_lt m hm⟩, ?_⟩
      have hpos : d.nodes.length ≠ root := mt List.length_eq_zero_iff.mp hne
      simp [hpos]
    · exact h n hn

theorem rises_built (h : ParentsExist additions) : ∀ n ∈ (built additions).nodes, n.Rises := by
  induction additions using List.reverseRecOn with
  | nil =>
    refine List.forall_mem_singleton.mpr ⟨fun y hy => ?_, Iff.intro (fun _ => rfl) fun _ => rfl⟩
    exact absurd hy List.not_mem_nil
  | append_singleton additions x ih =>
    obtain ⟨hshaped, hlength⟩ := isShapedBy_built h.init
    have hne : (built additions).nodes ≠ [] := List.ne_nil_of_length_eq_add_one hlength
    rw [built_append]
    exact rises_add hshaped.isTree hne (ih h.init) _ _

namespace Arena

theorem Keeps.isTree (h : a.Keeps d f) (hrises : ∀ n ∈ d.nodes, n.Rises) (hroot : root < a.size) :
    a.IsTree where
  root_parent := by
    obtain ⟨n, hn, hid⟩ := h.exists_node hroot
    obtain ⟨c, -, hentry, -⟩ := h.exists_entry hn
    rw [hid] at hentry
    exact ⟨_, hentry, by rw [(hrises n hn).top.mpr hid]; rfl⟩
  exists_parent x hx hne := by
    obtain ⟨n, hn, rfl⟩ := h.exists_node hx
    cases hlineage : n.lineage with
    | nil => exact absurd ((hrises n hn).top.mp hlineage) hne
    | cons p above =>
      refine ⟨p, (hrises n hn).lt p (by rw [hlineage]; exact List.mem_cons_self), ?_⟩
      rw [h.isParent_iff hn, hlineage, List.head?_cons]
  children_nodup x e he := by
    obtain ⟨n, hn, rfl⟩ := h.exists_node_of_entry he
    obtain ⟨c, hc, hentry, -⟩ := h.exists_entry hn
    obtain rfl := Option.some.inj (hentry.symm.trans he)
    exact (hc.fresh h.shaped.fresh).unique.sublist (Forest.tops_sublist c)
  mem_children_iff x e he y := by
    obtain ⟨n, hn, rfl⟩ := h.exists_node_of_entry he
    obtain ⟨c, hc, hentry, -⟩ := h.exists_entry hn
    obtain rfl := Option.some.inj (hentry.symm.trans he)
    exact h.mem_tops_iff hc

/-- What the walk down finds are the elements below, each once. -/
theorem Keeps.exists_descendants (h : a.Keeps d f) (hx : x < a.size) :
    ∃ below, a.descendants? x = some below ∧ below.Nodup ∧
      ∀ y, y ∈ below ↔ a.IsAbove x y := by
  obtain ⟨n, hn, rfl⟩ := h.exists_node hx
  refine ⟨_, h.descendants?_eq hn, h.shaped.nodup.sublist (List.filter_sublist.map _),
    fun y => ⟨fun hy => ?_, fun habove => ?_⟩⟩
  · obtain ⟨m, hm, rfl⟩ := List.mem_map.mp hy
    obtain ⟨hm, hmem⟩ := List.mem_filter.mp hm
    exact (h.isAbove_iff hm).mpr (List.contains_iff_mem.mp hmem)
  · obtain ⟨e, he⟩ := habove.exists_entry
    obtain ⟨m, hm, rfl⟩ := h.exists_node_of_entry he
    exact List.mem_map_of_mem
      (List.mem_filter.mpr ⟨hm, List.contains_iff_mem.mpr ((h.isAbove_iff hm).mp habove)⟩)

/-- What is found inside something lies below it, unless the selector keeps what was found. -/
theorem Keeps.resolve_within_cases (h : a.Keeps d f) (l : Locator) (s : String) :
    (Locator.cleanSelector s = Locator.scope → d.resolve (l.within s) = d.resolve l) ∧
      (Locator.cleanSelector s ≠ Locator.scope →
        ∀ y ∈ d.resolve (l.within s), ∃ x ∈ d.resolve l, a.IsAbove x y) := by
  refine ⟨fun hs => ?_, fun hs y hy => ?_⟩
  · rw [resolve_within, if_pos hs]
  · rw [resolve_within, if_neg hs] at hy
    obtain ⟨m, hm, rfl⟩ := List.mem_map.mp hy
    obtain ⟨hm, hmatch⟩ := List.mem_filter.mp hm
    obtain ⟨x, hx, hmem⟩ := isBelow_iff.mp (Bool.and_eq_true_iff.mp hmatch).1
    exact ⟨x, hx, (h.isAbove_iff hm).mpr hmem⟩

/-- In document order the root is followed by what lies below it. -/
theorem descendants?_root_of_built (h : ParentsExist additions) :
    ∃ below, (built additions).descendants? root = some below ∧
      (Dom.built additions).nodes.map (·.id) = root :: below := by
  have hkeeps := keeps_built h
  obtain ⟨below, hshape⟩ := exists_shape additions
  have hroot : Forest.Holds [] (shape additions) ⟨root, [], { tag := "html" }⟩ below := by
    rw [hshape]
    exact .here
  have hmem := hkeeps.shaped.nodes_eq ▸ hroot.mem
  refine ⟨_, hkeeps.descendants?_eq hmem, ?_⟩
  rw [hkeeps.shaped.filter_contains hroot, hkeeps.shaped.map_id, hshape, Forest.map_id_nodes]
  simp [Forest.ids]

/-- Pages that are built, whatever the order of the additions, are trees under the root, and every
walk on them ends: the walk down finds the proper descendants of an element, the walk up tells
whether it is visible, and its text is joined. A locator names distinct elements in document order,
and those that a further selector names lie below them, unless it keeps them. -/
theorem answers_of_built (h : ParentsExist additions) :
    let a := Arena.built additions
    let d := Dom.built additions
    (a.size = additions.length + 1 ∧ a.IsTree) ∧
      (∀ x < a.size,
        (∃ below, a.descendants? x = some below ∧ below.Nodup ∧
          ∀ y, y ∈ below ↔ a.IsAbove x y) ∧
        a.isVisible? x = some (d.isVisible x) ∧
        a.text? false x = some (d.textOf x) ∧ a.text? true x = some (d.visibleTextOf x)) ∧
      ∀ l : Locator, a.resolve? l = some (d.resolve l) ∧ (d.resolve l).Nodup ∧
        (∃ below, a.descendants? root = some below ∧ (d.resolve l).Sublist (root :: below)) ∧
        ∀ s, (Locator.cleanSelector s = Locator.scope → d.resolve (l.within s) = d.resolve l) ∧
          (Locator.cleanSelector s ≠ Locator.scope →
            ∀ y ∈ d.resolve (l.within s), ∃ x ∈ d.resolve l, a.IsAbove x y) := by
  intro a d
  have hkeeps : a.Keeps d (shape additions) := keeps_built h
  have hsize : a.size = additions.length + 1 := (records_built h).2
  have hroot : root < a.size := by rw [hsize]; exact Nat.zero_lt_succ _
  refine ⟨⟨hsize, hkeeps.isTree (rises_built h) hroot⟩, fun x hx => ?_, fun l => ?_⟩
  · refine ⟨hkeeps.exists_descendants hx, ?_⟩
    obtain ⟨n, hn, rfl⟩ := hkeeps.exists_node hx
    refine ⟨?_, hkeeps.text?_false hn, hkeeps.text?_true hn⟩
    rw [hkeeps.isVisible?_eq hn, Dom.isVisible, hkeeps.shaped.isTree.node?_eq hn]
    rfl
  · obtain ⟨hresolve, horder⟩ := hkeeps.resolve?_eq hroot l
    refine ⟨hresolve, hkeeps.shaped.nodup.sublist horder, ?_, hkeeps.resolve_within_cases l⟩
    obtain ⟨below, hbelow, hids⟩ := descendants?_root_of_built h
    exact ⟨below, hbelow, hids ▸ horder⟩

/-- Two boxes, one with a box inside it, and a label in each, added in an order that is not that of
the document. The labels in boxes are found once each, although two boxes are around one of them. -/
theorem answers_of_built_boxes :
    let box : Element := { tag := "div" }
    let label : Element := { tag := "span" }
    let additions : List Addition :=
      [⟨0, box⟩, ⟨0, box⟩, ⟨1, box⟩, ⟨2, label⟩, ⟨3, label⟩, ⟨1, label⟩]
    let a := Arena.built additions
    let d := Dom.built additions
    let l := (Locator.ofSelector "div").within " css= span"
    ParentsExist additions ∧ a.IsTree ∧ a.descendants? 1 = some [3, 5, 6] ∧
      a.resolve? l = some [5, 6, 4] ∧ d.resolve l = [5, 6, 4] ∧
      ∃ x ∈ d.resolve (Locator.ofSelector "div"), a.IsAbove x 4 := by
  intro box label additions a d l
  have hexist : ParentsExist additions := by decide
  obtain ⟨⟨-, htree⟩, -, hlocators⟩ := answers_of_built hexist
  have hfound : d.resolve l = [5, 6, 4] := by decide +kernel
  obtain ⟨hsame, -⟩ := hlocators l
  obtain ⟨-, -, -, hinside⟩ := hlocators (Locator.ofSelector "div")
  have hspan := (hinside " css= span").2 (by decide)
  refine ⟨hexist, htree, by decide +kernel, hfound ▸ hsame, hfound, hspan 4 ?_⟩
  show 4 ∈ d.resolve l
  rw [hfound]
  decide

end Arena

end FlowPilot.Dom
