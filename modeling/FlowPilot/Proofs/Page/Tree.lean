import FlowPilot.Page.Resolve
import Mathlib.Data.List.Nodup

/-!
# What lies inside what

A page is built by adding children, and its elements change without moving. So every node keeps a
number of its own, and what is above a node is above everything below that node.

## Main definitions

* `Dom.IsTree`: the nodes of a page as they come about.
* `Dom.Inside`: a node that is another one or lies below it.

## Main statements

* `Dom.IsTree.add`, `Dom.IsTree.modify`: pages stay trees.
* `Dom.IsTree.inside_trans`: what is inside something inside a node is inside that node.
* `Dom.IsTree.isVisible_of_inside`: what is inside something hidden is hidden.
* `Dom.inside_of_mem_within`: what is found in a scope is inside of it.
-/

namespace FlowPilot.Dom

variable {d : Dom} {l : Locator} {selector : String} {i x y z : Nat}

/-! ### Trees -/

/-- Every node has a number of its own below the next free one, and what is above a node is above
everything below it. -/
structure IsTree (d : Dom) : Prop where
  unique : (d.nodes.map (·.id)).Nodup
  id_lt : ∀ n ∈ d.nodes, n.id < d.nodes.length
  lineage_lt : ∀ n ∈ d.nodes, ∀ a ∈ n.lineage, a < d.nodes.length
  nested : ∀ n ∈ d.nodes, ∀ m ∈ d.nodes, m.id ∈ n.lineage → m.lineage ⊆ n.lineage

theorem isTree_empty : IsTree empty := by
  refine ⟨by decide, ?_, ?_, ?_⟩ <;> simp [empty, root]

/-- The order of the nodes does not matter. -/
theorem IsTree.of_perm {d' : Dom} (h : d.IsTree) (hperm : d'.nodes.Perm d.nodes) : d'.IsTree where
  unique := (hperm.map _).nodup_iff.mpr h.unique
  id_lt n hn := by
    rw [hperm.length_eq]
    exact h.id_lt n (hperm.mem_iff.mp hn)
  lineage_lt n hn := by
    rw [hperm.length_eq]
    exact h.lineage_lt n (hperm.mem_iff.mp hn)
  nested n hn m hm := h.nested n (hperm.mem_iff.mp hn) m (hperm.mem_iff.mp hm)

/-- A new node has the lineage of its parent and the parent above it, wherever it is put. -/
theorem insertUnder_perm (parent id : Nat) (element : Element) (nodes : List Node) :
    insertUnder parent id element nodes = nodes ∨
      ∃ m ∈ nodes, m.id = parent ∧
        (insertUnder parent id element nodes).Perm (⟨id, m.id :: m.lineage, element⟩ :: nodes) := by
  induction nodes with
  | nil => exact .inl rfl
  | cons n rest ih =>
    by_cases hparent : n.id = parent
    · refine .inr ⟨n, List.mem_cons_self, hparent, ?_⟩
      rw [insertUnder, if_pos hparent, hparent]
      refine List.perm_middle.trans (List.Perm.cons _ ?_)
      rw [List.cons_append, List.takeWhile_append_dropWhile]
    · rw [insertUnder, if_neg hparent]
      rcases ih with hsame | ⟨m, hm, hid, hperm⟩
      · exact .inl (by rw [hsame])
      · exact .inr ⟨m, List.mem_cons_of_mem _ hm, hid, (hperm.cons n).trans (List.Perm.swap _ _ _)⟩

/-- A new node below another one. -/
theorem IsTree.cons {nodes : List Node} {m : Node} (h : IsTree ⟨nodes⟩) (hm : m ∈ nodes)
    (element : Element) : IsTree ⟨⟨nodes.length, m.id :: m.lineage, element⟩ :: nodes⟩ := by
  have hbelow : ∀ a ∈ m.id :: m.lineage, a < nodes.length :=
    List.forall_mem_cons.mpr ⟨h.id_lt m hm, h.lineage_lt m hm⟩
  refine ⟨?_, ?_, ?_, ?_⟩
  · refine List.nodup_cons.mpr ⟨fun hmem => ?_, h.unique⟩
    obtain ⟨n, hn, hid⟩ := List.mem_map.mp hmem
    exact absurd hid (Nat.ne_of_lt (h.id_lt n hn))
  · exact List.forall_mem_cons.mpr
      ⟨Nat.lt_succ_self _, fun n hn => Nat.lt_succ_of_lt (h.id_lt n hn)⟩
  · exact List.forall_mem_cons.mpr ⟨fun a ha => Nat.lt_succ_of_lt (hbelow a ha),
      fun n hn a ha => Nat.lt_succ_of_lt (h.lineage_lt n hn a ha)⟩
  · -- the new node is above nothing, and what is above it is its parent or above that
    intro n hn k hk hkn
    rcases List.mem_cons.mp hn with rfl | hn
    · rcases List.mem_cons.mp hk with rfl | hk
      · exact absurd hkn fun hkn => Nat.lt_irrefl _ (hbelow _ hkn)
      · rcases List.mem_cons.mp hkn with hid | hkm
        · rw [List.inj_on_of_nodup_map h.unique hk hm hid]
          exact List.subset_cons_self _ _
        · exact List.subset_cons_of_subset _ (h.nested m hm k hk hkm)
    · rcases List.mem_cons.mp hk with rfl | hk
      · exact absurd (h.lineage_lt n hn _ hkn) (Nat.lt_irrefl _)
      · exact h.nested n hn k hk hkn

theorem IsTree.add (h : d.IsTree) (parent : Nat) (element : Element) :
    (d.add parent element).IsTree := by
  rcases insertUnder_perm parent d.nodes.length element d.nodes with hsame | ⟨m, hm, _, hperm⟩
  · rw [Dom.add, hsame]
    exact h
  · exact (h.cons hm element).of_perm hperm

theorem IsTree.addTable (h : d.IsTree) (id : String) (rows : List (List String)) :
    (d.addTable id rows).IsTree := by
  refine List.foldlRecOn rows _ ((h.add _ _).add _ _) fun d h cells _ => ?_
  exact List.foldlRecOn cells _ (h.add _ _) fun d h cell _ => h.add _ _

/-- A change of an element moves nothing. -/
theorem exists_of_mem_modify {n : Node} {id : Nat} {change : Element → Element}
    (h : n ∈ (d.modify id change).nodes) :
    ∃ m ∈ d.nodes, n.id = m.id ∧ n.lineage = m.lineage := by
  obtain ⟨m, hm, rfl⟩ := List.mem_map.mp h
  refine ⟨m, hm, ?_⟩
  split <;> exact ⟨rfl, rfl⟩

theorem IsTree.modify (h : d.IsTree) (id : Nat) (change : Element → Element) :
    (d.modify id change).IsTree := by
  have hlength : (d.modify id change).nodes.length = d.nodes.length := List.length_map _
  -- A tree is a matter of numbers and lineages alone, which stay.
  refine ⟨?_, fun n hn => ?_, fun n hn => ?_, fun n hn m hm => ?_⟩
  · have hids : (d.modify id change).nodes.map (·.id) = d.nodes.map (·.id) := by
      rw [Dom.modify, List.map_map]
      refine List.map_congr_left fun n _ => ?_
      rw [Function.comp_apply]
      split <;> rfl
    rw [hids]
    exact h.unique
  · obtain ⟨n', hn', hid, _⟩ := exists_of_mem_modify hn
    rw [hlength, hid]
    exact h.id_lt n' hn'
  · obtain ⟨n', hn', _, hlineage⟩ := exists_of_mem_modify hn
    rw [hlength, hlineage]
    exact h.lineage_lt n' hn'
  · obtain ⟨n', hn', _, hlineage⟩ := exists_of_mem_modify hn
    obtain ⟨m', hm', hid, hlineage'⟩ := exists_of_mem_modify hm
    rw [hid, hlineage, hlineage']
    exact h.nested n' hn' m' hm'

/-! ### Inside -/

/-- A node that is another one or lies below it. -/
def Inside (d : Dom) (scope node : Nat) : Prop := ∃ n ∈ d.subtree scope, n.id = node

theorem inside_iff :
    d.Inside x y ↔ ∃ n ∈ d.nodes, n.id = y ∧ (y = x ∨ x ∈ n.lineage) := by
  constructor
  · rintro ⟨n, hn, rfl⟩
    have hn := List.mem_filter.mp hn
    exact ⟨n, hn.1, rfl, by simpa using hn.2⟩
  · rintro ⟨n, hn, rfl, habove⟩
    exact ⟨n, List.mem_filter.mpr ⟨hn, by simpa using habove⟩, rfl⟩

theorem Inside.self (h : d.Inside x y) : d.Inside y y := by
  obtain ⟨n, hn, hid, _⟩ := inside_iff.mp h
  exact inside_iff.mpr ⟨n, hn, hid, .inl rfl⟩

/-- What is inside something inside a node is inside that node. -/
theorem IsTree.inside_trans (h : d.IsTree) (hxy : d.Inside x y) (hyz : d.Inside y z) :
    d.Inside x z := by
  obtain ⟨m, hm, hmid, hyz⟩ := inside_iff.mp hyz
  rcases hyz with rfl | hyz
  · exact hxy
  · obtain ⟨n, hn, rfl, hxy⟩ := inside_iff.mp hxy
    refine inside_iff.mpr ⟨m, hm, hmid, .inr ?_⟩
    rcases hxy with rfl | hxy
    · exact hyz
    · exact h.nested m hm n hn hyz hxy

/-! ### What cannot be seen -/

theorem IsTree.node?_eq {n : Node} (h : d.IsTree) (hn : n ∈ d.nodes) : d.node? n.id = some n := by
  cases hfind : d.node? n.id with
  | none => exact absurd (List.find?_eq_none.mp hfind n hn) (by simp)
  | some m =>
    have hid : m.id = n.id := by simpa using List.find?_some hfind
    rw [List.inj_on_of_nodup_map h.unique (List.mem_of_find?_eq_some hfind) hn hid]

/-- Around a node that is shown everything is shown. -/
theorem IsTree.isShownAt_of_mem_lineage {m n : Node} (h : d.IsTree) (hm : m ∈ d.nodes)
    (hn : n ∈ d.nodes) (habove : m.id ∈ n.lineage) (hshown : d.isShownAt n = true) :
    d.isShownAt m = true := by
  have hlineage := List.all_eq_true.mp (Bool.and_eq_true_iff.mp hshown).2
  refine Bool.and_eq_true_iff.mpr ⟨?_, List.all_eq_true.mpr fun a ha => ?_⟩
  · simpa [element?, h.node?_eq hm] using hlineage m.id habove
  · exact hlineage a (h.nested n hn m hm habove ha)

/-- What is inside a node that cannot be seen cannot be seen either. -/
theorem IsTree.isVisible_of_inside (h : d.IsTree) (hxy : d.Inside x y) (hx : d.Inside x x)
    (hhidden : d.isVisible x = false) : d.isVisible y = false := by
  obtain ⟨n, hn, rfl, hinside⟩ := inside_iff.mp hxy
  rcases hinside with rfl | habove
  · exact hhidden
  · obtain ⟨m, hm, rfl, -⟩ := inside_iff.mp hx
    rw [isVisible, h.node?_eq hm] at hhidden
    rw [isVisible, h.node?_eq hn, Option.any_some, Bool.eq_false_iff]
    intro hshown
    rw [Option.any_some, h.isShownAt_of_mem_lineage hm hn habove hshown] at hhidden
    exact absurd hhidden.symm Bool.false_ne_true

/-- Nothing is read of a node that cannot be seen. -/
theorem IsTree.visibleTextOf_of_hidden (h : d.IsTree) (hx : d.Inside x x)
    (hhidden : d.isVisible x = false) : d.visibleTextOf x = "" := by
  have hnone : (d.subtree x).filter d.isShownAt = [] := by
    refine List.filter_eq_nil_iff.mpr fun n hn => ?_
    have hid := h.isVisible_of_inside ⟨n, hn, rfl⟩ hx hhidden
    rw [isVisible, h.node?_eq (List.mem_filter.mp hn).1] at hid
    simpa using hid
  rw [visibleTextOf, hnone]
  rfl

/-! ### Locators -/

theorem resolve_within (d : Dom) (l : Locator) (selector : String) :
    d.resolve (l.within selector) =
      if Locator.cleanSelector selector = Locator.scope then d.resolve l
      else d.below (d.resolve l) (Locator.cleanSelector selector) := by
  simp [resolve, Locator.within, resolvePart]

/-- An index keeps one of the nodes that are named without it. -/
theorem resolve_nth (d : Dom) (l : Locator) (i : Nat) :
    d.resolve (l.nth i) = (d.resolve l)[i]?.toList := by
  unfold Locator.nth
  split
  · rename_i selector hlast
    obtain ⟨init, hparts⟩ := List.getLast?_eq_some_iff.mp hlast
    simp [resolve, hparts, resolvePart]
  · simp [resolve, resolvePart]

theorem first?_nth (d : Dom) (l : Locator) (i : Nat) : d.first? (l.nth i) = (d.resolve l)[i]? := by
  rw [first?, resolve_nth]
  cases (d.resolve l)[i]? <;> rfl

theorem inside_of_mem_below {scopes : List Nat} (h : y ∈ d.below scopes selector) :
    ∃ x ∈ scopes, d.Inside x y := by
  obtain ⟨n, hn, rfl⟩ := List.mem_map.mp h
  obtain ⟨hnode, hmatch⟩ := List.mem_filter.mp hn
  obtain ⟨x, hx, hscope⟩ := List.any_eq_true.mp (Bool.and_eq_true_iff.mp hmatch).1
  exact ⟨x, by simpa using hscope, inside_iff.mpr ⟨n, hnode, rfl, .inr hx⟩⟩

/-- What is found in a scope is inside of it. -/
theorem inside_of_mem_within (hx : (d.resolve l)[i]? = some x) (hself : d.Inside x x)
    (h : y ∈ d.resolve ((l.nth i).within selector)) : d.Inside x y := by
  rw [resolve_within, resolve_nth, hx] at h
  split at h
  · obtain rfl := List.mem_singleton.mp h
    exact hself
  · obtain ⟨x', hx', hinside⟩ := inside_of_mem_below h
    obtain rfl := List.mem_singleton.mp hx'
    exact hinside

/-- What is found by more than the scope itself is a node. -/
theorem inside_self_of_mem_within (hselector : Locator.cleanSelector selector ≠ Locator.scope)
    (h : x ∈ d.resolve (l.within selector)) : d.Inside x x := by
  rw [resolve_within, if_neg hselector] at h
  obtain ⟨_, _, hinside⟩ := inside_of_mem_below h
  exact hinside.self

end FlowPilot.Dom
