import FlowPilot.Proofs.Page.Tree
import Mathlib.Data.List.Induction

/-!
# Pages as forests

A page is built by adding last children to nodes that are there. Whatever the order of the
additions, its nodes are those of a tree, each in front of what lies below it.

## Main definitions

* `Dom.Forest`: siblings, each with what lies below it.
* `Dom.Forest.nodes`: the nodes of a forest in document order.
* `Dom.Forest.Holds`: a node of a forest and what lies below it.
* `Dom.Addition`, `Dom.built`: a page that is built by additions.

## Main statements

* `Dom.Forest.insertUnder_nodes`: a last child in the list of nodes is a last child in the forest.
* `Dom.Forest.Holds.exists_split`: what lies below a node is a stretch of the list of nodes.
* `Dom.Forest.mem_lineage_of_between`: what stands between a node and one that lies below it lies
  below it too.
* `Dom.isShapedBy_built`: pages that are built are shaped by a forest.
-/

namespace FlowPilot.Dom

/-- Siblings, each with what lies below it. -/
inductive Forest
  | nil
  | cons (id : Nat) (element : Element) (below beside : Forest)

namespace Forest

variable {f c : Forest} {lineage : List Nat} {n k m : Node} {x parent id : Nat}
  {element : Element}

def tops : Forest → List Nat
  | nil => []
  | cons id _ _ beside => id :: beside.tops

def ids : Forest → List Nat
  | nil => []
  | cons id _ below beside => id :: (below.ids ++ beside.ids)

/-- The nodes in document order, below some ancestors. -/
def nodes (lineage : List Nat) : Forest → List Node
  | nil => []
  | cons id element below beside =>
    ⟨id, lineage, element⟩ :: (below.nodes (id :: lineage) ++ beside.nodes lineage)

/-- One more sibling behind the others. -/
def snoc (id : Nat) (element : Element) : Forest → Forest
  | nil => cons id element nil nil
  | cons i e below beside => cons i e below (beside.snoc id element)

/-- A last child for the node with a number. -/
def addUnder (parent id : Nat) (element : Element) : Forest → Forest
  | nil => nil
  | cons i e below beside =>
    if i = parent then cons i e (below.snoc id element) beside
    else cons i e (below.addUnder parent id element) (beside.addUnder parent id element)

/-! ### Siblings -/

theorem map_id_nodes (f : Forest) (lineage : List Nat) : (f.nodes lineage).map (·.id) = f.ids := by
  induction f generalizing lineage with
  | nil => rfl
  | cons i e below beside ihBelow ihBeside => simp [nodes, ids, ihBelow, ihBeside]

theorem tops_snoc (f : Forest) (id : Nat) (element : Element) :
    (f.snoc id element).tops = f.tops ++ [id] := by
  induction f with
  | nil => rfl
  | cons i e below beside _ ih => simp [snoc, tops, ih]

theorem nodes_snoc (f : Forest) (id : Nat) (element : Element) (lineage : List Nat) :
    (f.snoc id element).nodes lineage = f.nodes lineage ++ [⟨id, lineage, element⟩] := by
  induction f with
  | nil => rfl
  | cons i e below beside _ ih => simp [snoc, nodes, ih]

theorem ids_snoc (f : Forest) (id : Nat) (element : Element) :
    (f.snoc id element).ids = f.ids ++ [id] := by
  rw [← map_id_nodes _ [], nodes_snoc, List.map_append, map_id_nodes]
  rfl

/-! ### Lineages -/

/-- Above a node of a forest are the ancestors of the forest and nodes of the forest. -/
theorem mem_of_mem_lineage (hn : n ∈ f.nodes lineage) (hx : x ∈ n.lineage) :
    x ∈ f.ids ∨ x ∈ lineage := by
  induction f generalizing lineage with
  | nil => simp [nodes] at hn
  | cons i e below beside ihBelow ihBeside =>
    simp only [nodes, List.mem_cons, List.mem_append] at hn
    simp only [ids, List.mem_cons, List.mem_append]
    rcases hn with rfl | hn | hn
    · exact .inr hx
    · have := ihBelow hn
      simp only [List.mem_cons] at this
      tauto
    · have := ihBeside hn
      tauto

/-- The ancestors of a forest are above all its nodes. -/
theorem subset_lineage (hn : n ∈ f.nodes lineage) : lineage ⊆ n.lineage := by
  induction f generalizing lineage with
  | nil => simp [nodes] at hn
  | cons i e below beside ihBelow ihBeside =>
    simp only [nodes, List.mem_cons, List.mem_append] at hn
    rcases hn with rfl | hn | hn
    · exact List.Subset.refl _
    · exact List.Subset.trans (List.subset_cons_self i lineage) (ihBelow hn)
    · exact ihBeside hn

/-! ### Last children -/

theorem addUnder_of_not_mem (hparent : parent ∉ f.ids) : f.addUnder parent id element = f := by
  induction f with
  | nil => rfl
  | cons i e below beside ihBelow ihBeside =>
    simp only [ids, List.mem_cons, List.mem_append, not_or] at hparent
    rw [addUnder, if_neg (Ne.symm hparent.1), ihBelow hparent.2.1, ihBeside hparent.2.2]

theorem tops_addUnder (f : Forest) (parent id : Nat) (element : Element) :
    (f.addUnder parent id element).tops = f.tops := by
  induction f with
  | nil => rfl
  | cons i e below beside _ ih =>
    rw [addUnder]
    split
    · rfl
    · rw [tops, tops, ih]

/-- Nothing is put behind nodes among which the parent is not. -/
theorem insertUnder_append_of_not_mem {before after : List Node}
    (hparent : parent ∉ before.map (·.id)) :
    insertUnder parent id element (before ++ after) =
      before ++ insertUnder parent id element after := by
  induction before with
  | nil => rfl
  | cons n rest ih =>
    simp only [List.map_cons, List.mem_cons, not_or] at hparent
    rw [List.cons_append, insertUnder, if_neg (Ne.symm hparent.1), ih hparent.2, List.cons_append]

/-- Where a class has no member behind some point, its first run ends before that point. -/
theorem run_append_of_none {p : Node → Bool} {after : List Node} (before : List Node)
    (hafter : ∀ n ∈ after, p n = false) :
    (before ++ after).takeWhile p = before.takeWhile p ∧
      (before ++ after).dropWhile p = before.dropWhile p ++ after := by
  induction before with
  | nil =>
    cases after with
    | nil => exact ⟨rfl, rfl⟩
    | cons n after => simp [hafter n List.mem_cons_self]
  | cons n before ih => by_cases hn : p n <;> simp [hn, ih]

/-- Nodes that are not below the parent stay behind those among which the parent is. -/
theorem insertUnder_append_of_mem {before after : List Node}
    (hparent : parent ∈ before.map (·.id)) (hafter : ∀ n ∈ after, parent ∉ n.lineage) :
    insertUnder parent id element (before ++ after) =
      insertUnder parent id element before ++ after := by
  induction before with
  | nil => simp at hparent
  | cons n rest ih =>
    rw [List.cons_append, insertUnder, insertUnder]
    by_cases hid : n.id = parent
    · have hnone : ∀ k ∈ after, (k.lineage.contains parent) = false := by simpa using hafter
      obtain ⟨htake, hdrop⟩ := run_append_of_none rest hnone
      rw [if_pos hid, if_pos hid, htake, hdrop]
      simp
    · simp only [List.map_cons, List.mem_cons, Ne.symm hid, false_or] at hparent
      rw [if_neg hid, if_neg hid, ih hparent, List.cons_append]

/-- Behind a node, a last child comes after all that lies below the node. -/
theorem insertUnder_own {e : Element} {below beside : Forest}
    (hbeside : ∀ n ∈ beside.nodes lineage, parent ∉ n.lineage) :
    insertUnder parent id element ((cons parent e below beside).nodes lineage) =
      (cons parent e (below.snoc id element) beside).nodes lineage := by
  have hall : ∀ n ∈ below.nodes (parent :: lineage), (n.lineage.contains parent) = true :=
    fun n hn => List.contains_iff_mem.mpr (subset_lineage hn List.mem_cons_self)
  have hnone : ∀ n ∈ beside.nodes lineage, (n.lineage.contains parent) = false := by
    simpa using hbeside
  obtain ⟨htake, hdrop⟩ := run_append_of_none [] hnone
  rw [List.nil_append] at htake hdrop
  rw [nodes, insertUnder, if_pos rfl, List.takeWhile_append_of_pos hall,
    List.dropWhile_append_of_pos hall, htake, hdrop, nodes, nodes_snoc]
  simp

/-- A last child in the list of nodes is a last child in the forest. -/
theorem insertUnder_nodes (hunique : f.ids.Nodup) (hparent : parent ∉ lineage) :
    insertUnder parent id element (f.nodes lineage) =
      (f.addUnder parent id element).nodes lineage := by
  induction f generalizing lineage with
  | nil => rfl
  | cons i e below beside ihBelow ihBeside =>
    simp only [ids, List.nodup_cons, List.mem_append, not_or, List.nodup_append] at hunique
    obtain ⟨⟨-, hiBeside⟩, hbelow, hbeside, hdisjoint⟩ := hunique
    rw [addUnder]
    by_cases hid : i = parent
    · subst hid
      rw [if_pos rfl]
      exact insertUnder_own fun n hn hmem => (mem_of_mem_lineage hn hmem).elim hiBeside hparent
    · have hlineage : parent ∉ i :: lineage := by
        simp only [List.mem_cons, not_or]
        exact ⟨Ne.symm hid, hparent⟩
      rw [if_neg hid, nodes, insertUnder, if_neg hid, nodes]
      congr 1
      -- the parent is on one side only, and the new node stays on that side
      by_cases hin : parent ∈ below.ids
      · have hout : parent ∉ beside.ids := fun hmem => hdisjoint parent hin parent hmem rfl
        rw [addUnder_of_not_mem hout, ← ihBelow hbelow hlineage]
        refine insertUnder_append_of_mem (by rwa [map_id_nodes]) fun n hn hmem => ?_
        exact (mem_of_mem_lineage hn hmem).elim hout hparent
      · rw [addUnder_of_not_mem hin, ← ihBeside hbeside hparent]
        exact insertUnder_append_of_not_mem (by rwa [map_id_nodes])

/-- A last child is one more number. -/
theorem ids_addUnder (hunique : f.ids.Nodup) (hparent : parent ∈ f.ids) :
    (f.addUnder parent id element).ids.Perm (id :: f.ids) := by
  induction f with
  | nil => simp [ids] at hparent
  | cons i e below beside ihBelow ihBeside =>
    simp only [ids, List.nodup_cons, List.mem_append, not_or, List.nodup_append] at hunique
    obtain ⟨-, hbelow, hbeside, hdisjoint⟩ := hunique
    rw [addUnder]
    by_cases hid : i = parent
    · rw [if_pos hid, ids, ids_snoc, ids]
      refine ((List.perm_append_right_iff _).mpr List.perm_append_comm).cons i |>.trans ?_
      exact List.Perm.swap _ _ _
    · rw [if_neg hid, ids, ids]
      refine List.Perm.trans (List.Perm.cons i ?_) (List.Perm.swap _ _ _)
      simp only [ids, List.mem_cons, Ne.symm hid, List.mem_append, false_or] at hparent
      -- Numbers are unique, so the parent is in one of the two parts alone.
      rcases hparent with hin | hin
      · have hout : parent ∉ beside.ids := fun hmem => hdisjoint parent hin parent hmem rfl
        rw [addUnder_of_not_mem hout]
        exact (ihBelow hbelow hin).append_right _
      · have hout : parent ∉ below.ids := fun hmem => hdisjoint parent hmem parent hin rfl
        rw [addUnder_of_not_mem hout]
        exact ((ihBeside hbeside hin).append_left _).trans List.perm_middle

/-! ### What lies below a node -/

/-- All numbers of a forest differ, from each other and from those above the forest. -/
structure Fresh (lineage : List Nat) (f : Forest) : Prop where
  unique : f.ids.Nodup
  new : ∀ x ∈ f.ids, x ∉ lineage

variable {below beside : Forest} {i : Nat} {e : Element}

theorem Fresh.parts (h : Fresh lineage (cons i e below beside)) :
    i ∉ lineage ∧ Fresh (i :: lineage) below ∧ Fresh (i :: lineage) beside ∧
      ∀ x ∈ below.ids, x ∉ beside.ids := by
  obtain ⟨hunique, hnew⟩ := h
  simp only [ids, List.nodup_cons, List.nodup_append, List.mem_append, not_or, List.mem_cons]
    at hunique hnew
  obtain ⟨⟨hiBelow, hiBeside⟩, hbelow, hbeside, hdisjoint⟩ := hunique
  refine ⟨hnew i (.inl rfl), ⟨hbelow, fun x hx hmem => ?_⟩, ⟨hbeside, fun x hx hmem => ?_⟩,
    fun x hx hmem => hdisjoint x hx x hmem rfl⟩
  · exact (List.mem_cons.mp hmem).elim (fun heq => hiBelow (heq ▸ hx)) (hnew x (.inr (.inl hx)))
  · exact (List.mem_cons.mp hmem).elim (fun heq => hiBeside (heq ▸ hx)) (hnew x (.inr (.inr hx)))

theorem Fresh.of_below (h : Fresh lineage (cons i e below beside)) : Fresh (i :: lineage) below :=
  h.parts.2.1

theorem Fresh.of_beside (h : Fresh lineage (cons i e below beside)) : Fresh lineage beside :=
  ⟨h.parts.2.2.1.unique, fun x hx hmem =>
    h.parts.2.2.1.new x hx (List.mem_cons_of_mem _ hmem)⟩

/-- A node that is one of the first siblings or below it is above nothing beside it. -/
theorem Fresh.not_mem_beside (h : Fresh lineage (cons i e below beside))
    (hx : x = i ∨ x ∈ below.ids) (hm : m ∈ beside.nodes lineage) : x ∉ m.lineage := by
  obtain ⟨hi, hbelow, hbeside, hdisjoint⟩ := h.parts
  intro hmem
  have habove := mem_of_mem_lineage hm hmem
  rcases hx with rfl | hx
  · exact habove.elim (fun hin => hbeside.new x hin List.mem_cons_self) hi
  · exact habove.elim (hdisjoint x hx) fun hin => hbelow.new x hx (List.mem_cons_of_mem _ hin)

/-- A node beside the first sibling is above nothing below that. -/
theorem Fresh.not_mem_below (h : Fresh lineage (cons i e below beside)) (hx : x ∈ beside.ids)
    (hm : m ∈ below.nodes (i :: lineage)) : x ∉ m.lineage := by
  obtain ⟨-, -, hbeside, hdisjoint⟩ := h.parts
  intro hmem
  exact (mem_of_mem_lineage hm hmem).elim (fun hin => hdisjoint x hin hx) (hbeside.new x hx)

/-- A node of a forest, and what lies below the node. -/
inductive Holds : List Nat → Forest → Node → Forest → Prop
  | here {lineage : List Nat} {i : Nat} {e : Element} {below beside : Forest} :
    Holds lineage (cons i e below beside) ⟨i, lineage, e⟩ below
  | inside {lineage : List Nat} {i : Nat} {e : Element} {below beside c : Forest} {n : Node} :
    Holds (i :: lineage) below n c → Holds lineage (cons i e below beside) n c
  | aside {lineage : List Nat} {i : Nat} {e : Element} {below beside c : Forest} {n : Node} :
    Holds lineage beside n c → Holds lineage (cons i e below beside) n c

theorem exists_holds (hn : n ∈ f.nodes lineage) : ∃ c, Holds lineage f n c := by
  induction f generalizing lineage with
  | nil => simp [nodes] at hn
  | cons i e below beside ihBelow ihBeside =>
    simp only [nodes, List.mem_cons, List.mem_append] at hn
    rcases hn with rfl | hn | hn
    · exact ⟨below, .here⟩
    · obtain ⟨c, hc⟩ := ihBelow hn
      exact ⟨c, .inside hc⟩
    · obtain ⟨c, hc⟩ := ihBeside hn
      exact ⟨c, .aside hc⟩

theorem Holds.mem (h : Holds lineage f n c) : n ∈ f.nodes lineage := by
  induction h with
  | here => exact List.mem_cons_self
  | inside _ ih => exact List.mem_cons_of_mem _ (List.mem_append_left _ ih)
  | aside _ ih => exact List.mem_cons_of_mem _ (List.mem_append_right _ ih)

theorem mem_ids (hn : n ∈ f.nodes lineage) : n.id ∈ f.ids := by
  rw [← map_id_nodes f lineage]
  exact List.mem_map_of_mem hn

/-- What lies below a node follows it, and nothing else lies below it. -/
theorem Holds.exists_split (h : Holds lineage f n c) (hfresh : Fresh lineage f) :
    ∃ before after, f.nodes lineage = before ++ n :: (c.nodes (n.id :: n.lineage) ++ after) ∧
      (∀ m ∈ before ++ [n], n.id ∉ m.lineage) ∧ ∀ m ∈ after, n.id ∉ m.lineage := by
  -- What stands before and behind the part that holds the node has other lineages, since numbers
  -- are fresh.
  induction h with
  | @here lineage i e below beside =>
    refine ⟨[], _, rfl, ?_, fun m hm => hfresh.not_mem_beside (.inl rfl) hm⟩
    exact List.forall_mem_singleton.mpr (hfresh.new i List.mem_cons_self)
  | @inside lineage i e below beside c n hc ih =>
    obtain ⟨before, after, hnodes, hbefore, hafter⟩ := ih hfresh.of_below
    have hid := mem_ids hc.mem
    refine ⟨⟨i, lineage, e⟩ :: before, after ++ beside.nodes lineage, ?_, ?_, ?_⟩
    · simp [nodes, hnodes]
    · exact List.forall_mem_cons.mpr ⟨fun hmem => hfresh.of_below.new n.id hid
        (List.mem_cons_of_mem _ hmem), hbefore⟩
    · exact List.forall_mem_append.mpr ⟨hafter, fun m hm => hfresh.not_mem_beside (.inr hid) hm⟩
  | @aside lineage i e below beside c n hc ih =>
    obtain ⟨before, after, hnodes, hbefore, hafter⟩ := ih hfresh.of_beside
    have hid := mem_ids hc.mem
    refine ⟨⟨i, lineage, e⟩ :: (below.nodes (i :: lineage) ++ before), after, ?_, ?_, hafter⟩
    · simp [nodes, hnodes]
    · rw [List.cons_append, List.append_assoc]
      refine List.forall_mem_cons.mpr ⟨hfresh.of_beside.new n.id hid,
        List.forall_mem_append.mpr ⟨fun m hm => hfresh.not_mem_below hid hm, hbefore⟩⟩

theorem Holds.fresh (h : Holds lineage f n c) (hfresh : Fresh lineage f) :
    Fresh (n.id :: n.lineage) c := by
  induction h with
  | here => exact hfresh.of_below
  | inside _ ih => exact ih hfresh.of_below
  | aside _ ih => exact ih hfresh.of_beside

/-- No more nodes are above a node than there are in the forest and above it. -/
theorem Holds.length_lineage_lt (h : Holds lineage f n c) :
    n.lineage.length < f.ids.length + lineage.length := by
  induction h with
  | here => simp only [ids, List.length_cons, List.length_append]; omega
  | inside _ ih => simp only [ids, List.length_cons, List.length_append] at ih ⊢; omega
  | aside _ ih => simp only [ids, List.length_cons, List.length_append] at ih ⊢; omega

/-- What stands below a node in its lineage is among what lies below it. -/
theorem Holds.mem_nodes (h : Holds lineage f n c) (hfresh : Fresh lineage f)
    (hm : m ∈ f.nodes lineage) (habove : n.id ∈ m.lineage) :
    m ∈ c.nodes (n.id :: n.lineage) := by
  obtain ⟨before, after, hnodes, hbefore, hafter⟩ := h.exists_split hfresh
  rw [hnodes] at hm
  simp only [List.mem_append, List.mem_cons] at hm hbefore
  rcases hm with hm | rfl | hm | hm
  · exact absurd habove (hbefore m (.inl hm))
  · exact absurd habove (hbefore m (.inr (.inl rfl)))
  · exact hm
  · exact absurd habove (hafter m hm)

/-! ### Parents and children -/

theorem tops_sublist (f : Forest) : f.tops.Sublist f.ids := by
  induction f with
  | nil => exact List.Sublist.slnil
  | cons i e below beside _ ih => exact (ih.trans (List.sublist_append_right _ _)).cons_cons i

/-- Siblings have the same ancestors, and every other node has a parent in the forest. -/
theorem lineage_cases (hn : n ∈ f.nodes lineage) :
    n.id ∈ f.tops ∧ n.lineage = lineage ∨ ∃ y ∈ f.ids, n.lineage.head? = some y := by
  induction f generalizing lineage with
  | nil => simp [nodes] at hn
  | cons i e below beside ihBelow ihBeside =>
    simp only [nodes, List.mem_cons, List.mem_append] at hn
    simp only [ids, tops, List.mem_cons, List.mem_append]
    rcases hn with rfl | hn | hn
    · exact .inl ⟨.inl rfl, rfl⟩
    · rcases ihBelow hn with ⟨-, hlineage⟩ | ⟨y, hy, hhead⟩
      · exact .inr ⟨i, .inl rfl, by rw [hlineage, List.head?_cons]⟩
      · exact .inr ⟨y, .inr (.inl hy), hhead⟩
    · rcases ihBeside hn with ⟨htop, hlineage⟩ | ⟨y, hy, hhead⟩
      · exact .inl ⟨.inr htop, hlineage⟩
      · exact .inr ⟨y, .inr (.inr hy), hhead⟩

theorem exists_of_mem_tops (hx : x ∈ f.tops) :
    ∃ n ∈ f.nodes lineage, n.id = x ∧ n.lineage = lineage := by
  induction f with
  | nil => simp [tops] at hx
  | cons i e below beside _ ih =>
    rcases List.mem_cons.mp hx with rfl | hx
    · exact ⟨_, List.mem_cons_self, rfl, rfl⟩
    · obtain ⟨n, hn, hid, hlineage⟩ := ih hx
      exact ⟨n, List.mem_cons_of_mem _ (List.mem_append_right _ hn), hid, hlineage⟩

/-! ### Document order -/

/-- Three nodes in a row are in one of two lists, or the first and the last are apart. -/
theorem sublist_append_cases {s t : List Node} (h : [k, n, m].Sublist (s ++ t)) :
    [k, n, m].Sublist s ∨ k ∈ s ∧ m ∈ t ∨ [k, n, m].Sublist t := by
  obtain ⟨front, back, hsplit, hfront, hback⟩ := List.sublist_append_iff.mp h
  rcases front with _ | ⟨a, front⟩
  · rw [List.nil_append] at hsplit
    exact .inr (.inr (hsplit ▸ hback))
  obtain ⟨rfl, hsplit⟩ := List.cons.inj hsplit
  rcases List.eq_nil_or_concat back with rfl | ⟨back, b, rfl⟩
  · rw [List.append_nil] at hsplit
    exact .inl (hsplit ▸ hfront)
  · have hlast := congrArg List.getLast? hsplit
    rw [List.concat_eq_append, ← List.append_assoc, List.getLast?_concat] at hlast
    obtain rfl := Option.some.inj hlast
    exact .inr (.inl ⟨hfront.subset List.mem_cons_self, hback.subset (by simp)⟩)

/-- What stands between a node and one that lies below it lies below it too. -/
theorem mem_lineage_of_between (hfresh : Fresh lineage f)
    (hsub : [k, n, m].Sublist (f.nodes lineage)) (habove : k.id ∈ m.lineage) :
    k.id ∈ n.lineage := by
  induction f generalizing lineage with
  | nil => simp [nodes] at hsub
  | cons i e below beside ihBelow ihBeside =>
    rcases sublist_append_cases (s := ⟨i, lineage, e⟩ :: below.nodes (i :: lineage)) hsub with
      hsub | ⟨hk, hm⟩ | hsub
    · cases hsub with
      | cons _ hsub => exact ihBelow hfresh.of_below hsub
      | cons_cons _ hsub =>
        exact subset_lineage (hsub.subset List.mem_cons_self) List.mem_cons_self
    · have hid : k.id = i ∨ k.id ∈ below.ids :=
        (List.mem_cons.mp hk).imp (congrArg Node.id) mem_ids
      exact absurd habove (hfresh.not_mem_beside hid hm)
    · exact ihBeside hfresh.of_beside hsub

end Forest

/-! ### Pages that are built -/

/-- A new last child for a node. -/
structure Addition where
  parent : Nat
  element : Element

/-- A page that is built by additions, beginning with nothing but a root. -/
def built (additions : List Addition) : Dom :=
  additions.foldl (fun d a => d.add a.parent a.element) empty

/-- Every parent is there when its child is added: before the addition at an index there are the
root and one node for each earlier addition. -/
def ParentsExist (additions : List Addition) : Prop :=
  ∀ i (h : i < additions.length), additions[i].parent ≤ i

instance (additions : List Addition) : Decidable (ParentsExist additions) :=
  inferInstanceAs (Decidable (∀ i (h : i < additions.length), additions[i].parent ≤ i))

/-- The tree that additions make. -/
def shape (additions : List Addition) : Forest :=
  additions.foldl (fun f a => f.addUnder a.parent f.ids.length a.element)
    (.cons root { tag := "html" } .nil .nil)

/-- The nodes of a page are those of a forest, numbered without gaps. -/
structure IsShapedBy (d : Dom) (f : Forest) : Prop where
  nodes_eq : d.nodes = f.nodes []
  ids_perm : f.ids.Perm (List.range d.nodes.length)

variable {d : Dom} {f : Forest} {x : Nat} {additions : List Addition} {a : Addition}

theorem built_append (additions : List Addition) (a : Addition) :
    built (additions ++ [a]) = (built additions).add a.parent a.element := by
  rw [built, built, List.foldl_concat]

theorem shape_append (additions : List Addition) (a : Addition) :
    shape (additions ++ [a]) =
      (shape additions).addUnder a.parent (shape additions).ids.length a.element := by
  rw [shape, shape, List.foldl_concat]

/-- The tree that additions make has the root alone at its top. -/
theorem exists_shape (additions : List Addition) :
    ∃ below, shape additions = .cons root { tag := "html" } below .nil := by
  induction additions using List.reverseRecOn with
  | nil => exact ⟨.nil, rfl⟩
  | append_singleton additions a ih =>
    obtain ⟨below, hshape⟩ := ih
    rw [shape_append, hshape, Forest.addUnder]
    split
    · exact ⟨_, rfl⟩
    · exact ⟨_, rfl⟩

theorem IsShapedBy.length_ids (h : d.IsShapedBy f) : f.ids.length = d.nodes.length := by
  rw [h.ids_perm.length_eq, List.length_range]

theorem IsShapedBy.mem_ids_iff (h : d.IsShapedBy f) : x ∈ f.ids ↔ x < d.nodes.length := by
  rw [h.ids_perm.mem_iff, List.mem_range]

theorem IsShapedBy.fresh (h : d.IsShapedBy f) : f.Fresh [] :=
  ⟨h.ids_perm.nodup_iff.mpr List.nodup_range, fun _ _ => List.not_mem_nil⟩

theorem IsShapedBy.map_id (h : d.IsShapedBy f) : d.nodes.map (·.id) = f.ids := by
  rw [h.nodes_eq, Forest.map_id_nodes]

theorem isShapedBy_empty : empty.IsShapedBy (shape []) := ⟨rfl, by decide⟩

/-- Adding a last child keeps a page shaped by a forest. -/
theorem IsShapedBy.add (h : d.IsShapedBy f) (hparent : a.parent < d.nodes.length) :
    (d.add a.parent a.element).IsShapedBy (f.addUnder a.parent f.ids.length a.element) := by
  have hnodes : (d.add a.parent a.element).nodes =
      (f.addUnder a.parent f.ids.length a.element).nodes [] := by
    rw [Dom.add, h.length_ids, h.nodes_eq,
      Forest.insertUnder_nodes h.fresh.unique List.not_mem_nil]
  have hids : (f.addUnder a.parent f.ids.length a.element).ids.Perm (f.ids.length :: f.ids) :=
    Forest.ids_addUnder h.fresh.unique (h.mem_ids_iff.mpr hparent)
  have hlength : (d.add a.parent a.element).nodes.length = d.nodes.length + 1 := by
    rw [hnodes, ← h.length_ids, ← List.length_map (f := Node.id), Forest.map_id_nodes,
      hids.length_eq, List.length_cons]
  refine ⟨hnodes, ?_⟩
  rw [hlength, List.range_succ, ← h.length_ids]
  refine hids.trans (((h.length_ids ▸ h.ids_perm).cons _).trans ?_)
  exact (List.perm_append_singleton _ _).symm

theorem ParentsExist.init (h : ParentsExist (additions ++ [a])) : ParentsExist additions := by
  intro i hi
  have hparent := h i (by rw [List.length_append]; omega)
  rwa [List.getElem_append_left hi] at hparent

theorem ParentsExist.last (h : ParentsExist (additions ++ [a])) : a.parent ≤ additions.length := by
  simpa using h additions.length (by simp)

/-- Pages that are built are shaped by the tree of their additions. -/
theorem isShapedBy_built (h : ParentsExist additions) :
    (built additions).IsShapedBy (shape additions) ∧
      (built additions).nodes.length = additions.length + 1 := by
  induction additions using List.reverseRecOn with
  | nil => exact ⟨isShapedBy_empty, rfl⟩
  | append_singleton additions a ih =>
    obtain ⟨hshaped, hlength⟩ := ih h.init
    have hadd := hshaped.add (a := a) (by rw [hlength]; exact Nat.lt_succ_of_le h.last)
    rw [built_append, shape_append]
    refine ⟨hadd, ?_⟩
    rw [← hadd.length_ids, (Forest.ids_addUnder hshaped.fresh.unique
      (hshaped.mem_ids_iff.mpr (by rw [hlength]; exact Nat.lt_succ_of_le h.last))).length_eq]
    simp [hshaped.length_ids, hlength]

end FlowPilot.Dom
