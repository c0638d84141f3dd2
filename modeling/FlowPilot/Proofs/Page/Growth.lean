import FlowPilot.Proofs.Page.Walks

/-!
# Pages as they come about

A page begins with nothing but a root. Elements are added below elements that are there, and what is
known of an element changes while the element stays in its place. After any number of such steps the
arena and the list of nodes still hold the same tree.

## Main definitions

* `Dom.Arena.modify`: another element in the place of one.
* `Dom.Arena.Grown`: an arena and a list of nodes that came about by the same steps.

## Main statements

* `Dom.Arena.Grown.exists_keeps`: pages that came about by the same steps hold the same tree.
-/

namespace FlowPilot.Dom

variable {a : Arena} {d : Dom} {f : Forest} {lineage : List Nat} {parent : Option Nat} {p x : Nat}
  {element : Element} {change : Element → Element}

/-! ### Changes in place -/

namespace Forest

def modify (x : Nat) (change : Element → Element) : Forest → Forest
  | nil => nil
  | cons i e below beside =>
    cons i (if i = x then change e else e) (below.modify x change) (beside.modify x change)

theorem tops_modify (f : Forest) : (f.modify x change).tops = f.tops := by
  induction f with
  | nil => rfl
  | cons i e below beside _ ih => rw [modify, tops, tops, ih]

theorem ids_modify (f : Forest) : (f.modify x change).ids = f.ids := by
  induction f with
  | nil => rfl
  | cons i e below beside ihBelow ihBeside => rw [modify, ids, ids, ihBelow, ihBeside]

theorem nodes_modify (f : Forest) (lineage : List Nat) :
    (f.modify x change).nodes lineage =
      (f.nodes lineage).map fun n =>
        if n.id = x then { n with element := change n.element } else n := by
  induction f generalizing lineage with
  | nil => rfl
  | cons i e below beside ihBelow ihBeside =>
    rw [modify, nodes, nodes, ihBelow, ihBeside, List.map_cons, List.map_append]
    by_cases hi : i = x <;> simp [hi]

end Forest

theorem IsShapedBy.modify (h : d.IsShapedBy f) :
    (d.modify x change).IsShapedBy (f.modify x change) where
  nodes_eq := by rw [Dom.modify, h.nodes_eq, Forest.nodes_modify]
  ids_perm := by
    rw [Forest.ids_modify, Dom.modify, List.length_map]
    exact h.ids_perm

namespace Arena

def modify (a : Arena) (x : Nat) (change : Element → Element) : Arena :=
  ⟨a.entries.modify x fun n => { n with element := change n.element }⟩

theorem size_modify (a : Arena) : (a.modify x change).size = a.size := by
  simp [size, modify]

/-- A change is recorded, and parents and children stay. -/
theorem Records.modify (h : a.Records parent f) :
    (a.modify x change).Records parent (f.modify x change) := by
  induction f generalizing parent with
  | nil => trivial
  | cons i e below beside ihBelow ihBeside =>
    obtain ⟨hentry, hbelow, hbeside⟩ := h
    refine ⟨?_, ihBelow hbelow, ihBeside hbeside⟩
    rw [Arena.modify, List.getElem?_modify, hentry, Forest.tops_modify]
    by_cases hi : i = x
    · simp [hi]
    · simp [hi, Ne.symm hi]

/-! ### Steps -/

/-- An arena and a list of nodes that came about by the same steps: elements were added below
elements that were there, and elements changed in their places. -/
inductive Grown : Arena → Dom → Prop
  | empty : Grown Arena.empty Dom.empty
  | add {a : Arena} {d : Dom} {p : Nat} (h : Grown a d) (hp : p < a.size) (element : Element) :
    Grown (a.add p element) (d.add p element)
  | modify {a : Arena} {d : Dom} (h : Grown a d) (x : Nat) (change : Element → Element) :
    Grown (a.modify x change) (d.modify x change)

theorem keeps_empty : empty.Keeps Dom.empty (shape []) :=
  @keeps_built [] fun _ hi => absurd hi (Nat.not_lt_zero _)

theorem Keeps.add (h : a.Keeps d f) (hp : p < a.size) (element : Element) :
    (a.add p element).Keeps (d.add p element) (f.addUnder p a.size element) := by
  have hsize : f.ids.length = a.size := h.shaped.length_ids.trans h.size_eq.symm
  have hshaped := h.shaped.add (a := ⟨p, element⟩) (h.size_eq ▸ hp)
  rw [hsize] at hshaped
  have hids : ∀ x ∈ f.ids, x < a.size := fun x hx => by
    rw [h.size_eq]
    exact h.shaped.mem_ids_iff.mp hx
  refine ⟨hshaped, h.records.add h.shaped.fresh.unique hids hp, ?_⟩
  have hmem : p ∈ f.ids := h.shaped.mem_ids_iff.mpr (h.size_eq ▸ hp)
  rw [size_add, ← hshaped.length_ids,
    (Forest.ids_addUnder h.shaped.fresh.unique hmem).length_eq, List.length_cons, hsize]

theorem Keeps.modify (h : a.Keeps d f) (x : Nat) (change : Element → Element) :
    (a.modify x change).Keeps (d.modify x change) (f.modify x change) where
  shaped := h.shaped.modify
  records := h.records.modify
  size_eq := by
    rw [size_modify, h.size_eq, Dom.modify, List.length_map]

/-- Pages that came about by the same steps hold the same tree. -/
theorem Grown.exists_keeps (h : Grown a d) : ∃ f, a.Keeps d f := by
  induction h with
  | empty => exact ⟨_, keeps_empty⟩
  | add _ hp element ih =>
    obtain ⟨f, hf⟩ := ih
    exact ⟨_, hf.add hp element⟩
  | modify _ x change ih =>
    obtain ⟨f, hf⟩ := ih
    exact ⟨_, hf.modify x change⟩

theorem grown_built {additions : List Addition} (h : ParentsExist additions) :
    Grown (built additions) (Dom.built additions) := by
  induction additions using List.reverseRecOn with
  | nil => exact .empty
  | append_singleton additions x ih =>
    rw [built_append, Dom.built_append]
    refine (ih h.init).add ?_ x.element
    rw [(records_built h.init).2]
    exact Nat.lt_succ_of_le h.last

end Arena

end FlowPilot.Dom
