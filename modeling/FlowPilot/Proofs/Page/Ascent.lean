import FlowPilot.Proofs.Page.Growth
import FlowPilot.Proofs.Text.Runs
import Mathlib.Data.List.Chain
import Mathlib.Data.List.Forall2

/-!
# Ancestors that a selector asks for

The walk up from an element gives each compound the nearest ancestor that meets it and never goes
back. Nothing is lost by that: ancestors that rise from an ancestor rise from everything below it as
well, so a nearer ancestor for one compound leaves more of them for the others.

## Main definitions

* `Dom.Arena.IsAscent`: ancestors that rise from an element and meet compounds.
* `Dom.Arena.IsDescribedBy`: what a selector without commas asks of an element.
* `Selector.Alternative.describes`, `Dom.Arena.describes?`: whether the compounds of an alternative
  match a node, by a search in its lineage and by a walk.

## Main statements

* `Dom.Arena.exists_climb?_iff`: the walk up succeeds if there is an ascent, and only then.
* `Dom.Arena.describes_iff_exists_ascent`: what compounds match has the ancestors that they ask for.
-/

namespace FlowPilot

namespace Selector

/-- Whether the compounds of an alternative match a node of a page: the first of them its element,
the others ancestors of it. -/
def Alternative.describes (s : Alternative) (d : Dom) (n : Dom.Node) : Bool :=
  match s.compounds with
  | [] => false
  | own :: above => compoundHolds own n.element && climbs above (ancestorsBelowRoot d n)

theorem Alternative.matchesNode_eq (s : Alternative) (d : Dom) (n : Dom.Node) :
    s.matchesNode d n = (n.element.labels.contains s.text || s.describes d n) := rfl

/-- The compounds of an alternative are its words, the last one first. Blanks at its ends do not
matter. -/
theorem compounds_alternativeOf (text : List Char) :
    (alternativeOf text).compounds =
      (((Text.words text).filter (· ≠ ['>'])).map compound?).reverse := by
  have hwords : Text.words (Text.dropEndsWhile Text.isBlank text) = Text.words text := by
    have hruns := @Text.runsOf_dropEndsWhile (fun c => !Text.isBlank c) text
    simp only [Bool.not_not] at hruns
    exact hruns
  rw [← hwords]
  rfl

end Selector

namespace Dom.Arena

open Selector

variable {a : Arena} {d : Dom} {f : Forest} {n : Node} {e : Entry} {x y steps : Nat} {b : Bool}
  {c : Option Compound} {cs : List (Option Compound)} {chain : List Nat}

/-! ### Ascents -/

/-- An element meets a compound. -/
def Meets (a : Arena) (x : Nat) (c : Option Compound) : Prop :=
  ∃ e, a.entries[x]? = some e ∧ compoundHolds c e.element = true

/-- Elements of which the first is an ancestor of the element and each other one an ancestor of the
one before it. None of them is the root, and they meet the compounds one for one. -/
structure IsAscent (a : Arena) (x : Nat) (cs : List (Option Compound)) (chain : List Nat) :
    Prop where
  rises : (x :: chain).IsChain fun lower upper => a.IsAbove upper lower
  root_not_mem : root ∉ chain
  meets : List.Forall₂ (fun c y => a.Meets y c) cs chain

theorem isAscent_nil (a : Arena) (x : Nat) : a.IsAscent x [] [] :=
  ⟨.singleton x, List.not_mem_nil, .nil⟩

theorem IsAscent.cons (h : a.IsAscent y cs chain) (habove : a.IsAbove y x) (hne : y ≠ root)
    (hmeets : a.Meets y c) : a.IsAscent x (c :: cs) (y :: chain) where
  rises := h.rises.cons_cons habove
  root_not_mem := List.not_mem_cons_of_ne_of_not_mem hne.symm h.root_not_mem
  meets := h.meets.cons hmeets

theorem IsAscent.cases_cons (h : a.IsAscent x (c :: cs) chain) :
    ∃ y above, chain = y :: above ∧ a.IsAbove y x ∧ y ≠ root ∧ a.Meets y c ∧
      a.IsAscent y cs above := by
  obtain ⟨hrises, hroot, hmeets⟩ := h
  obtain ⟨y, above, hy, habove, rfl⟩ := List.forall₂_cons_left_iff.mp hmeets
  obtain ⟨hxy, hrises⟩ := List.isChain_cons_cons.mp hrises
  have hne : y ≠ root := (List.ne_of_not_mem_cons hroot).symm
  exact ⟨y, above, rfl, hxy, hne, hy, hrises, List.not_mem_of_not_mem_cons hroot, habove⟩

/-- What rises from an ancestor rises from the element too. -/
theorem IsAscent.of_isAbove (h : a.IsAscent y cs chain) (habove : a.IsAbove y x) :
    a.IsAscent x cs chain := by
  obtain ⟨hrises, hroot, hmeets⟩ := h
  refine ⟨?_, hroot, hmeets⟩
  cases chain with
  | nil => exact .singleton x
  | cons z above =>
    obtain ⟨hyz, hrises⟩ := List.isChain_cons_cons.mp hrises
    exact hrises.cons_cons (hyz.trans habove)

/-! ### The walk up -/

/-- A step of the walk: the parent is taken for the compound, or it is passed. -/
theorem climb?_succ {p : Nat} (he : a.entries[p]? = some e) :
    a.climb? (steps + 1) (c :: cs) (some p) =
      a.climb? steps (if p ≠ root ∧ compoundHolds c e.element then cs else c :: cs) e.parent := by
  rw [climb?, he]
  rfl

/-- A walk that has ended ends in the same way if more steps are allowed. -/
theorem climb?_mono {steps' : Nat} {start : Option Nat} (h : a.climb? steps cs start = some b)
    (hle : steps ≤ steps') : a.climb? steps' cs start = some b := by
  induction steps generalizing steps' cs start with
  | zero =>
    cases cs with
    | nil => cases steps' <;> exact h
    | cons c cs =>
      cases start with
      | none => cases steps' <;> exact h
      | some p => exact absurd h (by simp [climb?])
  | succ steps ih =>
    obtain ⟨steps', rfl⟩ := Nat.exists_eq_add_of_le' hle
    cases cs with
    | nil => exact h
    | cons c cs =>
      cases start with
      | none => exact h
      | some p =>
        cases he : a.entries[p]? with
        | none => simp [climb?, he] at h
        | some e =>
          rw [climb?_succ he] at h
          rw [← Nat.add_assoc, climb?_succ he]
          exact ih h (Nat.le_add_left _ _)

/-- The elements that the walk takes are an ascent. -/
theorem exists_ascent_of_climb? (he : a.entries[x]? = some e)
    (h : a.climb? steps cs e.parent = some true) : ∃ chain, a.IsAscent x cs chain := by
  -- The induction is on the steps of the walk; a box that is passed over makes no link of the
  -- chain, but what is above it is above the element too.
  induction steps generalizing x e cs with
  | zero =>
    cases cs with
    | nil => exact ⟨[], isAscent_nil a x⟩
    | cons c cs => cases hparent : e.parent <;> simp [climb?, hparent] at h
  | succ steps ih =>
    cases cs with
    | nil => exact ⟨[], isAscent_nil a x⟩
    | cons c cs =>
      cases hparent : e.parent with
      | none => simp [climb?, hparent] at h
      | some p =>
        have habove : a.IsAbove p x := .single ⟨e, he, hparent⟩
        rw [hparent] at h
        cases hp : a.entries[p]? with
        | none => simp [climb?, hp] at h
        | some up =>
          rw [climb?_succ hp] at h
          by_cases htaken : p ≠ root ∧ compoundHolds c up.element = true
          · rw [if_pos htaken] at h
            obtain ⟨chain, hchain⟩ := ih hp h
            exact ⟨p :: chain, hchain.cons habove htaken.1 ⟨up, hp, htaken.2⟩⟩
          · rw [if_neg htaken] at h
            obtain ⟨chain, hchain⟩ := ih hp h
            exact ⟨chain, hchain.of_isAbove habove⟩

theorem exists_climb?_succ {p : Nat} {up : Entry} (hparent : e.parent = some p)
    (hup : a.entries[p]? = some up)
    (h : ∃ steps, a.climb? steps (if p ≠ root ∧ compoundHolds c up.element then cs else c :: cs)
      up.parent = some true) :
    ∃ steps, a.climb? steps (c :: cs) e.parent = some true := by
  obtain ⟨steps, hwalk⟩ := h
  refine ⟨steps + 1, ?_⟩
  rw [hparent, climb?_succ hup]
  exact hwalk

/-- If there is an ascent, the walk succeeds. The walk may take a nearer element for the first
compound than the ascent does. The rest of the ascent rises from that element as well. -/
theorem exists_climb?_of_ascent (he : a.entries[x]? = some e) (h : a.IsAscent x cs chain) :
    ∃ steps, a.climb? steps cs e.parent = some true := by
  induction cs generalizing x e chain with
  | nil => exact ⟨0, by simp [climb?]⟩
  | cons c cs ih =>
    obtain ⟨y, above, -, habove, hne, hmeets, hascent⟩ := h.cases_cons
    clear h
    -- the walk comes by everything between the element and the first one of the ascent
    induction habove generalizing e with
    | single hparent =>
      obtain ⟨e', he', hparent⟩ := hparent
      obtain rfl := Option.some.inj (he.symm.trans he')
      obtain ⟨up, hup, hholds⟩ := hmeets
      refine exists_climb?_succ hparent hup ?_
      rw [if_pos ⟨hne, hholds⟩]
      exact ih hup hascent
    | @tail p x habove hparent ihAbove =>
      obtain ⟨e', he', hparent⟩ := hparent
      obtain rfl := Option.some.inj (he.symm.trans he')
      obtain ⟨up, hup⟩ := IsAbove.exists_entry habove
      refine exists_climb?_succ hparent hup ?_
      by_cases htaken : p ≠ root ∧ compoundHolds c up.element = true
      · rw [if_pos htaken]
        exact ih hup (hascent.of_isAbove habove)
      · rw [if_neg htaken]
        exact ihAbove hup

/-- The walk up succeeds if there is an ascent, and only then. -/
theorem exists_climb?_iff (he : a.entries[x]? = some e) :
    (∃ steps, a.climb? steps cs e.parent = some true) ↔ ∃ chain, a.IsAscent x cs chain :=
  ⟨fun ⟨_, h⟩ => exists_ascent_of_climb? he h, fun ⟨_, h⟩ => exists_climb?_of_ascent he h⟩

/-! ### Descriptions -/

/-- Whether the compounds of an alternative match an element, walking up at most some steps: the
first of them the element, the others ancestors of it. -/
def describes? (a : Arena) (steps x : Nat) (s : Alternative) : Option Bool := do
  let e ← a.entries[x]?
  match s.compounds with
  | [] => return false
  | own :: above =>
    if compoundHolds own e.element then a.climb? steps above e.parent else return false

/-- What an alternative asks of an element. Of its words, apart from child signs, the last one
describes the element, and those before it, the last one first, describe an ascent. -/
def IsDescribedBy (a : Arena) (x : Nat) (text : String) : Prop :=
  ∃ (earlier : List (List Char)) (own : List Char),
    (Text.words text.toList).filter (· ≠ ['>']) = earlier ++ [own] ∧ a.Meets x (compound? own) ∧
      ∃ chain, a.IsAscent x (earlier.map compound?).reverse chain

theorem isDescribedBy_iff {text : String} :
    a.IsDescribedBy x text ↔ ∃ own above, (alternativeOf text.toList).compounds = own :: above ∧
      a.Meets x own ∧ ∃ chain, a.IsAscent x above chain := by
  rw [IsDescribedBy, compounds_alternativeOf]
  generalize (Text.words text.toList).filter (· ≠ ['>']) = words
  rcases List.eq_nil_or_concat words with rfl | ⟨earlier, own, rfl⟩
  · simp
  · rw [List.concat_eq_append, List.map_append, List.reverse_append]
    constructor
    · rintro ⟨earlier', own', heq, hmeets⟩
      obtain ⟨rfl, hown⟩ := List.append_inj' heq rfl
      obtain rfl := (List.cons.inj hown).1
      exact ⟨_, _, rfl, hmeets⟩
    · rintro ⟨own', above, heq, hmeets⟩
      obtain ⟨rfl, rfl⟩ := List.cons.inj heq
      exact ⟨earlier, own, rfl, hmeets⟩

theorem describes?_eq_true_iff {s : Alternative} :
    a.describes? steps x s = some true ↔ ∃ own above e, s.compounds = own :: above ∧
      a.entries[x]? = some e ∧ compoundHolds own e.element = true ∧
        a.climb? steps above e.parent = some true := by
  rw [describes?]
  cases he : a.entries[x]? with
  | none => simp
  | some e =>
    cases s.compounds with
    | nil => simp
    | cons own above => by_cases hown : compoundHolds own e.element = true <;> simp [hown]

theorem describes?_mono {s : Alternative} {steps' : Nat} (h : a.describes? steps x s = some b)
    (hle : steps ≤ steps') : a.describes? steps' x s = some b := by
  rw [describes?] at h ⊢
  cases he : a.entries[x]? with
  | none => simp [he] at h
  | some e =>
    rw [he] at h
    cases hcompounds : s.compounds with
    | nil => simpa [hcompounds] using h
    | cons own above =>
      by_cases hown : compoundHolds own e.element = true
      · simp only [hcompounds, hown, Option.bind_eq_bind, Option.bind_some, if_true] at h ⊢
        exact climb?_mono h hle
      · simpa [hcompounds, hown] using h

/-- The walk finds an ascent whenever there is one. -/
theorem exists_describes?_iff {text : String} :
    (∃ steps, a.describes? steps x (alternativeOf text.toList) = some true) ↔
      a.IsDescribedBy x text := by
  simp only [describes?_eq_true_iff, isDescribedBy_iff]
  constructor
  · rintro ⟨steps, own, above, e, hcompounds, he, hown, hwalk⟩
    exact ⟨own, above, hcompounds, ⟨e, he, hown⟩, (exists_climb?_iff he).mp ⟨steps, hwalk⟩⟩
  · rintro ⟨own, above, hcompounds, ⟨e, he, hown⟩, hascent⟩
    obtain ⟨steps, hwalk⟩ := (exists_climb?_iff he).mpr hascent
    exact ⟨steps, own, above, e, hcompounds, he, hown, hwalk⟩

/-- The walk ends, and finds what the search in the lineage finds. -/
theorem Keeps.describes?_eq (h : a.Keeps d f) (hn : n ∈ d.nodes) (s : Alternative) :
    a.describes? a.size n.id s = some (s.describes d n) := by
  obtain ⟨c, -, hentry, -⟩ := h.exists_entry hn
  obtain ⟨⟨-, hline⟩, hlength⟩ := h.isLine hn
  have hclimb := hline.climb?_eq (Nat.le_of_succ_le hlength)
  rw [describes?, hentry, Alternative.describes]
  cases s.compounds with
  | nil => rfl
  | cons own above =>
    cases hown : compoundHolds own n.element <;>
      simp [hown, hclimb, h.element?_eq, ancestorsBelowRoot]

theorem Keeps.describes_iff (h : a.Keeps d f) (hn : n ∈ d.nodes) (text : String) :
    (alternativeOf text.toList).describes d n = true ↔ a.IsDescribedBy n.id text := by
  have hends := h.describes?_eq hn (alternativeOf text.toList)
  rw [← exists_describes?_iff]
  constructor
  · intro hdescribes
    exact ⟨a.size, hdescribes ▸ hends⟩
  · rintro ⟨steps, hwalk⟩
    -- with enough steps for both, the two walks are one
    have hboth := describes?_mono hends (Nat.le_max_left a.size steps)
    rw [describes?_mono hwalk (Nat.le_max_right a.size steps)] at hboth
    exact (Option.some.inj hboth).symm

/-- The walk up takes the nearest ancestor for each compound and never goes back. Still it succeeds
on every page, also on one whose parents make a circle, if the element meets the last compound and
ancestors for the others rise from it, and only then. On pages as they come about the walk ends
within as many steps as there are elements, and the search in the lineage, which together with the
labels decides whether an alternative matches, finds the same. -/
theorem describes_iff_exists_ascent (a : Arena) (text : String) :
    let s := alternativeOf text.toList
    (∀ x, (∃ steps, a.describes? steps x s = some true) ↔ a.IsDescribedBy x text) ∧
      ∀ d, Grown a d → ∀ n ∈ d.nodes,
        s.matchesNode d n = (n.element.labels.contains s.text || s.describes d n) ∧
          a.describes? a.size n.id s = some (s.describes d n) ∧
          (s.describes d n = true ↔ a.IsDescribedBy n.id text) := by
  intro s
  refine ⟨fun x => exists_describes?_iff, fun d hgrown n hn => ?_⟩
  obtain ⟨f, hkeeps⟩ := hgrown.exists_keeps
  exact ⟨s.matchesNode_eq d n, hkeeps.describes?_eq hn s, hkeeps.describes_iff hn text⟩

/-- Three boxes inside each other, of which the outer and the inner one are marked, and a label in
the inner one. The walk takes the inner box for the box around the label, where an ascent through
the box in the middle would do as well. The root is no ancestor that could be asked for. -/
theorem describes_iff_exists_ascent_boxes :
    let marked : Element := { tag := "div", classes := ["a"] }
    let additions : List Addition :=
      [⟨0, marked⟩, ⟨1, { tag := "div" }⟩, ⟨2, marked⟩, ⟨3, { tag := "span" }⟩]
    let a := (Arena.built additions).modify 2 fun e => { e with hidden := true }
    let d := (Dom.built additions).modify 2 fun e => { e with hidden := true }
    let n : Node := ⟨4, [3, 2, 1, 0], { tag := "span" }⟩
    let s := alternativeOf " .a > div\tspan".toList
    n ∈ d.nodes ∧ Grown a d ∧ a.IsAscent 4 [compound? "div".toList, compound? ".a".toList] [2, 1] ∧
      s.describes d n = true ∧ (∃ steps, a.describes? steps 4 s = some true) ∧
      ¬ a.IsDescribedBy 4 "html span" := by
  intro marked additions a d n s
  have hn : n ∈ d.nodes := by decide
  have hgrown : Grown a d := (grown_built (by decide)).modify _ _
  have hascent : a.IsAscent 4 [compound? "div".toList, compound? ".a".toList] [2, 1] := by
    have hmiddle : a.IsAbove 2 4 := .tail (.single ⟨_, rfl, rfl⟩) ⟨_, rfl, rfl⟩
    have houter : a.IsAscent 2 [compound? ".a".toList] [1] :=
      (isAscent_nil a 1).cons (.single ⟨_, rfl, rfl⟩) (by decide) ⟨_, rfl, by decide⟩
    exact houter.cons hmiddle (by decide) ⟨_, rfl, by decide⟩
  have hdescribed : a.IsDescribedBy 4 " .a > div\tspan" :=
    ⟨[".a".toList, "div".toList], "span".toList, by decide, ⟨_, rfl, by decide⟩, _, hascent⟩
  obtain ⟨hwalks, hpages⟩ := describes_iff_exists_ascent a " .a > div\tspan"
  obtain ⟨-, -, hdescribes⟩ := hpages d hgrown n hn
  obtain ⟨-, hroot⟩ := describes_iff_exists_ascent a "html span"
  obtain ⟨-, -, hasked⟩ := hroot d hgrown n hn
  refine ⟨hn, hgrown, hascent, hdescribes.mpr hdescribed, (hwalks 4).mpr hdescribed, ?_⟩
  rw [← hasked]
  decide

end Dom.Arena

end FlowPilot
