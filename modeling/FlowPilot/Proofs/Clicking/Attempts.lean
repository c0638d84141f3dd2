import FlowPilot.Proofs.Clicking.Calls
import FlowPilot.Proofs.Clicking.Choice
import Mathlib.Data.List.Basic

/-!
# When a search tries to click

A search looks at the elements of its candidates in order, and it tries to click an element as soon
as that reads as visible and enabled. Until then it only reads, so it is known from the page and
from the readings that fail whether anything is tried. A number of elements that cannot be read
counts as none, an element whose visibility cannot be read as hidden, and one of which it cannot be
read whether it is enabled as enabled.

## Main definitions

* `Page.attempts`, `Page.NothingTried`: how many clicks were tried on a page.
* `Clicking.lookedAt`: the elements that a search looks at.
* `Clicking.ReadsReady`: an element that reads as visible and enabled.

## Main statements

* `Clicking.clickAny_tries_nothing_iff`: a search tries no click exactly if no element reads as
  ready.
-/

namespace FlowPilot

/-- How many clicks were tried on a page, in whatever way and whether they were accepted or not. -/
def Page.attempts (p : Page) : Nat :=
  p.interference.callsOf .click + p.interference.callsOf .jsClick +
    p.interference.callsOf .dispatchClick

/-- Pages between which no click was tried. -/
def Page.NothingTried (p q : Page) : Prop := q.attempts = p.attempts

instance : IsPreorder Page Page.NothingTried where
  refl _ := rfl
  trans _ _ _ h h' := Eq.trans h' h

namespace Clicking

open Act Page

variable {α : Type} {p q r : Page} {candidate : Locator} {candidates : List Locator}

/-! ### Counting attempts -/

/-- No attempt is taken back. -/
def Tries (p q : Page) : Prop := p.attempts ≤ q.attempts

instance : IsPreorder Page Tries where
  refl _ := Nat.le_refl _
  trans _ _ _ := Nat.le_trans

theorem attempts_of_isCallOf {op : Operation} {act : Act Page α} (hact : IsCallOf op act)
    (p : Page) :
    (act.after p).attempts =
      p.attempts + if op = .click ∨ op = .jsClick ∨ op = .dispatchClick then 1 else 0 := by
  unfold attempts
  rw [hact p, callsOf_counted, callsOf_counted, callsOf_counted]
  cases op <;> simp <;> omega

theorem attempts_clickOfKind (kind : ClickKind) (target : Locator) (p : Page) :
    ((clickOfKind kind target).after p).attempts = p.attempts + 1 := by
  rw [attempts_of_isCallOf (clickOfKind_isCallOf kind target)]
  cases kind <;> rfl

theorem firstAccepted_tries (target : Locator) (kinds : List ClickKind) :
    Moves Tries (firstAccepted target kinds) := by
  induction kinds with
  | nil => exact Moves.pure none
  | cons kind kinds ih =>
    have hclick : Moves Tries (succeeds (clickOfKind kind target)) := by
      intro p
      rw [succeeds_apply]
      show p.attempts ≤ _
      rw [attempts_clickOfKind]
      omega
    exact hclick.bind fun _ => Moves.ite (Moves.pure _) ih

/-- An element that is clicked in some ways is clicked at least once. -/
theorem attempts_lt_firstAccepted (target : Locator) (kind : ClickKind) (kinds : List ClickKind)
    (p : Page) : p.attempts < (firstAccepted target (kind :: kinds) p).2.attempts := by
  have hclick := attempts_clickOfKind kind target p
  rw [firstAccepted, bind_apply, succeeds_apply]
  split
  · show p.attempts < ((clickOfKind kind target).after p).attempts
    omega
  · have hrest := firstAccepted_tries target kinds ((clickOfKind kind target).after p)
    refine Nat.lt_of_lt_of_le ?_ hrest
    omega

theorem attempts_scrollTo (target : Locator) (p : Page) :
    ((scrollTo target).after p).attempts = p.attempts :=
  attempts_of_isCallOf (scrollTo_isCallOf target) p

theorem attempts_lt_scrollAndClick (target : Locator) (p : Page) :
    p.attempts < (scrollAndClick target p).2.attempts := by
  rw [scrollAndClick, bind_apply, attempt_snd, ← attempts_scrollTo target p]
  exact attempts_lt_firstAccepted target _ _ _

/-! ### Readings -/

/-- Pages of which the second one was only read besides: so many numbers of elements, and so many
elements. -/
structure Looked (counts looks : Nat) (p q : Page) : Prop where
  alike : Alike p q
  count : q.interference.callsOf .count = p.interference.callsOf .count + counts
  isVisible : q.interference.callsOf .isVisible = p.interference.callsOf .isVisible + looks
  isEnabled : q.interference.callsOf .isEnabled = p.interference.callsOf .isEnabled + looks
  attempts : q.attempts = p.attempts

theorem Looked.refl (p : Page) : Looked 0 0 p p := ⟨refl_of Alike p, rfl, rfl, rfl, rfl⟩

theorem Looked.trans {counts counts' looks looks' : Nat} (h : Looked counts looks p q)
    (h' : Looked counts' looks' q r) : Looked (counts + counts') (looks + looks') p r where
  alike := trans_of Alike h.alike h'.alike
  count := by rw [h'.count, h.count, Nat.add_assoc]
  isVisible := by rw [h'.isVisible, h.isVisible, Nat.add_assoc]
  isEnabled := by rw [h'.isEnabled, h.isEnabled, Nat.add_assoc]
  attempts := h'.attempts.trans h.attempts

theorem Looked.strikes {counts looks : Nat} (h : Looked counts looks p q) :
    q.interference.strikes = p.interference.strikes := by
  obtain ⟨calls, rfl⟩ := h.alike
  rfl

theorem looked_count (target : Locator) (n : Nat) (p : Page) :
    Looked 1 0 p ((count target).orUse n p).2 := by
  have hcall := count_isCallOf target p
  rw [orUse_snd]
  refine ⟨count_alike target p, ?_, ?_, ?_, attempts_of_isCallOf (count_isCallOf target) p⟩
  all_goals
    rw [hcall, callsOf_counted]
    rfl

theorem looked_isReady (target : Locator) (p : Page) : Looked 0 1 p (isReady target p).2 := by
  have hvisible := isVisible_isCallOf target
  have henabled := isEnabled_isCallOf target
  have hafter : (isReady target p).2 = (isEnabled target).after ((isVisible target).after p) := by
    rw [isReady, bind_apply, bind_apply, orUse_snd, orUse_snd]
    rfl
  have hattempts : (isReady target p).2.attempts = p.attempts := by
    rw [hafter, attempts_of_isCallOf henabled, attempts_of_isCallOf hvisible]
    rfl
  refine ⟨isReady_alike target p, ?_, ?_, ?_, hattempts⟩
  all_goals
    rw [hafter, henabled, hvisible, callsOf_counted, callsOf_counted]
    rfl

/-- An element reads as visible and enabled when it is looked at after `looks` others. -/
def ReadsReady (p : Page) (looks : Nat) (node : Nat) : Prop :=
  p.interference.strikes .isVisible (p.interference.callsOf .isVisible + looks) = false ∧
    p.dom.isVisible node = true ∧
      (p.interference.strikes .isEnabled (p.interference.callsOf .isEnabled + looks) = true ∨
        isEnabledAt p.dom node = true)

theorem Looked.readsReady_iff {counts looks : Nat} (h : Looked counts looks p q)
    (more node : Nat) : ReadsReady q more node ↔ ReadsReady p (looks + more) node := by
  unfold ReadsReady
  rw [h.strikes, h.isVisible, h.isEnabled, h.alike.dom, Nat.add_assoc, Nat.add_assoc]

theorem isEnabled_orUse_fst (target : Locator) (absent : Bool) (p : Page) :
    ((isEnabled target).orUse absent p).1 =
      if p.interference.strikesNext .isEnabled then absent
      else ((p.dom.first? target).map (isEnabledAt p.dom)).getD absent := by
  rw [orUse_fst, isEnabled, result_operation]
  cases hstrikes : p.interference.strikesNext .isEnabled
  · cases hnode : p.dom.first? target <;>
      simp [demandElement, demandNode, hnode, refuse, isEnabledAt, Except.map]
  · rfl

/-- The element at an index of a candidate is the next one that is looked at. -/
theorem isReady_iff (candidate : Locator) (i : Nat) (p : Page) :
    (isReady (candidate.nth i) p).1 = true ↔
      ∃ node, (p.dom.resolve candidate)[i]? = some node ∧ ReadsReady p 0 node := by
  have hcalls : ((isVisible (candidate.nth i)).after p).interference.strikesNext .isEnabled =
      p.interference.strikesNext .isEnabled := by
    rw [Interference.strikesNext, isVisible_isCallOf, callsOf_counted]
    rfl
  have hread : (isReady (candidate.nth i) p).1 =
      (((isVisible (candidate.nth i)).orUse false p).1 &&
        ((isEnabled (candidate.nth i)).orUse true
          ((isVisible (candidate.nth i)).after p)).1) := by
    rw [isReady, bind_apply, bind_apply, orUse_snd]
    rfl
  rw [hread, isVisible_orUse_fst, isEnabled_orUse_fst, hcalls,
    (isVisible_alike (candidate.nth i) p).dom, Dom.first?_nth]
  unfold ReadsReady Interference.strikesNext
  cases (p.dom.resolve candidate)[i]? with
  | none => simp
  | some node => simp [and_assoc]

/-! ### Searches -/

/-- The elements that a search looks at, if it clicks none of them: those of every candidate whose
number can be read. The numbers are read by the calls from `call` on. -/
def lookedFrom (p : Page) (call : Nat) (candidates : List Locator) : List Nat :=
  (candidates.zipIdx call).flatMap fun (candidate, call) =>
    if p.interference.strikes .count call then [] else p.dom.resolve candidate

/-- The elements that a search looks at, if it clicks none of them. -/
def lookedAt (p : Page) (candidates : List Locator) : List Nat :=
  lookedFrom p (p.interference.callsOf .count) candidates

/-- One of some elements reads as visible and enabled when it is its turn. -/
def SomeReady (p : Page) (nodes : List Nat) : Prop :=
  ∃ looks node, nodes[looks]? = some node ∧ ReadsReady p looks node

/-- A search over some elements tries to click if one of them reads as ready. Otherwise it finds
nothing and only looks at all of them. -/
def Seeks (p : Page) (nodes : List Nat) (counts : Nat) (found : Option α × Page) : Prop :=
  SomeReady p nodes ∧ p.attempts < found.2.attempts ∨
    ¬SomeReady p nodes ∧ found.1 = none ∧ Looked counts nodes.length p found.2

theorem Looked.someReady_iff {counts looks : Nat} (h : Looked counts looks p q)
    {before nodes : List Nat} (hbefore : before.length = looks) (hnone : ¬SomeReady p before) :
    SomeReady p (before ++ nodes) ↔ SomeReady q nodes := by
  subst hbefore
  constructor
  · rintro ⟨k, node, hnode, hready⟩
    -- what was looked at before is not ready, so the element comes later
    rcases Nat.lt_or_ge k before.length with hk | hk
    · rw [List.getElem?_append_left hk] at hnode
      exact absurd ⟨k, node, hnode, hready⟩ hnone
    · rw [List.getElem?_append_right hk] at hnode
      refine ⟨_, node, hnode, (h.readsReady_iff _ _).mpr ?_⟩
      rwa [Nat.add_sub_cancel' hk]
  · rintro ⟨k, node, hnode, hready⟩
    refine ⟨before.length + k, node, ?_, (h.readsReady_iff _ _).mp hready⟩
    rw [List.getElem?_append_right (Nat.le_add_right _ _), Nat.add_sub_cancel_left]
    exact hnode

/-- A search that goes on after it looked at some elements in vain. -/
theorem Seeks.after {counts counts' : Nat} {nodes : List Nat} {found : Option α × Page}
    (before : List Nat) (hlooked : Looked counts before.length p q) (hnone : ¬SomeReady p before)
    (h : Seeks q nodes counts' found) : Seeks p (before ++ nodes) (counts + counts') found := by
  unfold Seeks
  rw [hlooked.someReady_iff rfl hnone, List.length_append, ← hlooked.attempts]
  rcases h with h | ⟨hnot, hnothing, hrest⟩
  · exact .inl h
  · exact .inr ⟨hnot, hnothing, hlooked.trans hrest⟩

theorem not_someReady_nil (p : Page) : ¬SomeReady p [] := by
  rintro ⟨k, node, hnode, -⟩
  simp at hnode

theorem someReady_singleton_iff {node : Nat} : SomeReady p [node] ↔ ReadsReady p 0 node := by
  constructor
  · rintro ⟨k, node', hnode, hready⟩
    obtain ⟨rfl, rfl⟩ : k = 0 ∧ node = node' := by
      cases k <;> simp_all
    exact hready
  · exact fun hready => ⟨0, node, rfl, hready⟩

/-! ### Candidates -/

/-- What was tried stays tried, whatever comes next. -/
theorem attempts_lt_bind {β : Type} {m : StateM Page α} {f : α → StateM Page β}
    (hm : p.attempts < (m p).2.attempts) (hf : ∀ a, Moves Tries (f a)) :
    p.attempts < ((m >>= f) p).2.attempts :=
  Nat.lt_of_lt_of_le hm (hf _ _)

theorem isReady_tries (target : Locator) : Moves Tries (isReady target) :=
  fun p => Nat.le_of_eq (looked_isReady target p).attempts.symm

theorem scrollAndClick_tries (target : Locator) : Moves Tries (scrollAndClick target) :=
  fun p => Nat.le_of_lt (attempts_lt_scrollAndClick target p)

theorem tryElements_tries (candidate : Locator) (indices : List Nat) :
    Moves Tries (tryElements candidate indices) := by
  induction indices with
  | nil => exact Moves.pure none
  | cons i rest ih =>
    refine (isReady_tries _).bind fun ready => Moves.ite ?_ ih
    refine (scrollAndClick_tries _).bind fun
      | some kind => Moves.pure _
      | none => ih

theorem tryCandidates_tries (candidates : List Locator) :
    Moves Tries (tryCandidates candidates) := by
  induction candidates with
  | nil => exact Moves.pure none
  | cons candidate rest ih =>
    have hcount : Moves Tries ((count candidate).orUse 0) :=
      fun p => Nat.le_of_eq (looked_count candidate 0 p).attempts.symm
    refine hcount.bind fun n => (tryElements_tries candidate _).bind fun
      | some outcome => Moves.pure _
      | none => ih

theorem tryElements_cons (candidate : Locator) (i : Nat) (rest : List Nat) (p : Page) :
    tryElements candidate (i :: rest) p =
      if (isReady (candidate.nth i) p).1 then
        (scrollAndClick (candidate.nth i) >>= fun
          | some kind => pure (some ⟨candidate.toText, i, kind⟩)
          | none => tryElements candidate rest) (isReady (candidate.nth i) p).2
      else tryElements candidate rest (isReady (candidate.nth i) p).2 := by
  rw [tryElements, bind_apply]
  split <;> rfl

theorem tryElements_seeks (candidate : Locator) (indices : List Nat) (p : Page)
    (hindices : ∀ i ∈ indices, i < (p.dom.resolve candidate).length) :
    Seeks p (indices.filterMap fun i => (p.dom.resolve candidate)[i]?) 0
      (tryElements candidate indices p) := by
  induction indices generalizing p with
  | nil => exact .inr ⟨not_someReady_nil p, rfl, .refl p⟩
  | cons i rest ih =>
    obtain ⟨node, hnode⟩ : ∃ node, (p.dom.resolve candidate)[i]? = some node :=
      ⟨_, List.getElem?_eq_getElem (hindices i List.mem_cons_self)⟩
    have hlooked := looked_isReady (candidate.nth i) p
    have hready : (isReady (candidate.nth i) p).1 = true ↔ ReadsReady p 0 node := by
      rw [isReady_iff, hnode]
      simp
    rw [tryElements_cons, List.filterMap_cons_some hnode]
    by_cases hnow : (isReady (candidate.nth i) p).1 = true
    · rw [if_pos hnow]
      refine .inl ⟨⟨0, node, rfl, hready.mp hnow⟩, ?_⟩
      have hclicked := attempts_lt_scrollAndClick (candidate.nth i)
        (isReady (candidate.nth i) p).2
      rw [← hlooked.attempts]
      refine attempts_lt_bind hclicked fun
        | some kind => Moves.pure _
        | none => tryElements_tries candidate rest
    · rw [if_neg hnow]
      have hrest := ih (isReady (candidate.nth i) p).2 (by
        rw [hlooked.alike.dom]
        exact fun j hj => hindices j (List.mem_cons_of_mem _ hj))
      rw [hlooked.alike.dom] at hrest
      -- An element that is not ready costs looks, but no attempt to click.
      exact .after [node] hlooked (by rwa [someReady_singleton_iff, ← hready]) hrest

theorem filterMap_range_getElem? {β : Type} (l : List β) :
    (List.range l.length).filterMap (fun i => l[i]?) = l := by
  induction l with
  | nil => rfl
  | cons a l ih =>
    rw [List.length_cons, List.range_succ_eq_map, List.filterMap_cons, List.filterMap_map]
    exact congrArg (a :: ·) ih

theorem lookedFrom_cons (p : Page) (call : Nat) (candidate : Locator) (rest : List Locator) :
    lookedFrom p call (candidate :: rest) =
      (if p.interference.strikes .count call then [] else p.dom.resolve candidate) ++
        lookedFrom p (call + 1) rest := by
  rw [lookedFrom, List.zipIdx_cons, List.flatMap_cons]
  rfl

theorem Looked.lookedFrom {counts looks : Nat} (h : Looked counts looks p q) (call : Nat)
    (candidates : List Locator) : lookedFrom q call candidates = lookedFrom p call candidates := by
  unfold Clicking.lookedFrom
  rw [h.strikes, h.alike.dom]

/-- A search over candidates tries to click exactly if an element reads as ready. -/
theorem tryCandidates_seeks (candidates : List Locator) (p : Page) :
    Seeks p (lookedAt p candidates) candidates.length (tryCandidates candidates p) := by
  induction candidates generalizing p with
  | nil => exact .inr ⟨not_someReady_nil p, rfl, .refl p⟩
  | cons candidate rest ih =>
    have hcount := looked_count candidate 0 p
    -- a number that cannot be read is taken for zero, and no element is looked at
    have hnumber : ((count candidate).orUse 0 p).1 =
        (if p.interference.strikesNext .count then [] else p.dom.resolve candidate).length := by
      rw [count_orUse_fst]
      split <;> rfl
    generalize hnodes : (if p.interference.strikesNext .count then [] else
      p.dom.resolve candidate) = nodes at hnumber
    have helements : Seeks ((count candidate).orUse 0 p).2 nodes 0
        (tryElements candidate (List.range nodes.length) ((count candidate).orUse 0 p).2) := by
      cases hstrikes : p.interference.strikesNext .count with
      | true =>
        obtain rfl : [] = nodes := by rw [← hnodes, hstrikes]; rfl
        exact .inr ⟨not_someReady_nil _, rfl, .refl _⟩
      | false =>
        obtain rfl : p.dom.resolve candidate = nodes := by rw [← hnodes, hstrikes]; rfl
        have h := tryElements_seeks candidate (List.range (p.dom.resolve candidate).length)
          ((count candidate).orUse 0 p).2
        rw [hcount.alike.dom, filterMap_range_getElem?] at h
        exact h fun i hi => List.mem_range.mp hi
    have hall : lookedAt p (candidate :: rest) =
        nodes ++ lookedFrom p (p.interference.callsOf .count + 1) rest := by
      rw [lookedAt, lookedFrom_cons, ← hnodes]
      rfl
    rw [hall, tryCandidates, bind_apply, hnumber, List.length_cons,
      Nat.add_comm rest.length 1]
    -- reading the number tries nothing, so the search begins with the elements
    suffices hsearch : Seeks ((count candidate).orUse 0 p).2
        (nodes ++ lookedFrom p (p.interference.callsOf .count + 1) rest) rest.length _ from
      .after [] hcount (not_someReady_nil p) hsearch
    rcases helements with ⟨⟨looks, node, hnode, hready⟩, htried⟩ | ⟨hnone, hnothing, hlooked⟩
    · have hlt : looks < nodes.length := (List.getElem?_eq_some_iff.mp hnode).1
      refine .inl ⟨⟨looks, node, ?_, hready⟩, ?_⟩
      · rw [List.getElem?_append_left hlt]
        exact hnode
      · refine attempts_lt_bind htried fun found => ?_
        cases found with
        | some outcome => exact Moves.pure _
        | none => exact tryCandidates_tries rest
    · have hrest := ih (tryElements candidate (List.range nodes.length)
        ((count candidate).orUse 0 p).2).2
      rw [lookedAt, hlooked.count, hcount.count, (hcount.trans hlooked).lookedFrom] at hrest
      rw [bind_apply, hnothing, ← Nat.zero_add rest.length]
      exact .after nodes hlooked hnone hrest

theorem after_clickAny (step : String) (candidates : List Locator) (p : Page) :
    (clickAny step candidates).after p = (tryCandidates candidates p).2 := by
  cases hfound : (tryCandidates candidates p).1 <;>
    simp [clickAny, clickWithFallback, tryFallbacks, hfound]

/-- A search without fallbacks tries no click exactly if no element reads as ready. -/
theorem clickAny_tries_nothing_iff (step : String) (candidates : List Locator) (p : Page) :
    NothingTried p ((clickAny step candidates).after p) ↔
      ¬SomeReady p (lookedAt p candidates) := by
  rw [after_clickAny]
  rcases tryCandidates_seeks candidates p with ⟨hready, htried⟩ | ⟨hnone, -, hlooked⟩
  · exact iff_of_false (Nat.ne_of_gt htried) (not_not_intro hready)
  · exact iff_of_true hlooked.attempts hnone

end Clicking

end FlowPilot
