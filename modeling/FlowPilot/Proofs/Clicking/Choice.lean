import FlowPilot.Proofs.Clicking

/-!
# Which element is clicked

Without interference a search clicks the first element, candidate by candidate and in the order in
which a candidate names its elements, that is visible, enabled and accepts some kind of click, and
it clicks in the gentlest way that the element accepts. Fallbacks are clicked if there is no such
element, whether they are visible or not. What is skipped or refuses leaves the elements as they
are, so the choice can be told from the page before the search.

## Main definitions

* `Clicking.gentlest?`: the gentlest kind of click that a node accepts.
* `Clicking.Clickable`: a visible and enabled element with the click that it accepts.
* `Clicking.FirstCandidate`, `Clicking.FirstFallback`: the outcomes of the search.

## Main statements

* `Clicking.clickWithFallback_chooses_first`: the outcome of a search without interference.
-/

namespace FlowPilot.Clicking

open Act Page

variable {p q : Page} {dom : Dom} {candidate : Locator} {i : Nat} {kind : ClickKind}

/-! ### The choice -/

/-- Whether a node refuses a kind of click. -/
def refuses (dom : Dom) (node : Nat) (kind : ClickKind) : Bool :=
  ((dom.element? node).map (·.refused.contains kind)).getD false

/-- Whether a node is enabled. -/
def isEnabledAt (dom : Dom) (node : Nat) : Bool :=
  !((dom.element? node).getD { tag := "" }).disabled

/-- The gentlest kind of click that a node accepts. -/
def gentlest? (dom : Dom) (node : Nat) : Option ClickKind :=
  [.direct, .programmatic, .dispatched].find? fun kind => !refuses dom node kind

/-- The element at an index of a candidate is visible and enabled and accepts a click, and the
gentlest one that it accepts is of a kind. -/
def Clickable (dom : Dom) (candidate : Locator) (i : Nat) (kind : ClickKind) : Prop :=
  ∃ node, (dom.resolve candidate)[i]? = some node ∧ dom.isVisible node = true ∧
    isEnabledAt dom node = true ∧ gentlest? dom node = some kind

/-- The first element of a fallback accepts a click, and the gentlest one that it accepts is of a
kind. -/
def Fallback.Accepts (dom : Dom) (fallback : Fallback) (kind : ClickKind) : Prop :=
  ∃ node, dom.first? fallback.target = some node ∧ gentlest? dom node = some kind

/-- No element of any candidate is clickable. -/
def NoCandidate (dom : Dom) (candidates : List Locator) : Prop :=
  ∀ c ∈ candidates, ∀ i kind, ¬Clickable dom c i kind

/-- No fallback accepts a click. -/
def NoFallback (dom : Dom) (fallbacks : List Fallback) : Prop :=
  ∀ f ∈ fallbacks, ∀ kind, ¬f.Accepts dom kind

/-- The first element that is clickable: it belongs to the first candidate that has one, and is the
first one of it. -/
def FirstCandidate (dom : Dom) (candidates : List Locator) (outcome : Outcome) : Prop :=
  ∃ before candidate after, candidates = before ++ candidate :: after ∧
    outcome.target = candidate.toText ∧ Clickable dom candidate outcome.index outcome.kind ∧
    NoCandidate dom before ∧ ∀ i < outcome.index, ∀ kind, ¬Clickable dom candidate i kind

/-- The first fallback that accepts a click. -/
def FirstFallback (dom : Dom) (fallbacks : List Fallback) (outcome : Outcome) : Prop :=
  ∃ before fallback after, fallbacks = before ++ fallback :: after ∧
    outcome.target = fallback.label ∧ outcome.index = 0 ∧ fallback.Accepts dom outcome.kind ∧
    NoFallback dom before

/-! ### Looking without interference -/

theorem isEnabled_orUse_of_calm (hcalm : p.Calm) (target : Locator) (absent : Bool) :
    ((isEnabled target).orUse absent p).1 =
      ((p.dom.first? target).map (isEnabledAt p.dom)).getD absent := by
  rw [orUse_fst, isEnabled, result_operation, hcalm.strikesNext]
  cases hnode : p.dom.first? target <;>
    simp [demandElement, demandNode, hnode, refuse, isEnabledAt, Except.map]

theorem isReady_of_calm (hcalm : p.Calm) (target : Locator) :
    (isReady target p).1 =
      (p.dom.first? target).any fun node => p.dom.isVisible node && isEnabledAt p.dom node := by
  have hlook := isVisible_alike target p
  rw [isReady, bind_apply, bind_apply, orUse_snd, isEnabled_orUse_of_calm (hlook.calm hcalm),
    isVisible_orUse_fst, hcalm.strikesNext, if_neg Bool.false_ne_true, hlook.dom]
  cases p.dom.first? target <;> rfl

theorem clicked_fst (p : Page) (kind : ClickKind) (target : Locator) (node : Nat) :
    (p.clicked kind target node).1 = !refuses p.dom node kind := by
  unfold Page.clicked
  split
  · rename_i hrefuses
    rw [refuses, hrefuses]
    rfl
  · rename_i haccepts
    rw [refuses, Bool.eq_false_iff.mpr haccepts]
    rfl

theorem isOk_clickOfKind_of_calm (hcalm : p.Calm) (kind : ClickKind) (target : Locator) :
    ((clickOfKind kind target).result p).isOk =
      (p.dom.first? target).any fun node => !refuses p.dom node kind := by
  obtain ⟨op, name, fault, heq⟩ := clickOfKind_eq kind target
  rw [heq, result_operation, hcalm.strikesNext]
  cases hnode : p.dom.first? target with
  | none => simp [demandNode, hnode, refuse, Except.isOk, Except.toBool]
  | some node =>
    cases hrefuses : refuses p.dom node kind <;>
      simp [demandNode, hnode, result_clickNode, clicked_fst, hrefuses, Except.isOk, Except.toBool]

/-! ### Searching without interference -/

theorem firstAccepted_of_calm (hcalm : p.Calm) (target : Locator) (kinds : List ClickKind) :
    (firstAccepted target kinds p).1 =
      (p.dom.first? target).bind fun node => kinds.find? fun kind => !refuses p.dom node kind := by
  induction kinds generalizing p with
  | nil => cases p.dom.first? target <;> rfl
  | cons kind kinds ih =>
    have hok := isOk_clickOfKind_of_calm hcalm kind target
    rw [firstAccepted, bind_apply, succeeds_apply]
    rcases clickOfKind_cases kind target p with ⟨hfails, hunclicked⟩ | ⟨haccepted, -⟩
    -- A refused click leaves the elements as they were, so the next kind meets the same node.
    · rw [hfails] at hok ⊢
      rw [if_neg Bool.false_ne_true, ih (hunclicked.calm hcalm), hunclicked.dom]
      cases hnode : p.dom.first? target with
      | none => rfl
      | some node =>
        rw [hnode] at hok
        rw [Option.bind_some, Option.bind_some, List.find?_cons_of_neg]
        exact Bool.eq_false_iff.mp hok.symm
    · rw [haccepted] at hok ⊢
      rw [if_pos rfl]
      cases hnode : p.dom.first? target with
      | none =>
        rw [hnode] at hok
        exact absurd hok.symm Bool.false_ne_true
      | some node =>
        rw [hnode] at hok
        rw [Option.bind_some, List.find?_cons_of_pos]
        · rfl
        · exact hok.symm

theorem scrollAndClick_of_calm (hcalm : p.Calm) (target : Locator) :
    (scrollAndClick target p).1 = (p.dom.first? target).bind (gentlest? p.dom) := by
  have hscroll := scrollTo_unclicked target p
  rw [scrollAndClick, bind_apply, attempt_snd, firstAccepted_of_calm (hscroll.calm hcalm),
    hscroll.dom]
  rfl

/-- The click on an element of a candidate, if it is clickable. -/
def clickOf? (dom : Dom) (candidate : Locator) (i : Nat) : Option ClickKind :=
  (dom.resolve candidate)[i]?.bind fun node =>
    if dom.isVisible node && isEnabledAt dom node then gentlest? dom node else none

theorem clickable_iff : Clickable dom candidate i kind ↔ clickOf? dom candidate i = some kind := by
  simp [Clickable, clickOf?, Option.bind_eq_some_iff, and_assoc]

theorem clickOf?_eq (dom : Dom) (candidate : Locator) (i : Nat) :
    clickOf? dom candidate i =
      if (dom.first? (candidate.nth i)).any fun node =>
          dom.isVisible node && isEnabledAt dom node
      then (dom.first? (candidate.nth i)).bind (gentlest? dom) else none := by
  rw [clickOf?, Dom.first?_nth]
  cases (dom.resolve candidate)[i]? <;> rfl

theorem tryElements_of_calm (hcalm : p.Calm) (candidate : Locator) (indices : List Nat) :
    (tryElements candidate indices p).1 =
      indices.findSome? fun i =>
        (clickOf? p.dom candidate i).map (⟨candidate.toText, i, ·⟩) := by
  induction indices generalizing p with
  | nil => rfl
  | cons i rest ih =>
    have hlook := isReady_alike (candidate.nth i) p
    -- an element that is skipped or refuses leaves the elements as they are for the rest
    have hrest : ∀ q, Unclicked p q → (tryElements candidate rest q).1 =
        rest.findSome? fun i => (clickOf? p.dom candidate i).map (⟨candidate.toText, i, ·⟩) := by
      intro q hq
      rw [ih (hq.calm hcalm), hq.dom]
    rw [tryElements, bind_apply, isReady_of_calm hcalm, List.findSome?_cons, clickOf?_eq]
    split
    · have hclick := scrollAndClick_of_calm (hlook.calm hcalm) (candidate.nth i)
      have hends := (scrollAndClick_endsWith (candidate.nth i) _).after hlook.unclicked
      rw [hlook.dom] at hclick
      rw [bind_apply, ← hclick]
      rcases hr : scrollAndClick (candidate.nth i) (isReady (candidate.nth i) p).2 with
        ⟨_ | kind, q⟩
      · rw [hr] at hends
        exact hrest q hends
      · rfl
    · exact hrest _ hlook.unclicked

theorem tryCandidates_of_calm (hcalm : p.Calm) (candidates : List Locator) :
    (tryCandidates candidates p).1 =
      candidates.findSome? fun c => (List.range (p.dom.resolve c).length).findSome? fun i =>
        (clickOf? p.dom c i).map (⟨c.toText, i, ·⟩) := by
  induction candidates generalizing p with
  | nil => rfl
  | cons c rest ih =>
    have hlook := (count_alike c).orUse 0 p
    have hcount : ((count c).orUse 0 p).1 = (p.dom.resolve c).length := by
      rw [count_orUse_fst, hcalm.strikesNext, if_neg Bool.false_ne_true]
    have helements := tryElements_of_calm (hlook.calm hcalm) c (List.range (p.dom.resolve c).length)
    have hends := (tryElements_endsWith c (List.range (p.dom.resolve c).length) _).after
      hlook.unclicked
    rw [hlook.dom] at helements
    rw [tryCandidates, bind_apply, bind_apply, hcount, List.findSome?_cons, ← helements]
    rcases hr : tryElements c (List.range (p.dom.resolve c).length) ((count c).orUse 0 p).2 with
      ⟨_ | outcome, q⟩
    · rw [hr] at hends
      have hq : Unclicked p q := hends
      show (tryCandidates rest q).1 = _
      rw [ih (hq.calm hcalm), hq.dom]
    · rfl

theorem tryFallbacks_of_calm (hcalm : p.Calm) (fallbacks : List Fallback) :
    (tryFallbacks fallbacks p).1 =
      fallbacks.findSome? fun f =>
        ((p.dom.first? f.target).bind (gentlest? p.dom)).map (⟨f.label, 0, ·⟩) := by
  induction fallbacks generalizing p with
  | nil => rfl
  | cons f rest ih =>
    have hlook := isVisible_alike f.target p
    have hclick := scrollAndClick_of_calm (hlook.calm hcalm) f.target
    have hends := (scrollAndClick_endsWith f.target _).after hlook.unclicked
    rw [hlook.dom] at hclick
    rw [tryFallbacks, bind_apply, attempt_snd, bind_apply, List.findSome?_cons, ← hclick]
    rcases hr : scrollAndClick f.target ((isVisible f.target).after p) with ⟨_ | kind, q⟩
    · rw [hr] at hends
      have hq : Unclicked p q := hends
      show (tryFallbacks rest q).1 = _
      rw [ih (hq.calm hcalm), hq.dom]
      rfl
    · rfl

/-! ### First choices -/

/-- The first number of a range with a value. -/
theorem findSome?_range_eq_some_iff {α : Type} {f : Nat → Option α} {n : Nat} {a : α} :
    (List.range n).findSome? f = some a ↔ ∃ i < n, f i = some a ∧ ∀ j < i, f j = none := by
  rw [List.findSome?_eq_some_iff]
  constructor
  · rintro ⟨before, i, after, hsplit, hi, hbefore⟩
    obtain ⟨hin, rfl⟩ : before.length < n ∧ before.length = i := by
      have hget : (List.range n)[before.length]? = some i := by rw [hsplit]; simp
      simpa [List.getElem?_eq_some_iff] using hget
    refine ⟨before.length, hin, hi, fun j hj => hbefore j ?_⟩
    have hget : (List.range n)[j]? = some j := by simp [hj.trans hin]
    rw [hsplit, List.getElem?_append_left hj] at hget
    exact List.mem_of_getElem? hget
  · rintro ⟨i, hin, hi, hbefore⟩
    refine ⟨List.range i, i, (List.range n).drop (i + 1), ?_, hi, fun j hj => ?_⟩
    · have hsplit := List.take_append_drop i (List.range n)
      rwa [List.drop_eq_getElem_cons (by simpa using hin), List.getElem_range, List.take_range,
        Nat.min_eq_left hin.le, eq_comm] at hsplit
    · exact hbefore j (List.mem_range.mp hj)

theorem clickOf?_eq_none_iff :
    clickOf? dom candidate i = none ↔ ∀ kind, ¬Clickable dom candidate i kind := by
  simp only [clickable_iff, Option.eq_none_iff_forall_ne_some, ne_eq]

theorem Clickable.lt_length (h : Clickable dom candidate i kind) :
    i < (dom.resolve candidate).length := by
  obtain ⟨node, hnode, -⟩ := h
  exact (List.getElem?_eq_some_iff.mp hnode).1

/-- The first clickable element of a candidate, as it is searched for. -/
def firstElement? (dom : Dom) (candidate : Locator) : Option Outcome :=
  (List.range (dom.resolve candidate).length).findSome? fun i =>
    (clickOf? dom candidate i).map (⟨candidate.toText, i, ·⟩)

theorem firstElement?_eq_some_iff {outcome : Outcome} :
    firstElement? dom candidate = some outcome ↔
      outcome.target = candidate.toText ∧ Clickable dom candidate outcome.index outcome.kind ∧
        ∀ i < outcome.index, ∀ kind, ¬Clickable dom candidate i kind := by
  rw [firstElement?, findSome?_range_eq_some_iff]
  constructor
  · rintro ⟨i, -, hi, hbefore⟩
    obtain ⟨kind, hkind, rfl⟩ := Option.map_eq_some_iff.mp hi
    refine ⟨rfl, clickable_iff.mpr hkind, fun j hj => ?_⟩
    exact clickOf?_eq_none_iff.mp (Option.map_eq_none_iff.mp (hbefore j hj))
  · rintro ⟨htarget, hclickable, hbefore⟩
    refine ⟨outcome.index, hclickable.lt_length, ?_, fun j hj => ?_⟩
    · rw [clickable_iff.mp hclickable, ← htarget]
      rfl
    · rw [clickOf?_eq_none_iff.mpr (hbefore j hj)]
      rfl

theorem firstElement?_eq_none_iff :
    firstElement? dom candidate = none ↔ ∀ i kind, ¬Clickable dom candidate i kind := by
  rw [firstElement?, List.findSome?_eq_none_iff]
  constructor
  · intro h i kind hclickable
    have hi := h i (List.mem_range.mpr hclickable.lt_length)
    rw [clickable_iff.mp hclickable] at hi
    exact Option.some_ne_none _ hi
  · intro h i _
    rw [clickOf?_eq_none_iff.mpr (h i)]
    rfl

theorem tryCandidates_eq_some_iff (hcalm : p.Calm) {candidates : List Locator} {outcome : Outcome} :
    (tryCandidates candidates p).1 = some outcome ↔ FirstCandidate p.dom candidates outcome := by
  have hnone : ∀ before : List Locator,
      (∀ c ∈ before, firstElement? p.dom c = none) ↔ NoCandidate p.dom before :=
    fun before => forall₂_congr fun c _ => firstElement?_eq_none_iff
  rw [tryCandidates_of_calm hcalm, List.findSome?_eq_some_iff]
  constructor
  · rintro ⟨before, c, after, hsplit, hc, hbefore⟩
    obtain ⟨htarget, hclickable, hleast⟩ := firstElement?_eq_some_iff.mp hc
    exact ⟨before, c, after, hsplit, htarget, hclickable, (hnone before).mp hbefore, hleast⟩
  · rintro ⟨before, c, after, hsplit, htarget, hclickable, hbefore, hleast⟩
    exact ⟨before, c, after, hsplit,
      firstElement?_eq_some_iff.mpr ⟨htarget, hclickable, hleast⟩, (hnone before).mpr hbefore⟩

theorem tryCandidates_eq_none_iff (hcalm : p.Calm) {candidates : List Locator} :
    (tryCandidates candidates p).1 = none ↔ NoCandidate p.dom candidates := by
  rw [tryCandidates_of_calm hcalm, List.findSome?_eq_none_iff]
  exact forall₂_congr fun c _ => firstElement?_eq_none_iff

theorem accepts_iff {f : Fallback} :
    f.Accepts dom kind ↔ (dom.first? f.target).bind (gentlest? dom) = some kind := by
  rw [Option.bind_eq_some_iff]
  rfl

theorem noFallback_iff {fallbacks : List Fallback} :
    (∀ f ∈ fallbacks, ((dom.first? f.target).bind (gentlest? dom)).map
        (⟨f.label, 0, ·⟩ : ClickKind → Outcome) = none) ↔ NoFallback dom fallbacks := by
  refine forall₂_congr fun f _ => ?_
  rw [Option.map_eq_none_iff, Option.eq_none_iff_forall_ne_some]
  exact forall_congr' fun kind => not_congr accepts_iff.symm

theorem tryFallbacks_eq_none_iff (hcalm : p.Calm) {fallbacks : List Fallback} :
    (tryFallbacks fallbacks p).1 = none ↔ NoFallback p.dom fallbacks := by
  rw [tryFallbacks_of_calm hcalm, List.findSome?_eq_none_iff, noFallback_iff]

theorem tryFallbacks_eq_some_iff (hcalm : p.Calm) {fallbacks : List Fallback} {outcome : Outcome} :
    (tryFallbacks fallbacks p).1 = some outcome ↔ FirstFallback p.dom fallbacks outcome := by
  rw [tryFallbacks_of_calm hcalm, List.findSome?_eq_some_iff]
  constructor
  · rintro ⟨before, f, after, hsplit, hf, hbefore⟩
    obtain ⟨kind, hkind, rfl⟩ := Option.map_eq_some_iff.mp hf
    exact ⟨before, f, after, hsplit, rfl, rfl, accepts_iff.mpr hkind, noFallback_iff.mp hbefore⟩
  · obtain ⟨target, index, kind⟩ := outcome
    rintro ⟨before, f, after, hsplit, rfl, rfl, haccepts, hbefore⟩
    refine ⟨before, f, after, hsplit, ?_, noFallback_iff.mpr hbefore⟩
    exact Option.map_eq_some_iff.mpr ⟨kind, accepts_iff.mp haccepts, rfl⟩

/-- What a search returns, by what it finds among the candidates and the fallbacks. -/
theorem result_clickWithFallback (step : String) (candidates : List Locator)
    (fallbacks : List Fallback) (p : Page) :
    (clickWithFallback step candidates fallbacks).result p =
      match (tryCandidates candidates p).1 with
      | some outcome => .ok outcome
      | none =>
        match (tryFallbacks fallbacks (tryCandidates candidates p).2).1 with
        | some outcome => .ok outcome
        | none => .error (nothingClicked step candidates) := by
  cases htry : (tryCandidates candidates p).1 with
  | some outcome => simp [clickWithFallback, htry]
  | none =>
    cases hretry : (tryFallbacks fallbacks (tryCandidates candidates p).2).1 <;>
      simp [clickWithFallback, htry, hretry]

/-- Without interference a search clicks the first clickable element of the candidates, or else the
first fallback that accepts a click, and it fails exactly if there is neither. -/
theorem clickWithFallback_chooses_first (hcalm : p.Calm) (step : String)
    (candidates : List Locator) (fallbacks : List Fallback) :
    let result := (clickWithFallback step candidates fallbacks).result p
    (∀ outcome, result = .ok outcome ↔
      FirstCandidate p.dom candidates outcome ∨
        NoCandidate p.dom candidates ∧ FirstFallback p.dom fallbacks outcome) ∧
      ((∃ context, result = .error (.noTargetClickable context)) ↔
        NoCandidate p.dom candidates ∧ NoFallback p.dom fallbacks) := by
  have hends := tryCandidates_endsWith candidates p
  have hsome := @tryCandidates_eq_some_iff p hcalm candidates
  have hnone := @tryCandidates_eq_none_iff p hcalm candidates
  rw [result_clickWithFallback]
  rcases htry : tryCandidates candidates p with ⟨_ | found, q⟩
  · -- nothing was found among the candidates, and the page is as before for the fallbacks
    rw [htry] at hends hsome hnone
    have hq : Unclicked p q := hends
    have hno : NoCandidate p.dom candidates := hnone.mp rfl
    have hsome' := @tryFallbacks_eq_some_iff q (hq.calm hcalm) fallbacks
    have hnone' := @tryFallbacks_eq_none_iff q (hq.calm hcalm) fallbacks
    rw [hq.dom] at hsome' hnone'
    simp only [← hsome, ← hsome', ← hnone', hno]
    cases (tryFallbacks fallbacks q).1 <;> simp [nothingClicked]
  -- The fallbacks are not tried.
  · rw [htry] at hsome hnone
    simp only [← hsome, ← hnone]
    simp

/-- A page with four links: a hidden one, one that is disabled, one that refuses every click, and
one that refuses the mouse. -/
def fourLinks : Page :=
  let link (e : Element) (dom : Dom) : Dom := dom.add Dom.root e
  { Page.opened "" with
    dom := Dom.empty
      |> link { tag := "a", hidden := true }
      |> link { tag := "a", disabled := true }
      |> link { tag := "a", refused := [.direct, .programmatic, .dispatched] }
      |> link { tag := "a", refused := [.direct] } }

/-- Of four links the last one is clicked, through the element itself, and the first one is not
clicked as a fallback. -/
theorem clicks_fourth_link :
    let candidates := [Locator.ofSelector "b", Locator.ofSelector "a"]
    let fallbacks := [⟨"row", Locator.ofSelector "a"⟩]
    let outcome : Outcome := ⟨"a", 3, .programmatic⟩
    fourLinks.Calm ∧
      (clickWithFallback "clickAny" candidates fallbacks).result fourLinks = .ok outcome ∧
        FirstCandidate fourLinks.dom candidates outcome := by
  intro candidates fallbacks outcome
  have hcalm : fourLinks.Calm := fun _ _ => rfl
  have hresult : (clickWithFallback "clickAny" candidates fallbacks).result fourLinks =
      .ok outcome := by
    rfl
  have hfirst := ((clickWithFallback_chooses_first hcalm "clickAny" candidates fallbacks).1
    outcome).mp hresult
  refine ⟨hcalm, hresult, hfirst.resolve_right ?_⟩
  rintro ⟨-, before, fallback, after, hsplit, htarget, -⟩
  have hmem : fallback ∈ fallbacks := by simp [hsplit]
  obtain rfl := List.mem_singleton.mp hmem
  exact absurd htarget (by decide)

end FlowPilot.Clicking
