import FlowPilot.Proofs.Page.Record
import FlowPilot.Proofs.Page.Tree

/-!
# Pages that are only looked at

Looking at a page changes nothing but how often its operations were called. While a step waits, time
passes besides, and the page may do what it does on its own. An attempt to click that fails adds to
the record, but no click.

## Main definitions

* `Page.Alike`: pages that differ only in how often operations were called.
* `Page.Unclicked`: the same, but more was tried.
* `Page.Idles`: a page that is looked at while time passes.
* `Page.Reads`: the text of an element can be read.

## Main statements

* `Page.Idles.sameShape`: what happens in the meantime leaves the elements a tree.
-/

namespace FlowPilot.Page

open Act

variable {p q r : Page} {target : Locator} {text : String}

/-! ### Looking -/

/-- Pages that differ only in how often operations were called. -/
def Alike (p q : Page) : Prop :=
  ∃ calls, q = { p with interference := { p.interference with calls := calls } }

instance : IsPreorder Page Alike where
  refl p := ⟨p.interference.calls, rfl⟩
  trans := by
    rintro _ _ _ ⟨calls, rfl⟩ ⟨calls', rfl⟩
    exact ⟨calls', rfl⟩

theorem Alike.dom (h : Alike p q) : q.dom = p.dom := by
  obtain ⟨calls, rfl⟩ := h
  rfl

theorem Alike.events (h : Alike p q) : q.events = p.events := by
  obtain ⟨calls, rfl⟩ := h
  rfl

theorem counted_alike (p : Page) (op : Operation) : Alike p (p.counted op) := ⟨_, rfl⟩

theorem count_alike (target : Locator) : Leads Alike (count target) :=
  count_leads counted_alike target

theorem isVisible_alike (target : Locator) : Leads Alike (isVisible target) :=
  isVisible_leads counted_alike target

theorem currentUrl_alike : Leads Alike currentUrl :=
  operation_leads counted_alike _ (Leads.get.bind fun _ => Leads.pure _)

theorem demandNode_alike (op : String) (target : Locator) : Leads Alike (demandNode op target) := by
  refine Leads.get.bind fun p => ?_
  split
  · exact Leads.pure _
  · exact Leads.throw _

theorem demandElement_alike (op : String) (target : Locator) :
    Leads Alike (demandElement op target) :=
  (demandNode_alike op target).bind fun _ => Leads.get.bind fun _ => Leads.pure _

theorem isEnabled_alike (target : Locator) : Leads Alike (isEnabled target) :=
  operation_leads counted_alike _ ((demandElement_alike _ _).bind fun _ => Leads.pure _)

theorem innerText_alike (target : Locator) : Leads Alike (innerText target) := by
  refine operation_leads counted_alike _ ((demandElement_alike _ _).bind fun (node, e) => ?_)
  exact Leads.ite (Leads.throw _) (Leads.get.bind fun _ => Leads.pure _)

/-! ### Reading -/

/-- No operation fails from outside. -/
def Calm (p : Page) : Prop := ∀ op call, p.interference.strikes op call = false

theorem Calm.strikesNext (h : p.Calm) (op : Operation) : p.interference.strikesNext op = false :=
  h op _

theorem Alike.calm (h : Alike p q) (hp : p.Calm) : q.Calm := by
  obtain ⟨calls, rfl⟩ := h
  exact hp

theorem result_count (target : Locator) (p : Page) :
    (count target).result p =
      if p.interference.strikesNext .count then
        .error (.page Operation.count.name (.outside (p.interference.wordsNext .count)))
      else .ok (p.dom.resolve target).length := by
  rw [count, result_operation]
  rfl

theorem result_isVisible (target : Locator) (p : Page) :
    (isVisible target).result p =
      if p.interference.strikesNext .isVisible then
        .error (.page Operation.isVisible.name (.outside (p.interference.wordsNext .isVisible)))
      else .ok ((p.dom.first? target).any p.dom.isVisible) := by
  rw [isVisible, result_operation]
  rfl

theorem count_orUse_fst (target : Locator) (absent : Nat) (p : Page) :
    ((count target).orUse absent p).1 =
      if p.interference.strikesNext .count then absent else (p.dom.resolve target).length := by
  cases hstrikes : p.interference.strikesNext .count <;>
    simp [orUse_fst, result_count, hstrikes]

theorem isVisible_orUse_fst (target : Locator) (absent : Bool) (p : Page) :
    ((isVisible target).orUse absent p).1 =
      if p.interference.strikesNext .isVisible then absent
      else (p.dom.first? target).any p.dom.isVisible := by
  cases hstrikes : p.interference.strikesNext .isVisible <;>
    simp [orUse_fst, result_isVisible, hstrikes]

/-- The text that is read of an element, as far as that depends on the elements. -/
def textRead (dom : Dom) (target : Locator) : Except Fault String :=
  match dom.first? target with
  | none => .error (.page "innerText" (.noElement target))
  | some node =>
    if ((dom.element? node).getD { tag := "" }).unreadable then
      .error (.page "innerText" .elementGone)
    else .ok (dom.visibleTextOf node)

theorem result_innerText (target : Locator) (p : Page) :
    (innerText target).result p =
      if p.interference.strikesNext .innerText then
        .error (.page Operation.innerText.name (.outside (p.interference.wordsNext .innerText)))
      else textRead p.dom target := by
  rw [innerText, result_operation, textRead]
  refine if_congr Iff.rfl rfl ?_
  cases hnode : p.dom.first? target with
  | none => simp [demandElement, demandNode, hnode, refuse]
  | some node =>
    cases hgone : ((p.dom.element? node).getD { tag := "" }).unreadable <;>
      simp [demandElement, demandNode, hnode, hgone, refuse, Except.map]

/-- The text of an element can be read, unless interference strikes. -/
def Reads (p : Page) (target : Locator) (text : String) : Prop :=
  textRead p.dom target = .ok text

theorem reads_of_result (h : (innerText target).result p = .ok text) : p.Reads target text := by
  rw [result_innerText] at h
  split at h
  · exact absurd h (by simp)
  · exact h

/-- Without interference a text that can be read is read. -/
theorem Reads.result (h : p.Reads target text) (hcalm : p.Calm) :
    (innerText target).result p = .ok text := by
  rw [result_innerText, hcalm.strikesNext, if_neg Bool.false_ne_true]
  exact h

theorem Reads.exists_node (h : p.Reads target text) : ∃ node, p.dom.first? target = some node := by
  cases hnode : p.dom.first? target with
  | none => simp [Reads, textRead, hnode] at h
  | some node => exact ⟨node, rfl⟩

theorem Alike.reads (h : Alike p q) : q.Reads target text ↔ p.Reads target text := by
  rw [Reads, Reads, h.dom]

/-! ### Trying -/

/-- Pages of which the second was looked at and tried besides, but not clicked. -/
def Unclicked (p q : Page) : Prop :=
  ∃ calls added,
    q = { p with
      events := p.events ++ added
      interference := { p.interference with calls := calls } } ∧
    ∀ kind node target, .clicked kind node target ∉ added

instance : IsPreorder Page Unclicked where
  refl p := ⟨p.interference.calls, [], by simp, by simp⟩
  trans := by
    rintro _ _ _ ⟨_, added, rfl, hadded⟩ ⟨calls, added', rfl, hadded'⟩
    refine ⟨calls, added ++ added', by simp, fun kind node target hmem => ?_⟩
    rcases List.mem_append.mp hmem with hmem | hmem
    · exact hadded kind node target hmem
    · exact hadded' kind node target hmem

theorem Alike.unclicked (h : Alike p q) : Unclicked p q := by
  obtain ⟨calls, rfl⟩ := h
  exact ⟨calls, [], by simp, by simp⟩

theorem Unclicked.dom (h : Unclicked p q) : q.dom = p.dom := by
  obtain ⟨_, _, rfl, _⟩ := h
  rfl

theorem Unclicked.calm (h : Unclicked p q) (hp : p.Calm) : q.Calm := by
  obtain ⟨_, _, rfl, _⟩ := h
  exact hp

theorem Unclicked.events (h : Unclicked p q) :
    ∃ added, q.events = p.events ++ added ∧
      ∀ kind node target, .clicked kind node target ∉ added := by
  obtain ⟨_, added, rfl, hadded⟩ := h
  exact ⟨added, rfl, hadded⟩

/-- Anything but a click may be added to the record. -/
theorem log_unclicked (p : Page) {e : Event}
    (h : ∀ kind node target, e ≠ .clicked kind node target) : Unclicked p (p.log e) := by
  refine ⟨p.interference.calls, [e], rfl, fun kind node target hmem => ?_⟩
  exact h kind node target (List.mem_singleton.mp hmem).symm

/-! ### Waiting -/

/-- A page that is looked at while time passes. -/
inductive Idles (p : Page) : Page → Prop
  | here : Idles p p
  | look {q r : Page} (h : Idles p q) (hlook : Alike q r) : Idles p r
  | pass {q : Page} (h : Idles p q) (ms : Nat) : Idles p (q.pass ms)

instance : IsPreorder Page Idles where
  refl _ := .here
  trans p q r h h' := by
    induction h' with
    | here => exact h
    | look _ hlook ih => exact ih.look hlook
    | pass _ ms ih => exact ih.pass ms

theorem Alike.idles (h : Alike p q) : Idles p q := Idles.here.look h

theorem waitFor_idles (target : Locator) (state : ElementState) (timeout : Nat) :
    Leads Idles (waitFor target state timeout) :=
  waitFor_leads (fun p op => (counted_alike p op).idles) (fun ms _ => Idles.here.pass ms) _ _ _

/-! ### What happens in the meantime -/

/-- Pages whose elements are a tree if they were one before, and which fail as before. -/
structure SameShape (p q : Page) : Prop where
  isTree : p.dom.IsTree → q.dom.IsTree
  strikes : q.interference.strikes = p.interference.strikes

instance : IsPreorder Page SameShape where
  refl _ := ⟨id, rfl⟩
  trans _ _ _ h h' := ⟨h'.isTree ∘ h.isTree, h'.strikes.trans h.strikes⟩

theorem applyEffect_sameShape (p : Page) (e : Element.Effect) : SameShape p (p.applyEffect e) := by
  cases e with
  | navigate => exact ⟨id, rfl⟩
  | uncover | cover | setWidth | setText =>
    refine ⟨fun h => ?_, rfl⟩
    simp only [applyEffect]
    exact h.modify _ _

theorem accept_sameShape (p : Page) (kind : ClickKind) (node : Nat) (target : Locator) :
    SameShape p (p.accept kind node target) := by
  refine List.foldlRecOn _ _ ⟨id, rfl⟩ fun q hq e _ => ?_
  exact trans_of SameShape hq (applyEffect_sameShape q e)

theorem keep_sameShape (p : Page) (a : Appointment) : SameShape p (p.keep a) := by
  unfold keep
  split
  · unfold clicked
    split
    · exact ⟨id, rfl⟩
    · exact accept_sameShape p _ _ _
  · exact refl_of SameShape p

theorem pass_sameShape (ms : Nat) (p : Page) : SameShape p (p.pass ms) := by
  have hdue : ∀ due : List Appointment, SameShape p
      (due.foldl keep
        { p with schedule := p.schedule.filter fun a => !decide (a.time ≤ p.clock + ms) }) := by
    intro due
    refine List.foldlRecOn due _ ⟨id, rfl⟩ fun q hq a _ => ?_
    exact trans_of SameShape hq (keep_sameShape q a)
  obtain ⟨htree, hstrikes⟩ := hdue (p.schedule.filter fun a => decide (a.time ≤ p.clock + ms))
  exact ⟨htree, hstrikes⟩

theorem Idles.sameShape (h : Idles p q) : SameShape p q := by
  induction h with
  | here => exact refl_of SameShape p
  | look _ hlook ih =>
    obtain ⟨calls, rfl⟩ := hlook
    exact ⟨ih.isTree, ih.strikes⟩
  | pass _ ms ih => exact trans_of SameShape ih (pass_sameShape ms _)

theorem Idles.calm (h : Idles p q) (hp : p.Calm) : q.Calm := by
  rw [Calm, h.sameShape.strikes]
  exact hp

end FlowPilot.Page
