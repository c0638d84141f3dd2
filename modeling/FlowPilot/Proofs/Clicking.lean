import FlowPilot.Clicking
import FlowPilot.Proofs.Page.Idle

/-!
# What a search for a click touches

A search goes through elements until one accepts a click. Up to then nothing is clicked, and the
elements stay as they are, so that the one that is clicked can be told from the page as it is before
the search.

## Main definitions

* `Clicking.Clicks`: a page accepted one click, of a node that fits.
* `Clicking.EndsWith`: a search ends with a click of a node that fits, or without any.
* `Clicking.Offered`: what may be clicked.

## Main statements

* `Clicking.clickWithFallback_cases`: what is clicked belongs to a candidate or is a fallback.
-/

namespace FlowPilot.Clicking

open Act Page

variable {α β : Type} {p q : Page} {Fits : α → Nat → Prop} {Fits' : β → Nat → Prop}

/-! ### Searches -/

/-- The page accepted one click, of a node that fits, after others that it refused. -/
def Clicks (p : Page) (Fits : Nat → Prop) (q : Page) : Prop :=
  ∃ tried kind node target, Unclicked p tried ∧ Fits node ∧ q = tried.accept kind node target

/-- A search ends with a click of a node that fits what it found, or finds nothing and clicks
nothing. -/
def EndsWith (p : Page) (Fits : α → Nat → Prop) : Option α × Page → Prop
  | (none, q) => Unclicked p q
  | (some a, q) => Clicks p (Fits a) q

theorem EndsWith.after {r : Option α × Page} (h : EndsWith q Fits r) (hpq : Unclicked p q) :
    EndsWith p Fits r := by
  rcases r with ⟨_ | a, r⟩
  · exact trans_of Unclicked hpq h
  · obtain ⟨tried, kind, node, target, htried, hfits, rfl⟩ := h
    exact ⟨tried, kind, node, target, trans_of Unclicked hpq htried, hfits, rfl⟩

theorem EndsWith.mono {Fits' : α → Nat → Prop} {r : Option α × Page} (h : EndsWith p Fits r)
    (hfits : ∀ a node, Fits a node → Fits' a node) : EndsWith p Fits' r := by
  rcases r with ⟨_ | a, r⟩
  · exact h
  · obtain ⟨tried, kind, node, target, htried, hnode, rfl⟩ := h
    exact ⟨tried, kind, node, target, htried, hfits a node hnode, rfl⟩

/-- A search that goes on when it finds nothing. -/
theorem EndsWith.bind {search : StateM Page (Option α)} {goOn : Option α → StateM Page (Option β)}
    (hsearch : EndsWith p Fits (search p))
    (hnone : ∀ q, Unclicked p q → EndsWith q Fits' (goOn none q))
    (hsome : ∀ a, ∃ b, goOn (some a) = pure (some b) ∧ ∀ node, Fits a node → Fits' b node) :
    EndsWith p Fits' ((search >>= goOn) p) := by
  rw [bind_apply]
  rcases hr : search p with ⟨_ | a, q⟩
  · rw [hr] at hsearch
    exact (hnone q hsearch).after hsearch
  · rw [hr] at hsearch
    obtain ⟨b, hfound, hfits⟩ := hsome a
    obtain ⟨tried, kind, node, target, htried, hnode, rfl⟩ := hsearch
    show EndsWith p Fits' (goOn (some a) _)
    rw [hfound]
    exact ⟨tried, kind, node, target, htried, hfits node hnode, rfl⟩

/-! ### One element -/

/-- The three ways of clicking are one operation with values of its own. -/
theorem clickOfKind_eq (kind : ClickKind) (target : Locator) :
    ∃ op name fault, clickOfKind kind target = operation op (do
      let node ← demandNode name target
      clickNode kind name fault target node) := by
  cases kind with
  | direct => exact ⟨.click, "click", .intercepted, rfl⟩
  | programmatic => exact ⟨.jsClick, "jsClick", .noClickMethod, rfl⟩
  | dispatched => exact ⟨.dispatchClick, "dispatchClick", .eventCancelled, rfl⟩

/-- A click fails and nothing is clicked, or it is accepted by the first node that is named. -/
theorem clickOfKind_cases (kind : ClickKind) (target : Locator) (p : Page) :
    ((clickOfKind kind target).result p).isOk = false ∧
        Unclicked p ((clickOfKind kind target).after p) ∨
      ((clickOfKind kind target).result p).isOk = true ∧
        Clicks p (fun node => p.dom.first? target = some node)
          ((clickOfKind kind target).after p) := by
  obtain ⟨op, name, fault, heq⟩ := clickOfKind_eq kind target
  have hcounted := (counted_alike p op).unclicked
  rw [heq, result_operation, after_operation]
  -- Struck, or else one of: no node, a refusal, an accepted click.
  split
  · exact .inl ⟨rfl, hcounted⟩
  cases hnode : p.dom.first? target with
  | none => exact .inl (by simpa [demandNode, hnode, refuse, Except.isOk, Except.toBool])
  | some node =>
    cases haccepted : ((p.counted op).clicked kind target node).1 with
    | false =>
      have hlogged := log_unclicked (p.counted op) (e := .refused kind target) (by simp)
      rw [← clicked_of_refused haccepted] at hlogged
      refine .inl ⟨?_, ?_⟩
      · simp [demandNode, hnode, result_clickNode, haccepted, Except.isOk, Except.toBool]
      · simpa [demandNode, hnode, after_clickNode] using trans_of Unclicked hcounted hlogged
    | true =>
      refine .inr ⟨?_, p.counted op, kind, node, target, hcounted, rfl, ?_⟩
      · simp [demandNode, hnode, result_clickNode, haccepted, Except.isOk, Except.toBool]
      · simp [demandNode, hnode, after_clickNode, clicked_of_accepted haccepted]

theorem succeeds_apply (act : Act Page Unit) (p : Page) :
    succeeds act p = ((act.result p).isOk, act.after p) := by
  unfold succeeds attempt result after
  simp only [bind, StateT.bind, ExceptT.run]
  rcases act p with ⟨_ | _, _⟩ <;> rfl

theorem firstAccepted_endsWith (target : Locator) (kinds : List ClickKind) (p : Page) :
    EndsWith p (fun _ node => p.dom.first? target = some node) (firstAccepted target kinds p) := by
  induction kinds generalizing p with
  | nil => exact refl_of Unclicked p
  | cons kind kinds ih =>
    rw [firstAccepted, bind_apply, succeeds_apply]
    rcases clickOfKind_cases kind target p with ⟨hrefused, htried⟩ | ⟨haccepted, hclicks⟩
    · rw [hrefused, if_neg Bool.false_ne_true]
      have hrest := ih ((clickOfKind kind target).after p)
      rw [htried.dom] at hrest
      exact hrest.after htried
    · rw [haccepted, if_pos rfl]
      exact hclicks

theorem scrollTo_unclicked (target : Locator) : Leads Unclicked (scrollTo target) := by
  refine operation_leads (fun p op => (counted_alike p op).unclicked) _ ?_
  refine Leads.bind (fun p => (demandElement_alike _ _ p).unclicked) fun (node, e) => ?_
  refine Leads.ite (Leads.throw _) fun p => ?_
  exact log_unclicked p (by simp)

theorem scrollAndClick_endsWith (target : Locator) (p : Page) :
    EndsWith p (fun _ node => p.dom.first? target = some node) (scrollAndClick target p) := by
  have hscroll := scrollTo_unclicked target p
  have hsearch := firstAccepted_endsWith target kinds ((scrollTo target).after p)
  rw [hscroll.dom] at hsearch
  exact hsearch.after hscroll

/-! ### Candidates and fallbacks -/

theorem isReady_alike (target : Locator) : Moves Alike (isReady target) :=
  ((isVisible_alike target).orUse false).bind fun _ =>
    ((isEnabled_alike target).orUse true).bind fun _ => Moves.pure _

theorem tryElements_endsWith (candidate : Locator) (indices : List Nat) (p : Page) :
    EndsWith p
      (fun outcome node => outcome.target = candidate.toText ∧ node ∈ p.dom.resolve candidate)
      (tryElements candidate indices p) := by
  induction indices generalizing p with
  | nil => exact refl_of Unclicked p
  | cons i rest ih =>
    have hready := (isReady_alike (candidate.nth i) p).unclicked
    -- Nothing was clicked so far, so the candidate still names the same elements.
    have hrest : ∀ q, Unclicked p q → EndsWith q
        (fun outcome node => outcome.target = candidate.toText ∧ node ∈ p.dom.resolve candidate)
        (tryElements candidate rest q) := by
      intro q hpq
      rw [← hpq.dom]
      exact ih q
    rw [tryElements, bind_apply]
    refine EndsWith.after ?_ hready
    split
    · refine (scrollAndClick_endsWith (candidate.nth i) _).bind
        (fun q hq => hrest q (trans_of Unclicked hready hq))
        fun kind => ⟨_, rfl, fun node hnode => ⟨rfl, ?_⟩⟩
      rw [hready.dom, Dom.first?_nth] at hnode
      exact List.mem_of_getElem? hnode
    · exact hrest _ hready

/-- What is clicked among candidates is named by one of them. -/
theorem tryCandidates_endsWith (candidates : List Locator) (p : Page) :
    EndsWith p
      (fun outcome node =>
        ∃ c ∈ candidates, outcome.target = c.toText ∧ node ∈ p.dom.resolve c)
      (tryCandidates candidates p) := by
  induction candidates generalizing p with
  | nil => exact refl_of Unclicked p
  | cons candidate rest ih =>
    have hcounted := ((count_alike candidate).orUse 0 p).unclicked
    rw [tryCandidates, bind_apply]
    refine ((tryElements_endsWith candidate _ _).bind ?_ ?_).after hcounted
    · intro q hq
      have hrest := ih q
      rw [hq.dom, hcounted.dom] at hrest
      refine hrest.mono fun outcome node => ?_
      rintro ⟨c, hc, hfits⟩
      exact ⟨c, List.mem_cons_of_mem _ hc, hfits⟩
    · refine fun outcome => ⟨outcome, rfl, ?_⟩
      rintro node ⟨htarget, hnode⟩
      rw [hcounted.dom] at hnode
      exact ⟨candidate, List.mem_cons_self, htarget, hnode⟩

/-- A fallback that is clicked is the first node that it names. -/
theorem tryFallbacks_endsWith (fallbacks : List Fallback) (p : Page) :
    EndsWith p
      (fun outcome node =>
        ∃ f ∈ fallbacks, outcome.target = f.label ∧ p.dom.first? f.target = some node)
      (tryFallbacks fallbacks p) := by
  induction fallbacks generalizing p with
  | nil => exact refl_of Unclicked p
  | cons fallback rest ih =>
    have hlooked := (isVisible_alike fallback.target p).unclicked
    rw [tryFallbacks, bind_apply, attempt_snd]
    refine ((scrollAndClick_endsWith fallback.target _).bind ?_ ?_).after hlooked
    · intro q hq
      have hrest := ih q
      rw [hq.dom, hlooked.dom] at hrest
      refine hrest.mono fun outcome node => ?_
      rintro ⟨f, hf, hfits⟩
      exact ⟨f, List.mem_cons_of_mem _ hf, hfits⟩
    · refine fun kind => ⟨_, rfl, fun node hnode => ?_⟩
      rw [hlooked.dom] at hnode
      exact ⟨fallback, List.mem_cons_self, rfl, hnode⟩

/-- What may be clicked on a page: a node that a candidate names, or the first one of a fallback. -/
def Offered (dom : Dom) (candidates : List Locator) (fallbacks : List Fallback)
    (outcome : Outcome) (node : Nat) : Prop :=
  (∃ c ∈ candidates, outcome.target = c.toText ∧ node ∈ dom.resolve c) ∨
    ∃ f ∈ fallbacks, outcome.target = f.label ∧ dom.first? f.target = some node

/-- Clicking fails and nothing is clicked, or one click of what was offered is accepted. -/
theorem clickWithFallback_cases (step : String) (candidates : List Locator)
    (fallbacks : List Fallback) (p : Page) :
    (∃ e, (clickWithFallback step candidates fallbacks).result p = .error e ∧
        Unclicked p ((clickWithFallback step candidates fallbacks).after p)) ∨
      ∃ outcome, (clickWithFallback step candidates fallbacks).result p = .ok outcome ∧
        Clicks p (Offered p.dom candidates fallbacks outcome)
          ((clickWithFallback step candidates fallbacks).after p) := by
  have hcandidates := tryCandidates_endsWith candidates p
  rcases htry : tryCandidates candidates p with ⟨_ | outcome, q⟩
  · rw [htry] at hcandidates
    have hfallbacks := (tryFallbacks_endsWith fallbacks q).after hcandidates
    rw [hcandidates.dom] at hfallbacks
    rcases hretry : tryFallbacks fallbacks q with ⟨_ | outcome, r⟩
    · rw [hretry] at hfallbacks
      have hnothing : Unclicked p r := hfallbacks
      refine .inl ⟨nothingClicked step candidates, ?_⟩
      simpa [clickWithFallback, htry, hretry] using hnothing
    · rw [hretry] at hfallbacks
      obtain ⟨tried, kind, node, target, htried, hfits, rfl⟩ := hfallbacks
      refine .inr ⟨outcome, ?_, tried, kind, node, target, htried, .inr hfits, ?_⟩
      all_goals simp [clickWithFallback, htry, hretry]
  · rw [htry] at hcandidates
    obtain ⟨tried, kind, node, target, htried, hfits, rfl⟩ := hcandidates
    refine .inr ⟨outcome, ?_, tried, kind, node, target, htried, .inl hfits, ?_⟩
    all_goals simp [clickWithFallback, htry]

end FlowPilot.Clicking
