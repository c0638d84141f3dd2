import FlowPilot.Proofs.Clicking

/-!
# The calls of a search for a click

A search clicks once or not at all, and the click that is accepted is the last thing that happens to
the page. The record of a page does not tell of attempts that interference strikes, or that find no
element. To speak of all attempts, the search is run on a page whose calls are written down.

## Main definitions

* `Clicking.Call`: a call of an operation of a page.
* `Clicking.Watched`: a page whose calls are written down, with the search on such a page.
* `Clicking.Watched.Mirrors`: a search on a watched page that does what a search on a page does.
* `Clicking.Orderly`: calls in which no way of clicking is tried before the gentler ones failed.
* `Clicking.Watched.Notes`: a search that writes down as many calls as the page counts.

## Main statements

* `Clicking.clickWithFallback_clicks_once`: a search clicks once or not at all, in good order.
-/

namespace FlowPilot.Clicking

open Act Page

variable {α β : Type}

/-! ### Accepted clicks -/

theorem foldl_applyEffect_recorded (effects : List Element.Effect) (p : Page)
    (events : List Page.Event) (interference : Interference) :
    effects.foldl applyEffect { p with events := events, interference := interference } =
      { effects.foldl applyEffect p with events := events, interference := interference } := by
  induction effects generalizing p with
  | nil => rfl
  | cons e rest ih =>
    rw [List.foldl_cons, List.foldl_cons, ← ih]
    cases e <;> rfl

/-- What a click on a node does. -/
def effectsOf (dom : Dom) (node : Nat) : List Element.Effect :=
  ((dom.element? node).map (·.onClick)).getD []

/-- An accepted click has its effects and is recorded. -/
theorem accept_eq (p : Page) (kind : ClickKind) (node : Nat) (target : Locator) :
    p.accept kind node target =
      { (effectsOf p.dom node).foldl applyEffect p with
        events := p.events ++ [.clicked kind node target]
        interference := p.interference } :=
  foldl_applyEffect_recorded _ p _ _

/-! ### Watched pages -/

/-- A call of an operation of a page. -/
structure Call where
  operation : Operation
  /-- the locator that the operation is called with -/
  target : Locator
  /-- the first node that the locator names -/
  node : Option Nat
  /-- whether the call succeeds -/
  succeeds : Bool
  deriving DecidableEq, Repr

/-- A page whose calls are written down, oldest first. -/
structure Watched where
  page : Page
  calls : List Call

/-- The operation of a click of a kind. -/
def operationOf : ClickKind → Operation
  | .direct => .click
  | .programmatic => .jsClick
  | .dispatched => .dispatchClick

namespace Watched

/-- Calls an operation and writes the call down. -/
def call (op : Operation) (target : Locator) (act : Act Page α) : Act Watched α := fun w =>
  (act.result w.page,
    ⟨act.after w.page,
      w.calls ++ [⟨op, target, w.page.dom.first? target, (act.result w.page).isOk⟩]⟩)

/-- `Clicking.firstAccepted` on a watched page. -/
def firstAccepted (target : Locator) : List ClickKind → StateM Watched (Option ClickKind)
  | [] => return none
  | kind :: kinds => do
    match ← (call (operationOf kind) target (clickOfKind kind target)).attempt with
    | .ok _ => return some kind
    | .error _ => firstAccepted target kinds

def scrollAndClick (target : Locator) : StateM Watched (Option ClickKind) := do
  let _ ← (call .scroll target (scrollTo target)).attempt
  firstAccepted target kinds

def isReady (target : Locator) : StateM Watched Bool := do
  let visible ← (call .isVisible target (Page.isVisible target)).orUse false
  let enabled ← (call .isEnabled target (Page.isEnabled target)).orUse true
  return visible && enabled

def tryElements (candidate : Locator) : List Nat → StateM Watched (Option Outcome)
  | [] => return none
  | i :: rest => do
    let element := candidate.nth i
    if ← isReady element then
      match ← scrollAndClick element with
      | some kind => return some ⟨candidate.toText, i, kind⟩
      | none => tryElements candidate rest
    else tryElements candidate rest

def tryCandidates : List Locator → StateM Watched (Option Outcome)
  | [] => return none
  | candidate :: rest => do
    let n ← (call .count candidate (Page.count candidate)).orUse 0
    match ← tryElements candidate (List.range n) with
    | some outcome => return some outcome
    | none => tryCandidates rest

def tryFallbacks : List Fallback → StateM Watched (Option Outcome)
  | [] => return none
  | fallback :: rest => do
    let _ ← (call .isVisible fallback.target (Page.isVisible fallback.target)).attempt
    match ← scrollAndClick fallback.target with
    | some kind => return some ⟨fallback.label, 0, kind⟩
    | none => tryFallbacks rest

def clickWithFallback (step : String) (candidates : List Locator) (fallbacks : List Fallback) :
    Act Watched Outcome := do
  match ← tryCandidates candidates with
  | some outcome => return outcome
  | none =>
    match ← tryFallbacks fallbacks with
    | some outcome => return outcome
    | none => throw (nothingClicked step candidates)

/-! ### The same search -/

/-- A computation on a watched page that has the result of another one on the page, and leaves the
page that the other one leaves. -/
def Mirrors (watched : StateM Watched α) (plain : StateM Page α) : Prop :=
  ∀ w, (watched w).1 = (plain w.page).1 ∧ (watched w).2.page = (plain w.page).2

theorem Mirrors.pure (a : α) : Mirrors (Pure.pure a) (Pure.pure a) := fun _ => ⟨rfl, rfl⟩

theorem Mirrors.bind {watched : StateM Watched α} {plain : StateM Page α}
    {watched' : α → StateM Watched β} {plain' : α → StateM Page β} (h : Mirrors watched plain)
    (h' : ∀ a, Mirrors (watched' a) (plain' a)) :
    Mirrors (watched >>= watched') (plain >>= plain') := by
  intro w
  rw [bind_apply, bind_apply, ← (h w).1, ← (h w).2]
  exact h' _ _

theorem Mirrors.ite {c : Prop} [Decidable c] {watched watched' : StateM Watched α}
    {plain plain' : StateM Page α} (h : Mirrors watched plain) (h' : Mirrors watched' plain') :
    Mirrors (if c then watched else watched') (if c then plain else plain') := by
  split
  · exact h
  · exact h'

section

variable (op : Operation) (target : Locator) (act : Act Page α)

theorem call_attempt_mirrors : Mirrors (call op target act).attempt act.attempt :=
  fun _ => ⟨rfl, rfl⟩

theorem call_orUse_mirrors (a : α) : Mirrors ((call op target act).orUse a) (act.orUse a) := by
  refine (call_attempt_mirrors op target act).bind fun
    | .ok a => .pure a
    | .error _ => .pure a

end

theorem firstAccepted_mirrors (target : Locator) (kinds : List ClickKind) :
    Mirrors (firstAccepted target kinds) (Clicking.firstAccepted target kinds) := by
  induction kinds with
  | nil => exact .pure none
  | cons kind kinds ih =>
    rw [firstAccepted, Clicking.firstAccepted, succeeds, bind_assoc]
    refine (call_attempt_mirrors _ target (clickOfKind kind target)).bind fun clicked => ?_
    cases clicked with
    | ok _ => exact .pure (some kind)
    | error _ => exact ih

theorem scrollAndClick_mirrors (target : Locator) :
    Mirrors (scrollAndClick target) (Clicking.scrollAndClick target) :=
  (call_attempt_mirrors _ _ _).bind fun _ => firstAccepted_mirrors target kinds

theorem isReady_mirrors (target : Locator) : Mirrors (isReady target) (Clicking.isReady target) :=
  (call_orUse_mirrors _ _ _ _).bind fun _ => (call_orUse_mirrors _ _ _ _).bind fun _ => .pure _

theorem tryElements_mirrors (candidate : Locator) (indices : List Nat) :
    Mirrors (tryElements candidate indices) (Clicking.tryElements candidate indices) := by
  induction indices with
  | nil => exact .pure none
  | cons i rest ih =>
    refine (isReady_mirrors _).bind fun ready => .ite ?_ ih
    refine (scrollAndClick_mirrors _).bind fun
      | some kind => .pure _
      | none => ih

theorem tryCandidates_mirrors (candidates : List Locator) :
    Mirrors (tryCandidates candidates) (Clicking.tryCandidates candidates) := by
  induction candidates with
  | nil => exact .pure none
  | cons candidate rest ih =>
    refine (call_orUse_mirrors _ _ _ _).bind fun n => ?_
    refine (tryElements_mirrors candidate _).bind fun
      | some outcome => .pure _
      | none => ih

theorem tryFallbacks_mirrors (fallbacks : List Fallback) :
    Mirrors (tryFallbacks fallbacks) (Clicking.tryFallbacks fallbacks) := by
  induction fallbacks with
  | nil => exact .pure none
  | cons fallback rest ih =>
    refine (call_attempt_mirrors _ _ _).bind fun _ => ?_
    refine (scrollAndClick_mirrors _).bind fun
      | some kind => .pure _
      | none => ih

theorem clickWithFallback_mirrors (step : String) (candidates : List Locator)
    (fallbacks : List Fallback) :
    Mirrors (clickWithFallback step candidates fallbacks).attempt
      (Clicking.clickWithFallback step candidates fallbacks).attempt := by
  rw [clickWithFallback, Clicking.clickWithFallback, attempt_lift_bind, attempt_lift_bind]
  refine (tryCandidates_mirrors candidates).bind fun found => ?_
  cases found with
  | some outcome => exact .pure (Except.ok outcome)
  | none =>
    dsimp only
    rw [attempt_lift_bind, attempt_lift_bind]
    refine (tryFallbacks_mirrors fallbacks).bind fun found => ?_
    cases found with
    | some outcome => exact .pure (Except.ok outcome)
    | none => exact .pure (Except.error (nothingClicked step candidates))

end Watched

/-! ### Counting -/

theorem lookup_filter_ne {op op' : Operation} (hne : op' ≠ op) (calls : List (Operation × Nat)) :
    (calls.filter (·.1 != op)).lookup op' = calls.lookup op' := by
  induction calls with
  | nil => rfl
  | cons call rest ih =>
    obtain ⟨key, n⟩ := call
    by_cases hkey : key = op
    · subst hkey
      rw [List.filter_cons_of_neg (by simp), ih, List.lookup_cons, beq_false_of_ne hne]
    · rw [List.filter_cons_of_pos (by simpa using hkey), List.lookup_cons, List.lookup_cons, ih]

theorem callsOf_counted (i : Interference) (op op' : Operation) :
    (i.counted op).callsOf op' = i.callsOf op' + if op = op' then 1 else 0 := by
  unfold Interference.counted Interference.callsOf
  by_cases h : op' = op
  · subst h
    rw [List.lookup_cons_self, if_pos rfl]
    rfl
  · rw [if_neg (Ne.symm h), List.lookup_cons, beq_false_of_ne h]
    simp only [lookup_filter_ne h, Nat.add_zero]

/-- An act that counts as one call of an operation. -/
def IsCallOf (op : Operation) (act : Act Page α) : Prop :=
  ∀ p, (act.after p).interference = p.interference.counted op

/-- Pages of which the second one counts no more calls. -/
def Uncounted (p q : Page) : Prop := q.interference = p.interference

instance : IsPreorder Page Uncounted where
  refl _ := rfl
  trans _ _ _ h h' := Eq.trans h' h

theorem operation_isCallOf (op : Operation) {body : Act Page α} (hbody : Leads Uncounted body) :
    IsCallOf op (operation op body) := by
  intro p
  rw [after_operation]
  split
  · rfl
  · exact hbody _

theorem demandNode_uncounted (name : String) (target : Locator) :
    Leads Uncounted (demandNode name target) := by
  refine Leads.get.bind fun p => ?_
  split
  · exact Leads.pure _
  · exact Leads.throw _

theorem demandElement_uncounted (name : String) (target : Locator) :
    Leads Uncounted (demandElement name target) :=
  (demandNode_uncounted name target).bind fun _ => Leads.get.bind fun _ => Leads.pure _

theorem clickNode_uncounted (kind : ClickKind) (name : String) (fault : PageFault)
    (target : Locator) (node : Nat) : Leads Uncounted (clickNode kind name fault target node) := by
  intro p
  rw [after_clickNode]
  unfold Page.clicked
  split
  · rfl
  · rw [Uncounted, accept_eq]

theorem count_isCallOf (target : Locator) : IsCallOf .count (count target) :=
  operation_isCallOf _ (Leads.get.bind fun _ => Leads.pure _)

theorem isVisible_isCallOf (target : Locator) : IsCallOf .isVisible (isVisible target) :=
  operation_isCallOf _ (Leads.get.bind fun _ => Leads.pure _)

theorem isEnabled_isCallOf (target : Locator) : IsCallOf .isEnabled (isEnabled target) :=
  operation_isCallOf _ ((demandElement_uncounted _ _).bind fun _ => Leads.pure _)

theorem scrollTo_isCallOf (target : Locator) : IsCallOf .scroll (scrollTo target) :=
  operation_isCallOf _ <| (demandElement_uncounted _ _).bind fun _ =>
    Leads.ite (Leads.throw _) fun _ => rfl

theorem clickOfKind_isCallOf (kind : ClickKind) (target : Locator) :
    IsCallOf (operationOf kind) (clickOfKind kind target) := by
  cases kind with
  | direct =>
    refine operation_isCallOf _ <| (demandNode_uncounted _ _).bind fun _ => ?_
    refine Leads.get.bind fun _ => Leads.ite (clickNode_uncounted _ _ _ _ _) ?_
    -- that the click is refused is recorded, which is not another call
    exact Leads.bind (fun _ => rfl) fun _ => Leads.throw _
  | programmatic =>
    refine operation_isCallOf _ <| (demandNode_uncounted _ _).bind fun _ => ?_
    exact clickNode_uncounted _ _ _ _ _
  | dispatched =>
    refine operation_isCallOf _ <| (demandNode_uncounted _ _).bind fun _ => ?_
    exact clickNode_uncounted _ _ _ _ _

/-! ### Order -/

/-- Whether a call may come after other ones: a click through the element itself only right after a
failed click of the mouse on the same element, and an artificial one only right after both
failed. -/
def MayFollow (before : List Call) (call : Call) : Prop :=
  (call.operation = .jsClick →
    ∃ earlier, before = earlier ++ [⟨.click, call.target, call.node, false⟩]) ∧
  (call.operation = .dispatchClick →
    ∃ earlier, before = earlier ++
      [⟨.click, call.target, call.node, false⟩, ⟨.jsClick, call.target, call.node, false⟩])

/-- Calls each of which may come after those before it. -/
def Orderly (calls : List Call) : Prop :=
  ∀ before call after, calls = before ++ call :: after → MayFollow before call

theorem orderly_nil : Orderly [] := by
  intro before call after h
  simp at h

theorem Orderly.snoc {calls : List Call} {call : Call} (h : Orderly calls)
    (hcall : MayFollow calls call) : Orderly (calls ++ [call]) := by
  intro before call' after heq
  -- a call of the longer list is its last one or one of the shorter list
  rcases after.eq_nil_or_concat with rfl | ⟨after, last, rfl⟩
  · obtain ⟨rfl, hlast⟩ := List.append_inj' heq rfl
    rwa [← List.singleton_inj.mp hlast]
  · rw [List.concat_eq_append, ← List.cons_append, ← List.append_assoc] at heq
    exact h before call' after (List.append_inj' heq rfl).1

/-! ### What is written down -/

namespace Watched

/-- How many calls of an operation were written down. -/
def written (w : Watched) (op : Operation) : Nat := w.calls.countP (·.operation = op)

/-- Watched pages between which calls were written down in order, and as many as the page counts. -/
structure Notes (w w' : Watched) : Prop where
  orderly : Orderly w.calls → Orderly w'.calls
  tally : ∀ op, w'.page.interference.callsOf op + w.written op =
    w.page.interference.callsOf op + w'.written op

instance : IsPreorder Watched Notes where
  refl _ := ⟨id, fun _ => rfl⟩
  trans w w' w'' h h' := by
    refine ⟨h'.orderly ∘ h.orderly, fun op => ?_⟩
    have hop := h.tally op
    have hop' := h'.tally op
    omega

theorem call_tally {op : Operation} {act : Act Page α} (hact : IsCallOf op act) (target : Locator)
    (w : Watched) (op' : Operation) :
    ((call op target act).after w).page.interference.callsOf op' + w.written op' =
      w.page.interference.callsOf op' + ((call op target act).after w).written op' := by
  have hpage : ((call op target act).after w).page = act.after w.page := rfl
  have hwritten : ((call op target act).after w).written op' =
      w.written op' + if op = op' then 1 else 0 := by
    simp [written, call, after, List.countP_append, List.countP_cons]
  rw [hpage, hact, callsOf_counted, hwritten]
  omega

theorem look_notes {op : Operation} {act : Act Page α} (hact : IsCallOf op act) (target : Locator)
    (hop : op ≠ .jsClick ∧ op ≠ .dispatchClick) : Leads Notes (call op target act) := by
  intro w
  refine ⟨fun hw => hw.snoc ⟨fun h => absurd h hop.1, fun h => absurd h hop.2⟩, ?_⟩
  exact call_tally hact target w

/-- The watched page after a click of a kind. -/
def afterClick (kind : ClickKind) (target : Locator) (w : Watched) : Watched :=
  (call (operationOf kind) target (clickOfKind kind target)).after w

def accepts (w : Watched) (kind : ClickKind) (target : Locator) : Bool :=
  ((clickOfKind kind target).result w.page).isOk

theorem calls_afterClick (kind : ClickKind) (target : Locator) (w : Watched) :
    (w.afterClick kind target).calls =
      w.calls ++ [⟨operationOf kind, target, w.page.dom.first? target, w.accepts kind target⟩] :=
  rfl

theorem dom_afterClick {kind : ClickKind} {target : Locator} {w : Watched}
    (h : w.accepts kind target = false) : (w.afterClick kind target).page.dom = w.page.dom := by
  rcases clickOfKind_cases kind target w.page with ⟨-, hunclicked⟩ | ⟨haccepted, -⟩
  · exact hunclicked.dom
  · exact absurd (h.symm.trans haccepted) Bool.false_ne_true

theorem firstAccepted_cons (target : Locator) (kind : ClickKind) (kinds : List ClickKind)
    (w : Watched) :
    firstAccepted target (kind :: kinds) w =
      if w.accepts kind target then (some kind, w.afterClick kind target)
      else firstAccepted target kinds (w.afterClick kind target) := by
  rw [firstAccepted, bind_apply, attempt_snd, accepts]
  change (match (clickOfKind kind target).result w.page with
    | .ok _ => _
    | .error _ => _ : StateM Watched (Option ClickKind)) _ = _
  cases (clickOfKind kind target).result w.page <;> rfl

def failed (target : Locator) (node : Option Nat) (kind : ClickKind) : Call :=
  ⟨operationOf kind, target, node, false⟩

/-- A way of clicking may follow the failures of all gentler ones. -/
theorem mayFollow_failed {tried rest : List ClickKind} {kind : ClickKind}
    (h : kinds = tried ++ kind :: rest) (earlier : List Call) (target : Locator)
    (node : Option Nat) (succeeds : Bool) :
    MayFollow (earlier ++ tried.map (failed target node))
      ⟨operationOf kind, target, node, succeeds⟩ := by
  -- there are three ways of clicking, so those before one of them are known
  rcases tried with _ | ⟨k, _ | ⟨k', _ | ⟨k'', tried⟩⟩⟩ <;>
    simp only [kinds, List.nil_append, List.cons_append, List.cons.injEq] at h
  · obtain ⟨rfl, -⟩ := h
    exact ⟨nofun, nofun⟩
  · obtain ⟨rfl, rfl, -⟩ := h
    exact ⟨fun _ => ⟨earlier, rfl⟩, nofun⟩
  · obtain ⟨rfl, rfl, rfl, -⟩ := h
    exact ⟨nofun, fun _ => ⟨earlier, rfl⟩⟩
  · simp at h

/-- While the ways of clicking are tried, those before failed right before. -/
theorem firstAccepted_orderly (target : Locator) (rest : List ClickKind) :
    ∀ (tried : List ClickKind) (earlier : List Call) (w : Watched), kinds = tried ++ rest →
      w.calls = earlier ++ tried.map (failed target (w.page.dom.first? target)) →
      Orderly w.calls → Orderly (firstAccepted target rest w).2.calls := by
  induction rest with
  | nil => exact fun _ _ _ _ _ hw => hw
  | cons kind rest ih =>
    intro tried earlier w hkinds hcalls hw
    have hclick : Orderly (w.afterClick kind target).calls := by
      refine hw.snoc ?_
      rw [hcalls]
      exact mayFollow_failed hkinds earlier target _ _
    rw [firstAccepted_cons]
    split
    · exact hclick
    · rename_i hfails
      rw [Bool.not_eq_true] at hfails
      -- this way has failed too, right behind the others
      refine ih (tried ++ [kind]) earlier _ (by simp [hkinds]) ?_ hclick
      rw [calls_afterClick, dom_afterClick hfails, hfails, hcalls]
      simp [failed]

theorem firstAccepted_tally (target : Locator) (kinds : List ClickKind) (w : Watched)
    (op : Operation) :
    (firstAccepted target kinds w).2.page.interference.callsOf op + w.written op =
      w.page.interference.callsOf op + (firstAccepted target kinds w).2.written op := by
  induction kinds generalizing w with
  | nil => rfl
  | cons kind kinds ih =>
    have hclick := call_tally (clickOfKind_isCallOf kind target) target w op
    rw [firstAccepted_cons]
    split
    · exact hclick
    · have hrest := ih (w.afterClick kind target)
      unfold afterClick at hrest ⊢
      omega

theorem firstAccepted_notes (target : Locator) : Moves Notes (firstAccepted target kinds) := by
  refine fun w => ⟨fun hw => ?_, firstAccepted_tally target kinds w⟩
  exact firstAccepted_orderly target kinds [] w.calls w rfl (by simp) hw

theorem scrollAndClick_notes (target : Locator) : Moves Notes (scrollAndClick target) :=
  Moves.bind (look_notes (scrollTo_isCallOf target) target (by decide)) fun _ =>
    firstAccepted_notes target

theorem isReady_notes (target : Locator) : Moves Notes (isReady target) := by
  have hvisible := look_notes (isVisible_isCallOf target) target (by decide)
  have henabled := look_notes (isEnabled_isCallOf target) target (by decide)
  exact (hvisible.orUse false).bind fun _ => (henabled.orUse true).bind fun _ => Moves.pure _

theorem tryElements_notes (candidate : Locator) (indices : List Nat) :
    Moves Notes (tryElements candidate indices) := by
  induction indices with
  | nil => exact Moves.pure none
  | cons i rest ih =>
    refine (isReady_notes _).bind fun ready => Moves.ite ?_ ih
    refine (scrollAndClick_notes _).bind fun
      | some kind => Moves.pure _
      | none => ih

theorem tryCandidates_notes (candidates : List Locator) :
    Moves Notes (tryCandidates candidates) := by
  induction candidates with
  | nil => exact Moves.pure none
  | cons candidate rest ih =>
    have hcount := look_notes (count_isCallOf candidate) candidate (by decide)
    refine (hcount.orUse 0).bind fun n => ?_
    refine (tryElements_notes candidate _).bind fun
      | some outcome => Moves.pure _
      | none => ih

theorem tryFallbacks_notes (fallbacks : List Fallback) : Moves Notes (tryFallbacks fallbacks) := by
  induction fallbacks with
  | nil => exact Moves.pure none
  | cons fallback rest ih =>
    have hvisible :=
      look_notes (isVisible_isCallOf fallback.target) fallback.target (by decide)
    refine Moves.bind hvisible fun _ => ?_
    refine (scrollAndClick_notes _).bind fun
      | some kind => Moves.pure _
      | none => ih

theorem clickWithFallback_notes (step : String) (candidates : List Locator)
    (fallbacks : List Fallback) : Leads Notes (clickWithFallback step candidates fallbacks) := by
  refine (Leads.lift (tryCandidates_notes candidates)).bind fun
    | some outcome => Leads.pure _
    | none => (Leads.lift (tryFallbacks_notes fallbacks)).bind fun
      | some outcome => Leads.pure _
      | none => Leads.throw _

end Watched

/-! ### Whole searches -/

/-- A search that succeeds leaves the page with the effects of one click, which is the last entry of
the record and the only click that was added. A search that fails adds no click and changes nothing
else. -/
def ClicksOnce (search : Act Page Outcome) (p : Page) : Prop :=
  ∃ tried counts, (∀ kind node target, .clicked kind node target ∉ tried) ∧
    match search.result p with
    | .ok _ => ∃ kind node target, search.after p =
        { (effectsOf p.dom node).foldl applyEffect p with
          events := p.events ++ tried ++ [.clicked kind node target]
          interference := { p.interference with calls := counts } }
    | .error _ => search.after p =
        { p with
          events := p.events ++ tried
          interference := { p.interference with calls := counts } }

theorem clickWithFallback_clicksOnce (step : String) (candidates : List Locator)
    (fallbacks : List Fallback) (p : Page) :
    ClicksOnce (clickWithFallback step candidates fallbacks) p := by
  rcases clickWithFallback_cases step candidates fallbacks p with
    ⟨e, hresult, counts, tried, hafter, htried⟩ |
    ⟨outcome, hresult, _, kind, node, target, ⟨counts, tried, rfl, htried⟩, -, hafter⟩
  · refine ⟨tried, counts, htried, ?_⟩
    rw [hresult]
    exact hafter
  · refine ⟨tried, counts, htried, ?_⟩
    rw [hresult]
    refine ⟨kind, node, target, ?_⟩
    rw [hafter, accept_eq, foldl_applyEffect_recorded]

/-- A search clicks once or not at all, whatever fails, with fallbacks or without. The same search
on a watched page writes down all calls that the page counts, and they are in order: a click through
the element itself comes right after a failed click of the mouse on that element, and an artificial
one right after both. -/
theorem clickWithFallback_clicks_once (step : String) (candidates : List Locator)
    (fallbacks : List Fallback) (p : Page) :
    let search := clickWithFallback step candidates fallbacks
    ClicksOnce search p ∧
      ∃ calls, Watched.clickWithFallback step candidates fallbacks ⟨p, []⟩ =
          (search.result p, ⟨search.after p, calls⟩) ∧
        Orderly calls ∧
        ∀ op, (search.after p).interference.callsOf op =
          p.interference.callsOf op + calls.countP (·.operation = op) := by
  intro search
  refine ⟨clickWithFallback_clicksOnce step candidates fallbacks p, ?_⟩
  have hmirrors := Watched.clickWithFallback_mirrors step candidates fallbacks ⟨p, []⟩
  have hnotes := Watched.clickWithFallback_notes step candidates fallbacks ⟨p, []⟩
  have hpage : ((Watched.clickWithFallback step candidates fallbacks).after ⟨p, []⟩).page =
    search.after p := hmirrors.2
  refine ⟨((Watched.clickWithFallback step candidates fallbacks).after ⟨p, []⟩).calls, ?_, ?_, ?_⟩
  · exact Prod.ext hmirrors.1 (congrArg (Watched.mk · _) hpage)
  · exact hnotes.orderly orderly_nil
  · intro op
    rw [← hpage]
    exact hnotes.tally op

end FlowPilot.Clicking
