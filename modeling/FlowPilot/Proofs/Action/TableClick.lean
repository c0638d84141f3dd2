import FlowPilot.Action.TableClick
import FlowPilot.Proofs.Clicking
import FlowPilot.Proofs.Table.Search

/-!
# Clicks stay inside the row that was found

Both steps wait for the table, find a row, and click something in it. Only waiting takes time, so
the row is found, searched for links and clicked on the same elements. Whatever the page does on its
own it does before, while the step waits.

## Main definitions

* `Step.clickInTable`: what both steps do once their fields are read.
* `Step.ClickRowAction.goal`, `Step.ClickTableCellLink.goal`: what a step looks for.
* `Step.ClickedInside`: a node inside the row that was found.

## Main statements

* `Step.clicks_inside_row`: what both steps click is inside the row that they found.
-/

namespace FlowPilot.Step

open Act FlowPilot.Page FlowPilot.Clicking FlowPilot.Table
open FlowPilot.Action (required cleaned noteUrl)

variable {p before : Page} {table : Locator} {target : TableTarget} {mode : MatchMode}
  {i row node : Nat}

/-! ### The common part -/

/-- What both steps do once their fields are read: they wait for the table, aim at something in it,
and click that. -/
def clickInTable (name : String) (logUrl : Bool) (selector : String) (timeout : Nat)
    (aim : Locator → Act Page (List Locator × List Fallback)) : Act Page Outcome := do
  noteUrl logUrl
  let table ← attachedTable selector timeout
  let (candidates, fallbacks) ← aim table
  let outcome ← clickWithFallback name candidates fallbacks
  noteUrl logUrl
  return outcome

/-- The page when the wait for a table is over. -/
def tableAwaited (logUrl : Bool) (selector : String) (timeout : Nat) (p : Page) : Page :=
  (attachedTable selector timeout).after (noteUrl logUrl p).2

theorem noteUrl_alike (asked : Bool) : Moves Alike (noteUrl asked) := by
  refine Moves.ite (fun p => ?_) (Moves.pure _)
  exact currentUrl_alike p

theorem tableAwaited_idles (logUrl : Bool) (selector : String) (timeout : Nat) (p : Page) :
    p.Idles (tableAwaited logUrl selector timeout p) := by
  have hwait : Leads Idles (attachedTable selector timeout) :=
    (waitFor_idles _ _ _).bind fun _ => Leads.pure _
  exact trans_of Idles (noteUrl_alike logUrl p).idles (hwait _)

theorem eq_of_attachedTable {selector : String} {timeout : Nat}
    (h : (attachedTable selector timeout).result p = .ok table) : table = targetOf selector := by
  obtain ⟨_, _, h⟩ := result_bind_eq_ok_iff.mp h
  exact (Except.ok.inj h).symm

/-- Where nothing was clicked, nothing has to be told about clicks. -/
theorem told_of_unclicked {after : Page} {Told : Nat → Prop} (h : Unclicked before after) :
    ∃ added, after.events = before.events ++ added ∧
      ∀ kind node clicked, .clicked kind node clicked ∈ added → Told node := by
  obtain ⟨added, hadded, hnone⟩ := h.events
  exact ⟨added, hadded, fun kind node clicked hmem => absurd hmem (hnone kind node clicked)⟩

/-- Since the wait for the table is over, only what was aimed at has been clicked. -/
theorem clickInTable_clicks (name : String) (logUrl : Bool) (selector : String) (timeout : Nat)
    {aim : Locator → Act Page (List Locator × List Fallback)}
    (haim : ∀ table, Leads Alike (aim table)) (p : Page) :
    ∃ added,
      ((clickInTable name logUrl selector timeout aim).after p).events =
          (tableAwaited logUrl selector timeout p).events ++ added ∧
        ∀ kind node clicked, .clicked kind node clicked ∈ added →
          ∃ outcome candidates fallbacks,
            (clickInTable name logUrl selector timeout aim).result p = .ok outcome ∧
              (aim (targetOf selector)).result (tableAwaited logUrl selector timeout p) =
                .ok (candidates, fallbacks) ∧
              Offered (tableAwaited logUrl selector timeout p).dom candidates fallbacks outcome
                node := by
  generalize hbefore : tableAwaited logUrl selector timeout p = before
  rw [tableAwaited] at hbefore
  cases hwait : (attachedTable selector timeout).result (noteUrl logUrl p).2 with
  | error e =>
    have hafter : (clickInTable name logUrl selector timeout aim).after p = before := by
      simp [clickInTable, hwait, hbefore]
    rw [hafter]
    exact told_of_unclicked (refl_of Unclicked before)
  | ok table =>
    obtain rfl := eq_of_attachedTable hwait
    have halike := haim (targetOf selector) before
    cases haimed : (aim (targetOf selector)).result before with
    | error e =>
      have hafter : (clickInTable name logUrl selector timeout aim).after p =
          (aim (targetOf selector)).after before := by
        simp [clickInTable, hwait, hbefore, haimed]
      rw [hafter]
      exact told_of_unclicked halike.unclicked
    | ok aimed =>
      obtain ⟨candidates, fallbacks⟩ := aimed
      rcases clickWithFallback_cases name candidates fallbacks
          ((aim (targetOf selector)).after before) with ⟨e, hresult, hclick⟩ |
        ⟨outcome, hresult, tried, kind, node, clicked, htried, hoffered, hclick⟩
      · have hafter : (clickInTable name logUrl selector timeout aim).after p =
            (clickWithFallback name candidates fallbacks).after
              ((aim (targetOf selector)).after before) := by
          simp [clickInTable, hwait, hbefore, haimed, hresult]
        rw [hafter]
        exact told_of_unclicked (trans_of Unclicked halike.unclicked hclick)
      · -- the one click that was accepted is the last entry, since reading the address adds none
        have hafter : (clickInTable name logUrl selector timeout aim).after p =
            (noteUrl logUrl (tried.accept kind node clicked)).2 := by
          simp [clickInTable, hwait, hbefore, haimed, hresult, hclick]
        have hdone : (clickInTable name logUrl selector timeout aim).result p = .ok outcome := by
          simp [clickInTable, hwait, hbefore, haimed, hresult, Except.map]
        obtain ⟨added, hadded, hnone⟩ :=
          (trans_of Unclicked halike.unclicked htried).events
        refine ⟨added ++ [.clicked kind node clicked], ?_, ?_⟩
        · rw [hafter, (noteUrl_alike logUrl _).events, accept_events, hadded, List.append_assoc]
        · intro kind' node' clicked' hmem
          rcases List.mem_append.mp hmem with hmem | hmem
          · exact absurd hmem (hnone kind' node' clicked')
          · obtain ⟨_, rfl, _⟩ := Event.clicked.inj (List.mem_singleton.mp hmem)
            rw [halike.dom] at hoffered
            exact ⟨outcome, candidates, fallbacks, hdone, rfl, hoffered⟩

/-! ### What a step looks for -/

/-- Where a row has the text that is looked for. -/
def TableTarget.place : TableTarget → Locator → Locator
  | .cell _ index => cellOf index
  | .row _ _ => id

/-- Whether a text in normal form is the one that is looked for. -/
def TableTarget.fits (mode : MatchMode) : TableTarget → String → Bool
  | .cell text _ => (mode.holds · (Text.normal text))
  | .row text _ => (Text.contains · (Text.normal text))

/-- The table and what the step looks for in it, if its fields are complete. -/
def ClickRowAction.goal (s : ClickRowAction) : Except Fault (String × TableTarget × MatchMode) := do
  let selector ← required "step.table" s.table
  let text ← required "step.rowText" s.rowText
  if (cleaned s.actionSelectors).isEmpty && !s.fallbackClick then
    throw (.missingField "step.actionSelectors")
  return (selector, .row text none, .includes)

/-- The table and what the step looks for in it, if its fields are complete. -/
def ClickTableCellLink.goal (s : ClickTableCellLink) :
    Except Fault (String × TableTarget × MatchMode) := do
  let selector ← required "step.table" s.table
  let (target, mode) ← s.target
  return (selector, target, mode)

/-- What a step aims at inside the row that holds a text. -/
def ClickRowAction.aim (s : ClickRowAction) (text : String) (table : Locator) :
    Act Page (List Locator × List Fallback) := do
  let found ← findRow table text Kind.clickRowAction.name
  return ((cleaned s.actionSelectors).map found.row.within, rowFallback s.fallbackClick found.row)

/-- What a step aims at inside the row or the cell. -/
def ClickTableCellLink.aim (s : ClickTableCellLink) (target : TableTarget) (mode : MatchMode)
    (table : Locator) : Act Page (List Locator × List Fallback) := do
  let (scope, fallbacks) ← s.place target mode table
  let links := firstGiven [cleaned s.targetSelectors, cleaned s.linkSelectors, usualLinks]
  return (links.map scope.within, fallbacks)

/-- A step whose fields are not complete does nothing, any other one clicks in the table. -/
theorem ClickRowAction.perform_cases (s : ClickRowAction) (timeout : Nat) :
    (∃ e, s.goal = .error e ∧ s.perform timeout = throw e) ∨
      ∃ selector text, s.goal = .ok (selector, .row text none, .includes) ∧
        s.perform timeout =
          clickInTable Kind.clickRowAction.name s.logUrl selector timeout (s.aim text) := by
  unfold ClickRowAction.perform ClickRowAction.goal clickInTable ClickRowAction.aim
  cases required "step.table" s.table with
  | error e => exact .inl ⟨e, rfl, rfl⟩
  | ok selector =>
    cases required "step.rowText" s.rowText with
    | error e => exact .inl ⟨e, rfl, rfl⟩
    | ok text =>
      by_cases hempty : ((cleaned s.actionSelectors).isEmpty && !s.fallbackClick) = true
      · refine .inl ⟨.missingField "step.actionSelectors", ?_, ?_⟩
        · simp only [bind, Except.bind, hempty, if_true]
          rfl
        · simp only [ofExcept_ok_bind, hempty, if_true]
          rfl
      · refine .inr ⟨selector, text, ?_, ?_⟩
        · simp only [bind, Except.bind, hempty]
          rfl
        · simp only [ofExcept_ok_bind, hempty, bind_assoc, pure_bind]
          rfl

theorem ClickTableCellLink.perform_cases (s : ClickTableCellLink) (timeout : Nat) :
    (∃ e, s.goal = .error e ∧ s.perform timeout = throw e) ∨
      ∃ selector target mode, s.goal = .ok (selector, target, mode) ∧
        s.perform timeout =
          clickInTable Kind.clickTableCellLink.name s.logUrl selector timeout
            (s.aim target mode) := by
  unfold ClickTableCellLink.perform ClickTableCellLink.goal clickInTable ClickTableCellLink.aim
  cases required "step.table" s.table with
  | error e => exact .inl ⟨e, rfl, rfl⟩
  | ok selector =>
    cases s.target with
    | error e => exact .inl ⟨e, rfl, rfl⟩
    | ok found =>
      obtain ⟨target, mode⟩ := found
      refine .inr ⟨selector, target, mode, rfl, ?_⟩
      simp

theorem ClickRowAction.aim_alike (s : ClickRowAction) (text : String) (table : Locator) :
    Leads Alike (s.aim text table) :=
  (findRow_alike _ _ _).bind fun _ => Leads.pure _

theorem cellAt_alike (row : Locator) (index : Nat) : Leads Alike (cellAt row index) := by
  refine (count_alike _).bind fun n => Leads.ite ((Leads.throw _).bind fun _ => ?_) ?_
  all_goals exact Leads.pure _

theorem ClickTableCellLink.aim_alike (s : ClickTableCellLink) (target : TableTarget)
    (mode : MatchMode) (table : Locator) : Leads Alike (s.aim target mode table) := by
  refine Leads.bind ?_ fun _ => Leads.pure _
  cases target with
  | cell text index => exact (findCell_alike _ _ _ _ _).bind fun _ => Leads.pure _
  | row text index =>
    refine (findRow_alike _ _ _).bind fun found => ?_
    cases index with
    | none => exact Leads.pure _
    | some index => exact (cellAt_alike _ _).bind fun _ => Leads.pure _

/-! ### Inside -/

/-- A node inside the row that was found. Where a cell is looked for, it is inside that cell, unless
the row itself was clicked. -/
structure ClickedInside (p : Page) (table : Locator) (target : TableTarget) (mode : MatchMode)
    (outcome : Outcome) (node i row : Nat) : Prop where
  finds : Finds p table target.place (target.fits mode) i row
  first : p.Calm → NoneBefore p table target.place (target.fits mode) i
  inRow : p.dom.Inside row node
  inCell : ∀ text index, target = .cell text index → outcome.target ≠ "row" →
    ∃ cell, p.dom.first? (cellOf index ((rowsOf p.dom table).nth i)) = some cell ∧
      p.dom.Inside cell node

/-- What a link is found in is around it. -/
theorem inside_of_link {d : Dom} {l c : Locator} {k x : Nat} {links : List String}
    (hx : (d.resolve l)[k]? = some x) (hself : d.Inside x x)
    (hc : c ∈ links.map (l.nth k).within) (hnode : node ∈ d.resolve c) : d.Inside x node := by
  obtain ⟨link, _, rfl⟩ := List.mem_map.mp hc
  exact Dom.inside_of_mem_within hx hself hnode

/-- The cells of a row are inside of it. -/
theorem inside_of_cell {d : Dom} {l : Locator} {k x cell index : Nat}
    (hx : (d.resolve l)[k]? = some x) (hself : d.Inside x x)
    (hcell : (d.resolve ((l.nth k).within cellSelector))[index]? = some cell) :
    d.Inside x cell :=
  Dom.inside_of_mem_within hx hself (List.mem_of_getElem? hcell)

theorem eq_of_rowFallback {d : Dom} {l : Locator} {asked : Bool} {f : Fallback} {k x : Nat}
    (hx : (d.resolve l)[k]? = some x) (hf : f ∈ rowFallback asked (l.nth k))
    (hnode : d.first? f.target = some node) : node = x := by
  unfold rowFallback at hf
  split at hf
  · rw [List.mem_singleton.mp hf, Dom.first?_nth, hx] at hnode
    exact (Option.some.inj hnode).symm
  · exact absurd hf List.not_mem_nil

theorem ClickRowAction.clickedInside (s : ClickRowAction) {text : String} {outcome : Outcome}
    {candidates : List Locator} {fallbacks : List Fallback}
    (haim : (s.aim text table).result p = .ok (candidates, fallbacks))
    (hoffered : Offered p.dom candidates fallbacks outcome node) :
    ∃ i row, ClickedInside p table (.row text none) .includes outcome node i row := by
  obtain ⟨found, hfound, haim⟩ := result_bind_eq_ok_iff.mp haim
  obtain ⟨rfl, rfl⟩ := Prod.mk.inj (Except.ok.inj haim)
  obtain ⟨row, hlocated, hfinds, hfirst⟩ := finds_of_findRow hfound
  have hself := inside_of_mem_rowsOf (List.mem_of_getElem? hfinds.row)
  refine ⟨found.index, row, hfinds, hfirst, ?_, fun _ _ h => absurd h (by simp)⟩
  rw [hlocated] at hoffered
  rcases hoffered with ⟨c, hc, _, hnode⟩ | ⟨f, hf, _, hnode⟩
  · exact inside_of_link hfinds.row hself hc hnode
  · rw [eq_of_rowFallback hfinds.row hf hnode]
    exact hself

theorem exists_cell_of_cellAt {l scope : Locator} {index : Nat}
    (h : (cellAt l index).result p = .ok scope) :
    scope = cellOf index l ∧
      ∃ cell, (p.dom.resolve (l.within cellSelector))[index]? = some cell := by
  obtain ⟨n, hn, h⟩ := result_bind_eq_ok_iff.mp h
  rw [eq_length_of_count hn] at h
  split at h
  · exact absurd h (by simp)
  · rename_i hindex
    exact ⟨(Except.ok.inj h).symm, _, List.getElem?_eq_getElem (Nat.not_le.mp hindex)⟩

theorem ClickTableCellLink.clickedInside (s : ClickTableCellLink) (htree : p.dom.IsTree)
    {outcome : Outcome} {candidates : List Locator} {fallbacks : List Fallback}
    (haim : (s.aim target mode table).result p = .ok (candidates, fallbacks))
    (hoffered : Offered p.dom candidates fallbacks outcome node) :
    ∃ i row, ClickedInside p table target mode outcome node i row := by
  obtain ⟨⟨scope, fallbacks'⟩, hplace, haim⟩ := result_bind_eq_ok_iff.mp haim
  obtain ⟨rfl, rfl⟩ := Prod.mk.inj (Except.ok.inj haim)
  cases target with
  | cell text index =>
    obtain ⟨found, hfound, hplace⟩ := result_bind_eq_ok_iff.mp hplace
    obtain ⟨rfl, rfl⟩ := Prod.mk.inj (Except.ok.inj hplace)
    obtain ⟨row, hrow, hcell, hfinds, hfirst⟩ := finds_of_findCell hfound
    have hself := inside_of_mem_rowsOf (List.mem_of_getElem? hfinds.row)
    obtain ⟨cell, hnamed⟩ := hfinds.exists_place
    have hplaced := hnamed
    rw [cellOf, Dom.first?_nth] at hplaced
    have hinside := inside_of_cell hfinds.row hself hplaced
    rw [hcell, hrow] at hoffered
    -- the cell as a fallback is the cell, and only the row as a fallback is not inside of it
    rcases hoffered with ⟨c, hc, _, hnode⟩ | ⟨f, hf, htarget, hnode⟩
    · have hlink := inside_of_link hplaced hinside.self hc hnode
      exact ⟨found.rowIndex, row, hfinds, hfirst, htree.inside_trans hinside hlink,
        fun _ _ h _ => by cases h; exact ⟨cell, hnamed, hlink⟩⟩
    · rcases List.mem_pair.mp hf with rfl | rfl
      · obtain rfl := Option.some.inj (hnamed.symm.trans hnode)
        exact ⟨found.rowIndex, row, hfinds, hfirst, hinside,
          fun _ _ h _ => by cases h; exact ⟨cell, hnamed, hinside.self⟩⟩
      · rw [Dom.first?_nth] at hnode
        obtain rfl := Option.some.inj (hfinds.row.symm.trans hnode)
        exact ⟨found.rowIndex, row, hfinds, hfirst, hself, fun _ _ _ h => absurd htarget h⟩
  | row text index =>
    obtain ⟨found, hfound, hplace⟩ := result_bind_eq_ok_iff.mp hplace
    obtain ⟨row, hrow, hfinds, hfirst⟩ := finds_of_findRow hfound
    have hself := inside_of_mem_rowsOf (List.mem_of_getElem? hfinds.row)
    have hfallback : ∀ f ∈ rowFallback s.fallbackClick found.row,
        p.dom.first? f.target = some node → p.dom.Inside row node := by
      intro f hf hnode
      rw [hrow] at hf
      rw [eq_of_rowFallback hfinds.row hf hnode]
      exact hself
    suffices hinside : p.dom.Inside row node from
      ⟨found.index, row, hfinds, hfirst, hinside, fun _ _ h => absurd h (by simp)⟩
    cases index with
    | none =>
      obtain ⟨rfl, rfl⟩ := Prod.mk.inj (Except.ok.inj hplace)
      rcases hoffered with ⟨c, hc, _, hnode⟩ | ⟨f, hf, _, hnode⟩
      · rw [hrow] at hc
        exact inside_of_link hfinds.row hself hc hnode
      · exact hfallback f hf hnode
    | some index =>
      obtain ⟨scope', hat, hplace⟩ := result_bind_eq_ok_iff.mp hplace
      obtain ⟨rfl, rfl⟩ := Prod.mk.inj (Except.ok.inj hplace)
      obtain ⟨rfl, cell, hcell⟩ := exists_cell_of_cellAt hat
      rw [(findRow_alike _ _ _ p).dom, hrow] at hcell
      have hinside := inside_of_cell hfinds.row hself hcell
      rcases hoffered with ⟨c, hc, _, hnode⟩ | ⟨f, hf, _, hnode⟩
      · rw [hrow] at hc
        exact htree.inside_trans hinside (inside_of_link hcell hinside.self hc hnode)
      · exact hfallback f hf hnode

/-! ### Both steps -/

/-- Of a step that clicks in a table: it does nothing unless its fields are complete. Otherwise a
click that the page accepts after the wait for the table is over is inside the row that the step
found, and the step reports it. -/
def ClicksInside (step : Act Page Outcome) (logUrl : Bool) (timeout : Nat)
    (goal : Except Fault (String × TableTarget × MatchMode)) (p : Page) : Prop :=
  match goal with
  | .error e => step.result p = .error e ∧ step.after p = p
  | .ok (selector, target, mode) =>
    let before := tableAwaited logUrl selector timeout p
    p.Idles before ∧ (p.Calm → before.Calm) ∧
      ∃ added, (step.after p).events = before.events ++ added ∧
        ∀ kind node clicked, .clicked kind node clicked ∈ added →
          ∃ outcome i row, step.result p = .ok outcome ∧
            ClickedInside before (targetOf selector) target mode outcome node i row

theorem clicksInside_clickInTable {name selector : String} {logUrl : Bool} {timeout : Nat}
    {aim : Locator → Act Page (List Locator × List Fallback)}
    (haim : ∀ table, Leads Alike (aim table))
    (hinside : let before := tableAwaited logUrl selector timeout p
      ∀ outcome candidates fallbacks node,
        (aim (targetOf selector)).result before = .ok (candidates, fallbacks) →
          Offered before.dom candidates fallbacks outcome node →
            ∃ i row, ClickedInside before (targetOf selector) target mode outcome node i row) :
    ClicksInside (clickInTable name logUrl selector timeout aim) logUrl timeout
      (.ok (selector, target, mode)) p := by
  have hidles := tableAwaited_idles logUrl selector timeout p
  refine ⟨hidles, hidles.calm, ?_⟩
  obtain ⟨added, hadded, htold⟩ := clickInTable_clicks name logUrl selector timeout haim p
  refine ⟨added, hadded, fun kind node clicked hmem => ?_⟩
  obtain ⟨outcome, candidates, fallbacks, hdone, haimed, hoffered⟩ := htold kind node clicked hmem
  obtain ⟨i, row, hclicked⟩ := hinside outcome candidates fallbacks node haimed hoffered
  exact ⟨outcome, i, row, hdone, hclicked⟩

/-- What both steps click is inside the row that they found, in any page. -/
theorem clicks_inside_row (timeout : Nat) {p : Page} (htree : p.dom.IsTree) :
    (∀ s : ClickRowAction, ClicksInside (s.perform timeout) s.logUrl timeout s.goal p) ∧
      ∀ s : ClickTableCellLink, ClicksInside (s.perform timeout) s.logUrl timeout s.goal p := by
  constructor
  · intro s
    rcases s.perform_cases timeout with ⟨e, hgoal, hperform⟩ | ⟨selector, text, hgoal, hperform⟩
    · rw [hgoal, hperform]
      exact ⟨rfl, rfl⟩
    · rw [hgoal, hperform]
      exact clicksInside_clickInTable (s.aim_alike text) fun _ _ _ _ haim hoffered =>
        s.clickedInside haim hoffered
  · intro s
    rcases s.perform_cases timeout with
      ⟨e, hgoal, hperform⟩ | ⟨selector, target, mode, hgoal, hperform⟩
    · rw [hgoal, hperform]
      exact ⟨rfl, rfl⟩
    · rw [hgoal, hperform]
      -- what happens during the wait leaves the page a tree
      have htree := (tableAwaited_idles s.logUrl selector timeout p).sameShape.isTree htree
      exact clicksInside_clickInTable (s.aim_alike target mode) fun _ _ _ _ haim hoffered =>
        s.clickedInside htree haim hoffered

/-- A page with a table of two invoices. -/
def smallTable : Page :=
  { Page.opened "" with dom := Dom.empty.addTable "t" [["F1", "open"], ["F2", "open"]] }

/-- The row of the second invoice is looked for and has no link, so that it is clicked itself. -/
theorem clicks_second_row :
    let s : ClickRowAction := ⟨some "#t", some "f2", ["a"], true, false, none⟩
    let before := tableAwaited false "#t" 0 smallTable
    let row := (rowsOf before.dom (targetOf "#t")).nth 1
    smallTable.dom.IsTree ∧
      ((s.perform 0).after smallTable).events = [.scroll row, .clicked .direct 6 row] ∧
        ∃ outcome i row, (s.perform 0).result smallTable = .ok outcome ∧
          ClickedInside before (targetOf "#t") (.row "f2" none) .includes outcome 6 i row := by
  intro s before row
  have htree : smallTable.dom.IsTree := Dom.isTree_empty.addTable _ _
  have hevents : ((s.perform 0).after smallTable).events =
      [.scroll row, .clicked .direct 6 row] := by
    decide +kernel
  have hgoal : s.goal = .ok ("#t", .row "f2" none, .includes) := by rfl
  have hbefore : before.events = [] := by decide +kernel
  have hclicks := (clicks_inside_row 0 htree).1 s
  rw [ClicksInside.eq_def, hgoal] at hclicks
  obtain ⟨_, _, added, hadded, htold⟩ := hclicks
  have hadded : [.scroll row, .clicked .direct 6 row] = before.events ++ added :=
    hevents.symm.trans hadded
  rw [hbefore, List.nil_append] at hadded
  exact ⟨htree, hevents, htold .direct 6 row (hadded ▸ by simp)⟩

end FlowPilot.Step
