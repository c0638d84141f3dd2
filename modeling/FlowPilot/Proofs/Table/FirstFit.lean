import FlowPilot.Proofs.Table.Search
import FlowPilot.Proofs.Text.Blank

/-!
# The first row that fits

Without interference a search in a table succeeds exactly if some row fits, and it finds the first
one. What cannot be read or seen has no text, so it never fits, and a row without the cell that is
asked for does not fit either.

## Main definitions

* `Table.rowNodes`, `Table.cellNodes`: the rows of a table and the cells of a row.
* `Table.Shows`: a node whose text can be read and fits.
* `Table.FindsFirst`: a search that finds the first row that fits, or nothing if there is none.

## Main statements

* `Table.search_finds_first`: both searches find the first row that fits.
-/

namespace FlowPilot.Table

open Act Page

variable {α : Type} {p q : Page} {dom : Dom} {table : Locator} {text : String}
  {fits : String → Bool} {node row cell index i : Nat}

/-! ### What fits -/

/-- The rows of a table: those of its body, or else all. -/
def rowNodes (dom : Dom) (table : Locator) : List Nat := dom.resolve (rowsOf dom table)

/-- The cells of a row. -/
def cellNodes (dom : Dom) (row : Nat) : List Nat := dom.below [row] cellSelector

/-- Whether the text of a node can be read. -/
def isReadable (dom : Dom) (node : Nat) : Bool :=
  !((dom.element? node).getD { tag := "" }).unreadable

/-- The text of a node can be read, and the normal form of what is visible of it fits. -/
def Shows (dom : Dom) (fits : String → Bool) (node : Nat) : Prop :=
  isReadable dom node = true ∧ fits (Text.normal (dom.visibleTextOf node)) = true

/-- A row has a cell at an index whose text fits. -/
def CellShows (dom : Dom) (fits : String → Bool) (index row : Nat) : Prop :=
  ∃ cell, (cellNodes dom row)[index]? = some cell ∧ Shows dom fits cell

/-- A node that cannot be read or seen. -/
def IsLost (dom : Dom) (node : Nat) : Prop :=
  isReadable dom node = false ∨ dom.isVisible node = false

/-- A search for a row: it succeeds exactly if some row is good, what it finds tells of the first
good row, it fails in one way otherwise, and it only looks at the page. -/
structure FindsFirst (search : Act Page α) (p : Page) (table : Locator) (good : Nat → Prop)
    (index : α → Nat) (tells : α → Nat → Prop) (absent : Fault) : Prop where
  ok_iff : (∃ found, search.result p = .ok found) ↔ ∃ row ∈ rowNodes p.dom table, good row
  first : ∀ found, search.result p = .ok found →
    ∃ row, (rowNodes p.dom table)[index found]? = some row ∧ good row ∧ tells found row ∧
      ∀ j < index found, ∀ row', (rowNodes p.dom table)[j]? = some row' → ¬good row'
  notFound : (∀ row ∈ rowNodes p.dom table, ¬good row) → search.result p = .error absent
  alike : Alike p (search.after p)

/-- A search that goes by the index of the first row that passes a test. -/
theorem FindsFirst.of_findIdx? {search : Act Page α} {good : Nat → Prop} {test : Nat → Bool}
    {index : α → Nat} {tells : α → Nat → Prop} {absent : Fault} {answer : Nat → α}
    (htest : ∀ row, test row = true ↔ good row)
    (hresult : search.result p =
      match (rowNodes p.dom table).findIdx? test with
      | some i => .ok (answer i)
      | none => .error absent)
    (hindex : ∀ i, index (answer i) = i)
    (htells : ∀ i row, (rowNodes p.dom table)[i]? = some row → good row → tells (answer i) row)
    (halike : Alike p (search.after p)) :
    FindsFirst search p table good index tells absent := by
  obtain rfl : good = (test · = true) := funext fun row => propext (htest row).symm
  refine ⟨?_, ?_, ?_, halike⟩
  · rw [hresult]
    cases hfirst : (rowNodes p.dom table).findIdx? test with
    | none => simpa using List.findIdx?_eq_none_iff.mp hfirst
    | some i =>
      obtain ⟨hi, hgood, -⟩ := List.findIdx?_eq_some_iff_getElem.mp hfirst
      exact ⟨fun _ => ⟨_, List.getElem_mem hi, hgood⟩, fun _ => ⟨_, rfl⟩⟩
  · intro found hfound
    rw [hresult] at hfound
    split at hfound
    · rename_i i hfirst
      obtain rfl := Except.ok.inj hfound
      obtain ⟨hi, hgood, hbefore⟩ := List.findIdx?_eq_some_iff_getElem.mp hfirst
      have hrow := List.getElem?_eq_getElem hi
      rw [hindex]
      refine ⟨_, hrow, hgood, htells i _ hrow hgood, fun j hj row' hrow' => ?_⟩
      obtain ⟨_, rfl⟩ := List.getElem?_eq_some_iff.mp hrow'
      exact hbefore j hj
    · exact absurd hfound (by simp)
  · intro hnone
    rw [hresult, List.findIdx?_eq_none_iff.mpr fun row hrow => by simpa using hnone row hrow]

/-! ### What never fits -/

theorem inside_of_mem_cellNodes (h : cell ∈ cellNodes dom row) :
    dom.Inside cell cell := by
  obtain ⟨_, _, hinside⟩ := Dom.inside_of_mem_below h
  exact hinside.self

/-- What cannot be read or seen does not fit. -/
theorem IsLost.not_shows (h : IsLost dom node) (htree : dom.IsTree) (hempty : fits "" = false)
    (hself : dom.Inside node node) : ¬Shows dom fits node := by
  rintro ⟨hreadable, hfits⟩
  rcases h with hunreadable | hhidden
  · exact Bool.false_ne_true (hunreadable.symm.trans hreadable)
  · rw [htree.visibleTextOf_of_hidden hself hhidden] at hfits
    exact Bool.false_ne_true (hempty.symm.trans hfits)

theorem not_cellShows_of_length_le (h : (cellNodes dom row).length ≤ index) :
    ¬CellShows dom fits index row := by
  rintro ⟨cell, hcell, -⟩
  rw [List.getElem?_eq_none h] at hcell
  exact absurd hcell (by simp)

theorem not_cellShows_of_hidden (htree : dom.IsTree) (hempty : fits "" = false)
    (hself : dom.Inside row row) (hhidden : dom.isVisible row = false) :
    ¬CellShows dom fits index row := by
  rintro ⟨cell, hcell, hshows⟩
  obtain ⟨_, hrow, hinside⟩ := Dom.inside_of_mem_below (List.mem_of_getElem? hcell)
  obtain rfl := List.mem_singleton.mp hrow
  -- a cell of a hidden row is hidden itself
  have hlost : IsLost dom cell := .inr (htree.isVisible_of_inside hinside hself hhidden)
  exact hlost.not_shows htree hempty hinside.self hshows

/-! ### Reading without interference -/

/-- The normal form of what can be read of a node. -/
def normalShown (dom : Dom) (node : Nat) : String :=
  if isReadable dom node then Text.normal (dom.visibleTextOf node) else ""

theorem fits_normalShown_iff (hempty : fits "" = false) :
    fits (normalShown dom node) = true ↔ Shows dom fits node := by
  unfold normalShown Shows
  cases isReadable dom node <;> simp [hempty]

theorem normalTextOf_of_calm (hcalm : p.Calm) (target : Locator) :
    (normalTextOf target p).1 = ((p.dom.first? target).map (normalShown p.dom)).getD "" := by
  rw [normalTextOf_fst, result_innerText, hcalm.strikesNext, if_neg Bool.false_ne_true, textRead]
  cases p.dom.first? target with
  | none => rfl
  | some node =>
    cases hgone : ((p.dom.element? node).getD { tag := "" }).unreadable <;>
      simp [normalShown, isReadable, hgone]

/-- Cells that are looked for in a row by its index are those of that row. -/
theorem resolve_cells (hrow : (rowNodes dom table)[i]? = some row) :
    dom.resolve (((rowsOf dom table).nth i).within cellSelector) = cellNodes dom row := by
  rw [Dom.resolve_within, if_neg (by decide), Dom.resolve_nth, ← rowNodes, hrow]
  rfl

/-- What is read of the cell of a row. -/
def cellShown (dom : Dom) (index row : Nat) : Option String :=
  (cellNodes dom row)[index]?.map (normalShown dom)

theorem any_cellShown_iff (hempty : fits "" = false) :
    (cellShown dom index row).any fits = true ↔ CellShows dom fits index row := by
  simp [cellShown, CellShows, Option.any_eq_true, fits_normalShown_iff hempty]

theorem cellText_of_calm (hcalm : p.Calm) (index : Nat)
    (hrow : (rowNodes p.dom table)[i]? = some row) :
    (cellText ((rowsOf p.dom table).nth i) index p).1 = cellShown p.dom index row := by
  have hlook := count_alike (((rowsOf p.dom table).nth i).within cellSelector) p
  rw [cellText_fst, count_orUse_fst, hcalm.strikesNext, if_neg Bool.false_ne_true,
    normalTextOf_of_calm (hlook.calm hcalm), cellOf, hlook.dom, Dom.first?_nth,
    resolve_cells hrow, cellShown]
  -- the index is checked against a count, which is the number of cells here
  rcases Nat.lt_or_ge index (cellNodes p.dom row).length with h | h
  · simp [Nat.not_le.mpr h, h]
  · simp [h]

theorem rows_of_calm (hcalm : p.Calm) (table : Locator) :
    (rows table).result p = .ok (rowsOf p.dom table, (rowNodes p.dom table).length) := by
  have hlook := count_alike (table.within "tbody tr") p
  have hcount : ∀ target q, Alike p q →
      (count target).result q = .ok (p.dom.resolve target).length := by
    intro target q hq
    rw [result_count, (hq.calm hcalm).strikesNext, if_neg Bool.false_ne_true, hq.dom]
  rw [rows, result_bind, hcount _ p (refl_of Alike p), rowNodes, rowsOf]
  dsimp only
  split
  · rfl
  · rw [result_bind, hcount _ _ hlook]
    rfl

theorem readings_of_forall₂ {f : Nat → StateM Page α} {g : Nat → α} {indices nodes : List Nat}
    (hf : ∀ k, Moves Alike (f k))
    (h : List.Forall₂ (fun k row => ∀ q, Alike p q → (f k q).1 = g row) indices nodes)
    (hpq : Alike p q) : (indices.mapM f q).1 = nodes.map g := by
  -- each reading leaves a page like the one before it
  induction h generalizing q with
  | nil => rfl
  | @cons k row indices nodes hk _ ih =>
    rw [List.mapM_cons, bind_apply, bind_apply, hk q hpq, ih (trans_of Alike hpq (hf k q))]
    rfl

theorem readings_of_calm {f : Nat → StateM Page α} {g : Nat → α} (nodes : List Nat)
    (hf : ∀ k, Moves Alike (f k))
    (hg : ∀ k row, nodes[k]? = some row → ∀ q, Alike p q → (f k q).1 = g row)
    (hpq : Alike p q) : ((List.range nodes.length).mapM f q).1 = nodes.map g := by
  refine readings_of_forall₂ hf (List.forall₂_iff_get.mpr ⟨List.length_range, ?_⟩) hpq
  intro k _ hk
  rw [List.get_eq_getElem, List.getElem_range]
  exact hg k _ (List.getElem?_eq_getElem hk)

/-! ### Searching without interference -/

/-- All rows are read before a search goes on, each as the elements tell. -/
theorem result_readRows_of_calm {β : Type} (hcalm : p.Calm) {f : Locator → StateM Page α}
    {g : Nat → α} (hf : ∀ row, Moves Alike (f row))
    (hg : ∀ i row, (rowNodes p.dom table)[i]? = some row →
      ∀ q, Alike p q → (f ((rowsOf p.dom table).nth i) q).1 = g row)
    (choose : Locator × Nat → List α → Act Page β) :
    ∃ q, (do
      let found ← rows table
      let texts ← (List.range found.2).mapM fun i => (f (found.1.nth i) : Act Page α)
      choose found texts).result p =
        (choose (rowsOf p.dom table, (rowNodes p.dom table).length)
          ((rowNodes p.dom table).map g)).result q := by
  let texts := (List.range (rowNodes p.dom table).length).mapM fun i =>
    f ((rowsOf p.dom table).nth i)
  -- what is chosen is told by the texts, so the page after the readings does not matter
  refine ⟨(texts ((rows table).after p)).2, ?_⟩
  rw [result_bind, rows_of_calm hcalm]
  dsimp only
  rw [result_bind, mapM_lift, result_lift, after_lift,
    readings_of_calm _ (fun _ => hf _) hg (rows_alike table p)]

theorem result_findRow_of_calm (hcalm : p.Calm) (htext : Text.isBlankText text = false)
    (table : Locator) (step : String) :
    (findRow table text step).result p =
      match (rowNodes p.dom table).findIdx?
        ((Text.contains · (Text.normal text)) ∘ normalShown p.dom) with
      | some i => .ok ⟨(rowsOf p.dom table).nth i, i, (rowNodes p.dom table).length⟩
      | none => .error (.notFound (.row step text)) := by
  unfold findRow
  rw [if_neg (Text.normal_ne_empty htext)]
  refine (result_readRows_of_calm hcalm (g := normalShown p.dom) normalTextOf_alike ?_ _).elim
    fun q hq => hq.trans ?_
  · intro i row hrow q hq
    rw [normalTextOf_of_calm (hq.calm hcalm), hq.dom, Dom.first?_nth, ← rowNodes, hrow]
    rfl
  · rw [List.findIdx?_map]
    cases (rowNodes p.dom table).findIdx?
      ((Text.contains · (Text.normal text)) ∘ normalShown p.dom) <;> rfl

theorem result_findCell_of_calm (hcalm : p.Calm) (htext : Text.isBlankText text = false)
    (table : Locator) (index : Nat) (mode : MatchMode) (step : String) :
    (findCell table text index mode step).result p =
      match (rowNodes p.dom table).findIdx?
        (Option.any (mode.holds · (Text.normal text)) ∘ cellShown p.dom index) with
      | some i =>
        .ok ⟨(rowsOf p.dom table).nth i, cellOf index ((rowsOf p.dom table).nth i), i⟩
      | none => .error (.notFound (.cell step text)) := by
  unfold findCell
  rw [if_neg (Text.normal_ne_empty htext)]
  refine (result_readRows_of_calm hcalm (g := cellShown p.dom index)
    (fun row => cellText_alike row index) ?_ _).elim fun q hq => hq.trans ?_
  · intro i row hrow q hq
    rw [← hq.dom] at hrow ⊢
    exact cellText_of_calm (hq.calm hcalm) index hrow
  · rw [List.findIdx?_map]
    cases (rowNodes p.dom table).findIdx?
      (Option.any (mode.holds · (Text.normal text)) ∘ cellShown p.dom index) <;> rfl

theorem resolve_row (hrow : (rowNodes dom table)[i]? = some row) :
    dom.resolve ((rowsOf dom table).nth i) = [row] := by
  rw [Dom.resolve_nth, ← rowNodes, hrow]
  rfl

theorem resolve_cell (hrow : (rowNodes dom table)[i]? = some row)
    (hcell : (cellNodes dom row)[index]? = some cell) :
    dom.resolve (cellOf index ((rowsOf dom table).nth i)) = [cell] := by
  rw [cellOf, Dom.resolve_nth, resolve_cells hrow, hcell]
  rfl

/-- Without interference both searches find the first row that fits, by its text or by that of the
cell at an index. What is lost, and a row without such a cell, is passed over. -/
theorem search_finds_first (htree : p.dom.IsTree) (hcalm : p.Calm)
    (htext : Text.isBlankText text = false) (table : Locator) (index : Nat) (mode : MatchMode)
    (step : String) :
    let holds := (Text.contains · (Text.normal text))
    let fits := (mode.holds · (Text.normal text))
    FindsFirst (findRow table text step) p table (Shows p.dom holds) (·.index)
        (fun found row => p.dom.resolve found.row = [row] ∧
          found.count = (rowNodes p.dom table).length)
        (.notFound (.row step text)) ∧
      FindsFirst (findCell table text index mode step) p table (CellShows p.dom fits index)
        (·.rowIndex)
        (fun found row => p.dom.resolve found.row = [row] ∧
          ∃ cell, (cellNodes p.dom row)[index]? = some cell ∧ p.dom.resolve found.cell = [cell])
        (.notFound (.cell step text)) ∧
      ∀ row ∈ rowNodes p.dom table,
        (IsLost p.dom row → ¬Shows p.dom holds row) ∧
        (p.dom.isVisible row = false → ¬CellShows p.dom fits index row) ∧
        ((cellNodes p.dom row).length ≤ index → ¬CellShows p.dom fits index row) ∧
        ∀ cell ∈ cellNodes p.dom row, IsLost p.dom cell → ¬Shows p.dom fits cell := by
  intro holds fits
  have hwanted := Text.normal_ne_empty htext
  -- What cannot be read or seen has the empty text, which fits nothing that is looked for.
  have hholds : holds "" = false := contains_empty hwanted
  have hfits : fits "" = false := holds_empty mode hwanted
  refine ⟨?_, ?_, fun row hrow => ⟨?_, ?_, not_cellShows_of_length_le, ?_⟩⟩
  · refine FindsFirst.of_findIdx? (fun _ => fits_normalShown_iff hholds)
      (result_findRow_of_calm hcalm htext table step) (fun _ => rfl) ?_ (findRow_alike _ _ _ p)
    exact fun i row hrow _ => ⟨resolve_row hrow, rfl⟩
  · refine FindsFirst.of_findIdx? (fun _ => any_cellShown_iff hfits)
      (result_findCell_of_calm hcalm htext table index mode step) (fun _ => rfl) ?_
      (findCell_alike _ _ _ _ _ p)
    rintro i row hrow ⟨cell, hcell, -⟩
    exact ⟨resolve_row hrow, cell, hcell, resolve_cell hrow hcell⟩
  · exact fun hlost => hlost.not_shows htree hholds (inside_of_mem_rowsOf hrow)
  · exact not_cellShows_of_hidden htree hfits (inside_of_mem_rowsOf hrow)
  · exact fun cell hcell hlost =>
      hlost.not_shows htree hfits (inside_of_mem_cellNodes hcell)

/-- A page with a table of four rows: one is short, one is hidden, and of one the second cell cannot
be read. -/
def patchyTable : Page :=
  { Page.opened "" with
    dom := Dom.empty.addTable "t" [["open"], ["F1", "open"], ["F2", "open"], ["F3", "open"]]
      |>.modify 5 ({ · with hidden := true })
      |>.modify 10 ({ · with unreadable := true }) }

/-- The second cell that fits is in the last row, as the only one that is there and can be read. -/
theorem finds_last_row :
    let table := Locator.ofSelector "#t"
    let row := (table.within "tbody tr").nth 3
    patchyTable.dom.IsTree ∧ patchyTable.Calm ∧ Text.isBlankText " OPEN" = false ∧
      (findCell table " OPEN" 1 .exact "clickTableCellLink").result patchyTable =
        .ok ⟨row, cellOf 1 row, 3⟩ ∧
      CellShows patchyTable.dom (MatchMode.exact.holds · (Text.normal " OPEN")) 1 11 ∧
      ∀ j < 3, ∀ row', (rowNodes patchyTable.dom table)[j]? = some row' →
        ¬CellShows patchyTable.dom (MatchMode.exact.holds · (Text.normal " OPEN")) 1 row' := by
  intro table row
  have htree : patchyTable.dom.IsTree := by
    dsimp only [patchyTable]
    exact ((Dom.isTree_empty.addTable _ _).modify _ _).modify _ _
  have hcalm : patchyTable.Calm := fun _ _ => rfl
  have htext : Text.isBlankText " OPEN" = false := by decide
  have hresult : (findCell table " OPEN" 1 .exact "clickTableCellLink").result patchyTable =
      .ok ⟨row, cellOf 1 row, 3⟩ := by
    decide +kernel
  obtain ⟨-, hcell, -⟩ :=
    search_finds_first htree hcalm htext table 1 .exact "clickTableCellLink"
  obtain ⟨found, hfound, hshows, -, hbefore⟩ := hcell.first _ hresult
  have hlast : (rowNodes patchyTable.dom table)[3]? = some 11 := by decide +kernel
  obtain rfl := Option.some.inj (hfound.symm.trans hlast)
  exact ⟨htree, hcalm, htext, hresult, hshows, hbefore⟩

end FlowPilot.Table
