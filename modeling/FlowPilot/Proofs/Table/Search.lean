import FlowPilot.Proofs.Page.Idle
import FlowPilot.Table.Search

/-!
# What a search in a table finds

A search reads the rows one after the other and changes nothing, so all of them are read from the
same elements. A text that cannot be read fits nothing. The row that is found is therefore one whose
text was read and fits, and without interference no row before it could be read to fit.

## Main definitions

* `Table.rowsOf`: the rows of a table, as its elements tell.
* `Table.Finds`: a row that was read and fits.
* `Table.NoneBefore`: no row before it can be read to fit.

## Main statements

* `Table.finds_of_findRow`, `Table.finds_of_findCell`: what both searches find.
-/

namespace FlowPilot.Table

open Act Page

variable {α : Type} {p q : Page} {table target : Locator} {place : Locator → Locator}
  {fits : String → Bool} {text wanted step : String} {i row : Nat}

/-! ### What is found -/

/-- The rows of a table: those of its body, or else all. -/
def rowsOf (dom : Dom) (table : Locator) : Locator :=
  if 0 < (dom.resolve (table.within "tbody tr")).length then table.within "tbody tr"
  else table.within "tr"

theorem inside_of_mem_rowsOf {dom : Dom} (h : row ∈ dom.resolve (rowsOf dom table)) :
    dom.Inside row row := by
  unfold rowsOf at h
  split at h
  · exact Dom.inside_self_of_mem_within (by decide) h
  · exact Dom.inside_self_of_mem_within (by decide) h

/-- A row of a table: at some moment the text at a place in it was read, and its normal form
fits. -/
structure Finds (p : Page) (table : Locator) (place : Locator → Locator) (fits : String → Bool)
    (i row : Nat) : Prop where
  row : (p.dom.resolve (rowsOf p.dom table))[i]? = some row
  read : ∃ q text, Alike p q ∧
    (innerText (place ((rowsOf p.dom table).nth i))).result q = .ok text ∧
      fits (Text.normal text) = true

/-- No row before an index has a text that can be read and fits. -/
def NoneBefore (p : Page) (table : Locator) (place : Locator → Locator) (fits : String → Bool)
    (i : Nat) : Prop :=
  ∀ j < i, ∀ text, p.Reads (place ((rowsOf p.dom table).nth j)) text →
    fits (Text.normal text) = false

theorem Finds.exists_place (h : Finds p table place fits i row) :
    ∃ x, p.dom.first? (place ((rowsOf p.dom table).nth i)) = some x := by
  obtain ⟨_, q, text, hpq, hread, _⟩ := h
  exact (hpq.reads.mp (reads_of_result hread)).exists_node

/-! ### Reading -/

theorem rows_alike (table : Locator) : Leads Alike (rows table) := by
  refine (count_alike _).bind fun n => Leads.ite (Leads.pure _) ?_
  exact (count_alike _).bind fun n => Leads.pure _

theorem eq_length_of_count {n : Nat} (h : (count target).result p = .ok n) :
    n = (p.dom.resolve target).length := by
  rw [result_count] at h
  split at h
  · exact absurd h (by simp)
  · exact (Except.ok.inj h).symm

/-- Rows that are counted are those that the elements tell. -/
theorem eq_rowsOf_of_rows {found : Locator × Nat} (h : (rows table).result p = .ok found) :
    found = (rowsOf p.dom table, (p.dom.resolve (rowsOf p.dom table)).length) := by
  obtain ⟨n, hn, h⟩ := result_bind_eq_ok_iff.mp h
  rw [eq_length_of_count hn] at h
  split at h
  · rename_i hbody
    rw [rowsOf, if_pos hbody]
    exact (Except.ok.inj h).symm
  · rename_i hbody
    obtain ⟨n', hn', h⟩ := result_bind_eq_ok_iff.mp h
    rw [eq_length_of_count hn', (count_alike _ p).dom] at h
    rw [rowsOf, if_neg hbody]
    exact (Except.ok.inj h).symm

theorem normalTextOf_alike (target : Locator) : Moves Alike (normalTextOf target) :=
  ((innerText_alike target).orUse "").bind fun _ => Moves.pure _

theorem cellText_alike (row : Locator) (index : Nat) : Moves Alike (cellText row index) := by
  refine ((count_alike _).orUse 0).bind fun n => Moves.ite (Moves.pure none) ?_
  exact (normalTextOf_alike _).bind fun _ => Moves.pure _

/-- A text that cannot be read is empty. -/
theorem normalTextOf_fst (target : Locator) (p : Page) :
    (normalTextOf target p).1 =
      match (innerText target).result p with
      | .ok text => Text.normal text
      | .error _ => "" := by
  rw [normalTextOf, bind_apply, orUse_fst]
  cases (innerText target).result p <;> rfl

/-- Of several readings each is done on a page like the first one. -/
theorem readings_alike {f : Nat → StateM Page α} (hf : ∀ k, Moves Alike (f k)) (l : List Nat) :
    Moves Alike (l.mapM f) := by
  induction l with
  | nil => exact Moves.pure _
  | cons k l ih =>
    rw [List.mapM_cons]
    exact (hf k).bind fun _ => ih.bind fun _ => Moves.pure _

theorem exists_reading {f : Nat → StateM Page α} (hf : ∀ k, Moves Alike (f k)) (l : List Nat)
    (p : Page) {i : Nat} {a : α} (h : (l.mapM f p).1[i]? = some a) :
    ∃ k q, l[i]? = some k ∧ Alike p q ∧ a = (f k q).1 := by
  induction l generalizing p i with
  | nil =>
    change ([] : List α)[i]? = some a at h
    simp at h
  | cons k l ih =>
    rw [List.mapM_cons, bind_apply, bind_apply] at h
    cases i with
    | zero => exact ⟨k, p, rfl, refl_of Alike p, (Option.some.inj h).symm⟩
    | succ i =>
      obtain ⟨k', q, hk', hq, ha⟩ := ih (f k p).2 h
      exact ⟨k', q, hk', trans_of Alike (hf k p) hq, ha⟩

/-- The first of several readings that is good: it is done on a page like the first one, and so is
each one before it, none of which is good. -/
theorem firstGood {f : Nat → StateM Page α} (hf : ∀ k, Moves Alike (f k)) {n : Nat}
    {good : α → Bool} (h : ((List.range n).mapM f p).1.findIdx? good = some i) :
    i < n ∧ (∃ q, Alike p q ∧ good (f i q).1 = true) ∧
      ∀ j < i, ∃ q, Alike p q ∧ good (f j q).1 = false := by
  obtain ⟨hlength, hgood, hbefore⟩ := List.findIdx?_eq_some_iff_getElem.mp h
  have hreading : ∀ j, (hj : j < ((List.range n).mapM f p).1.length) →
      j < n ∧ ∃ q, Alike p q ∧ ((List.range n).mapM f p).1[j] = (f j q).1 := by
    intro j hj
    obtain ⟨k, q, hk, hq, ha⟩ := exists_reading hf _ p (List.getElem?_eq_getElem hj)
    obtain ⟨hjn, rfl⟩ : j < n ∧ j = k := by simpa [List.getElem?_eq_some_iff] using hk
    exact ⟨hjn, q, hq, ha⟩
  refine ⟨(hreading i hlength).1, ?_, fun j hj => ?_⟩
  · obtain ⟨-, q, hq, ha⟩ := hreading i hlength
    exact ⟨q, hq, ha ▸ hgood⟩
  · obtain ⟨-, q, hq, ha⟩ := hreading j (hj.trans hlength)
    exact ⟨q, hq, ha ▸ Bool.eq_false_iff.mpr (hbefore j hj)⟩

/-- A search whose readings are good exactly where a text is read that fits. -/
theorem finds_of_firstGood (place : Locator → Locator) (fits : String → Bool)
    {f : Nat → StateM Page α} {good : α → Bool} (hf : ∀ k, Moves Alike (f k))
    (hgood : ∀ k q, good (f k q).1 = true → ∃ r text, Alike q r ∧
      (innerText (place ((rowsOf p.dom table).nth k))).result r = .ok text ∧
        fits (Text.normal text) = true)
    (hbad : ∀ k q, q.Calm → good (f k q).1 = false → ∀ text,
      q.Reads (place ((rowsOf p.dom table).nth k)) text → fits (Text.normal text) = false)
    (hpq : Alike p q)
    (h : ((List.range (p.dom.resolve (rowsOf p.dom table)).length).mapM f q).1.findIdx? good =
      some i) :
    ∃ row, Finds p table place fits i row ∧ (p.Calm → NoneBefore p table place fits i) := by
  obtain ⟨hi, ⟨r, hr, hfound⟩, hbefore⟩ := firstGood hf h
  obtain ⟨r', text, hr', hread⟩ := hgood i r hfound
  have hpr' := trans_of Alike hpq (trans_of Alike hr hr')
  refine ⟨_, ⟨List.getElem?_eq_getElem hi, r', text, hpr', hread⟩, ?_⟩
  intro hcalm j hj text hreads
  obtain ⟨s, hs, hmissed⟩ := hbefore j hj
  have hps := trans_of Alike hpq hs
  exact hbad j s (hps.calm hcalm) hmissed text (hps.reads.mpr hreads)

/-! ### Rows -/

/-- A reading that fits was a text, unless the empty text fits. -/
theorem read_of_fits (hempty : fits "" = false) (h : fits (normalTextOf target p).1 = true) :
    ∃ text, (innerText target).result p = .ok text ∧ fits (Text.normal text) = true := by
  rw [normalTextOf_fst] at h
  cases hread : (innerText target).result p with
  | error e =>
    rw [hread] at h
    exact absurd (hempty.symm.trans h) Bool.false_ne_true
  | ok text =>
    rw [hread] at h
    exact ⟨text, rfl, h⟩

/-- Without interference a text that can be read is what the reading gives. -/
theorem normalTextOf_of_reads (hcalm : p.Calm) (h : p.Reads target text) :
    (normalTextOf target p).1 = Text.normal text := by
  rw [normalTextOf_fst, h.result hcalm]

theorem findRow_alike (table : Locator) (target step : String) :
    Leads Alike (findRow table target step) := by
  unfold findRow
  refine Leads.ite ((Leads.throw _).bind fun _ => ?_) ?_
  all_goals
    refine (rows_alike table).bind fun (rows, n) => Leads.bind ?_ fun texts => ?_
    · rw [mapM_lift]
      exact readings_alike (fun _ => normalTextOf_alike _) _
    · split
      · exact Leads.pure _
      · exact Leads.throw _

/-- Only the empty text occurs in the empty text. -/
theorem contains_empty (h : wanted ≠ "") : Text.contains "" wanted = false := by
  rw [Text.contains, String.toList_empty, Text.occursIn, List.isEmpty_eq_false_iff]
  exact fun hnil => h (String.toList_eq_nil_iff.mp hnil)

/-- The first row whose text fits. -/
theorem finds_of_firstRow (fits : String → Bool) (hempty : fits "" = false) (hpq : Alike p q)
    (h : ((List.range (p.dom.resolve (rowsOf p.dom table)).length).mapM
      (fun k => normalTextOf ((rowsOf p.dom table).nth k)) q).1.findIdx? fits = some i) :
    ∃ row, Finds p table id fits i row ∧ (p.Calm → NoneBefore p table id fits i) := by
  refine finds_of_firstGood id fits (fun _ => normalTextOf_alike _) ?_ ?_ hpq h
  · intro k q hk
    obtain ⟨text, hread⟩ := read_of_fits hempty hk
    exact ⟨q, text, refl_of Alike q, hread⟩
  · intro k q hcalm hk text hreads
    rw [← normalTextOf_of_reads hcalm hreads]
    exact hk

/-- The row that is found by its text. -/
theorem finds_of_findRow {found : RowMatch} (h : (findRow table text step).result p = .ok found) :
    ∃ row, found.row = (rowsOf p.dom table).nth found.index ∧
      Finds p table id (Text.contains · (Text.normal text)) found.index row ∧
      (p.Calm → NoneBefore p table id (Text.contains · (Text.normal text)) found.index) := by
  simp only [findRow] at h
  split at h
  · exact absurd h (by simp)
  rename_i hwanted
  obtain ⟨_, hrows, h⟩ := result_bind_eq_ok_iff.mp h
  rw [eq_rowsOf_of_rows hrows, mapM_lift] at h
  obtain ⟨texts, htexts, h⟩ := result_bind_eq_ok_iff.mp h
  obtain rfl := Except.ok.inj htexts
  split at h
  · rename_i i hfirst
    obtain rfl := Except.ok.inj h
    obtain ⟨row, hfinds⟩ := finds_of_firstRow (Text.contains · (Text.normal text))
      (contains_empty hwanted) (rows_alike table p) hfirst
    exact ⟨row, rfl, hfinds⟩
  · exact absurd h (by simp)

/-! ### Cells -/

theorem findCell_alike (table : Locator) (target : String) (index : Nat) (mode : MatchMode)
    (step : String) : Leads Alike (findCell table target index mode step) := by
  unfold findCell
  refine Leads.ite ((Leads.throw _).bind fun _ => ?_) ?_
  all_goals
    refine (rows_alike table).bind fun (rows, n) => Leads.bind ?_ fun texts => ?_
    · rw [mapM_lift]
      exact readings_alike (fun _ => cellText_alike _ _) _
    · split
      · exact Leads.pure _
      · exact Leads.throw _

/-- The cell of a row at an index. -/
def cellOf (index : Nat) (row : Locator) : Locator := (row.within cellSelector).nth index

/-- A row with too few cells has no text in the cell, any other one that of the cell. -/
theorem cellText_fst (row : Locator) (index : Nat) (p : Page) :
    (cellText row index p).1 =
      if ((count (row.within cellSelector)).orUse 0 p).1 ≤ index then none
      else
        some (normalTextOf (cellOf index row) ((count (row.within cellSelector)).after p)).1 := by
  rw [cellText, bind_apply, orUse_snd]
  split <;> rfl

/-- The first row with a cell whose text fits. -/
theorem finds_of_firstCell (fits : String → Bool) {index : Nat} (hempty : fits "" = false)
    (hpq : Alike p q)
    (h : ((List.range (p.dom.resolve (rowsOf p.dom table)).length).mapM
      (fun k => cellText ((rowsOf p.dom table).nth k) index) q).1.findIdx? (·.any fits) = some i) :
    ∃ row, Finds p table (cellOf index) fits i row ∧
      (p.Calm → NoneBefore p table (cellOf index) fits i) := by
  refine finds_of_firstGood (cellOf index) fits (fun _ => cellText_alike _ _) ?_ ?_ hpq h
  · intro k q hk
    rw [cellText_fst] at hk
    split at hk
    · exact absurd hk Bool.false_ne_true
    · obtain ⟨text, hread⟩ := read_of_fits hempty hk
      exact ⟨_, text, count_alike _ q, hread⟩
  · intro k q hcalm hk text hreads
    -- a cell with a text to read is one of those that are counted
    obtain ⟨node, hnode⟩ := hreads.exists_node
    rw [cellOf, Dom.first?_nth] at hnode
    obtain ⟨hindex, _⟩ := List.getElem?_eq_some_iff.mp hnode
    have hcount := result_count (((rowsOf p.dom table).nth k).within cellSelector) q
    rw [hcalm.strikesNext, if_neg Bool.false_ne_true] at hcount
    rw [cellText_fst, orUse_fst, hcount, if_neg (Nat.not_le.mpr hindex)] at hk
    have hcounted := count_alike (((rowsOf p.dom table).nth k).within cellSelector) q
    rw [← normalTextOf_of_reads (hcounted.calm hcalm) (hcounted.reads.mpr hreads)]
    exact hk

/-- No mode finds a text in the empty one. -/
theorem holds_empty (mode : MatchMode) (h : wanted ≠ "") : mode.holds "" wanted = false := by
  cases mode with
  | includes => exact contains_empty h
  | exact => exact beq_eq_false_iff_ne.mpr h.symm

/-- The row that is found by the text of a cell. -/
theorem finds_of_findCell {found : CellMatch} {index : Nat} {mode : MatchMode}
    (h : (findCell table text index mode step).result p = .ok found) :
    ∃ row, found.row = (rowsOf p.dom table).nth found.rowIndex ∧
      found.cell = cellOf index found.row ∧
      Finds p table (cellOf index) (mode.holds · (Text.normal text)) found.rowIndex row ∧
      (p.Calm →
        NoneBefore p table (cellOf index) (mode.holds · (Text.normal text)) found.rowIndex) := by
  simp only [findCell] at h
  split at h
  · exact absurd h (by simp)
  rename_i hwanted
  obtain ⟨_, hrows, h⟩ := result_bind_eq_ok_iff.mp h
  rw [eq_rowsOf_of_rows hrows, mapM_lift] at h
  obtain ⟨texts, htexts, h⟩ := result_bind_eq_ok_iff.mp h
  obtain rfl := Except.ok.inj htexts
  split at h
  · rename_i i hfirst
    obtain rfl := Except.ok.inj h
    obtain ⟨row, hfinds⟩ := finds_of_firstCell (mode.holds · (Text.normal text))
      (holds_empty mode hwanted) (rows_alike table p) hfirst
    exact ⟨row, rfl, rfl, hfinds⟩
  · exact absurd h (by simp)

end FlowPilot.Table
