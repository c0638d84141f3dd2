import FlowPilot.Proofs.Page.Idle
import FlowPilot.Proofs.Poll

/-!
# What time brings

What a page does on its own depends on its elements and on what is due, not on how often it was
looked at. Where the schedule is in order, it does not matter in how many parts time passes.

## Main definitions

* `Page.framed`: a page with another schedule, clock and interference.

## Main statements

* `Page.pass_alike`: looking at a page does not change what time brings.
* `Page.pass_pass`: time that passes in two parts.
* `Page.waited_eq_pass`: a page at an instant of a poll, if only time passes.
* `Page.started_alike`: looks leave the instants of a poll to time alone.
-/

namespace FlowPilot.Page

open Act (Moves)

variable {p q : Page}

instance : Clock.IsLawful Page := ⟨fun _ _ => rfl⟩

theorem Alike.url (h : Alike p q) : q.url = p.url := by
  obtain ⟨calls, rfl⟩ := h
  rfl

theorem Alike.clock (h : Alike p q) : q.clock = p.clock := by
  obtain ⟨calls, rfl⟩ := h
  rfl

/-! ### What is kept out of an appointment -/

/-- A page with another schedule, clock and interference. -/
def framed (p : Page) (schedule : List Appointment) (clock : Nat) (interference : Interference) :
    Page :=
  { p with schedule := schedule, clock := clock, interference := interference }

section Framed

variable (schedule : List Appointment) (clock : Nat) (interference : Interference)

@[simp]
theorem framed_dom (p : Page) : (p.framed schedule clock interference).dom = p.dom := rfl

theorem foldl_applyEffect_framed (effects : List Element.Effect) (p : Page) :
    effects.foldl applyEffect (p.framed schedule clock interference) =
      (effects.foldl applyEffect p).framed schedule clock interference := by
  induction effects generalizing p with
  | nil => rfl
  | cons e rest ih =>
    rw [List.foldl_cons, List.foldl_cons, ← ih]
    cases e <;> rfl

theorem accept_framed (p : Page) (kind : ClickKind) (node : Nat) (target : Locator) :
    (p.framed schedule clock interference).accept kind node target =
      (p.accept kind node target).framed schedule clock interference :=
  foldl_applyEffect_framed schedule clock interference _ (p.log (.clicked kind node target))

theorem keep_framed (p : Page) (a : Appointment) :
    (p.framed schedule clock interference).keep a =
      (p.keep a).framed schedule clock interference := by
  have hclicked : ∀ node,
      ((p.framed schedule clock interference).clicked .dispatched a.target node).2 =
        (p.clicked .dispatched a.target node).2.framed schedule clock interference := by
    intro node
    rw [clicked, clicked, framed_dom]
    split
    · rfl
    · exact accept_framed schedule clock interference p _ _ _
  rw [keep, keep, framed_dom]
  cases p.dom.first? a.target with
  | some node => exact hclicked node
  | none => rfl

theorem foldl_keep_framed (due : List Appointment) (p : Page) :
    due.foldl keep (p.framed schedule clock interference) =
      (due.foldl keep p).framed schedule clock interference := by
  induction due generalizing p with
  | nil => rfl
  | cons a rest ih => rw [List.foldl_cons, List.foldl_cons, keep_framed, ih]

/-- What happens when time passes, apart from the time itself. -/
theorem pass_framed (ms : Nat) (p : Page) :
    pass ms (p.framed schedule clock interference) =
      ((schedule.filter fun a => decide (a.time ≤ clock + ms)).foldl keep p).framed
        (schedule.filter fun a => !decide (a.time ≤ clock + ms)) (clock + ms) interference :=
  congrArg (fun q : Page => { q with clock := clock + ms })
    (foldl_keep_framed (schedule.filter fun a => !decide (a.time ≤ clock + ms)) clock
      interference _ p)

end Framed

/-! ### Passing time -/

theorem pass_eq (ms : Nat) (p : Page) :
    pass ms p =
      ((p.schedule.filter fun a => decide (a.time ≤ p.clock + ms)).foldl keep p).framed
        (p.schedule.filter fun a => !decide (a.time ≤ p.clock + ms)) (p.clock + ms)
        p.interference :=
  pass_framed p.schedule p.clock p.interference ms p

theorem pass_of_nothing_due {ms : Nat} (h : ∀ a ∈ p.schedule, p.clock + ms < a.time) :
    pass ms p = { p with clock := p.clock + ms } := by
  have hdue : (p.schedule.filter fun a => decide (a.time ≤ p.clock + ms)) = [] := by
    simpa using h
  have hlater : (p.schedule.filter fun a => !decide (a.time ≤ p.clock + ms)) = p.schedule := by
    simpa using h
  rw [pass_eq, hdue, hlater]
  rfl

/-- Looking at a page does not change what time brings. -/
theorem pass_alike (h : Alike p q) (ms : Nat) : Alike (pass ms p) (pass ms q) := by
  obtain ⟨calls, rfl⟩ := h
  refine ⟨calls, (pass_framed p.schedule p.clock _ ms p).trans ?_⟩
  rw [pass_eq]
  rfl

/-- What is due first and what is due after that is what is due in the end. -/
theorem filter_append_filter {schedule : List Appointment} {t t' : Nat} (htime : t ≤ t')
    (horder : schedule.Pairwise (·.time ≤ ·.time)) :
    (schedule.filter fun a => decide (a.time ≤ t)) ++
        ((schedule.filter fun a => !decide (a.time ≤ t)).filter fun a => decide (a.time ≤ t')) =
      schedule.filter fun a => decide (a.time ≤ t') := by
  induction schedule with
  | nil => rfl
  | cons a rest ih =>
    obtain ⟨hfirst, hrest⟩ := List.pairwise_cons.mp horder
    by_cases hdue : a.time ≤ t
    · simp [hdue, hdue.trans htime, ← ih hrest]
    · -- what comes behind something that is not yet due is not yet due either
      have hlater : ∀ b ∈ rest, ¬b.time ≤ t := fun b hb hle => hdue ((hfirst b hb).trans hle)
      have hnone : rest.filter (fun a => decide (a.time ≤ t)) = [] := by
        simpa using hlater
      have hall : rest.filter (fun a => !decide (a.time ≤ t)) = rest := by
        simpa using hlater
      simp [hdue, hnone, hall]

theorem pass_pass (horder : p.schedule.Pairwise (·.time ≤ ·.time)) (ms ms' : Nat) :
    pass ms' (pass ms p) = pass (ms + ms') p := by
  have htime : p.clock + ms ≤ p.clock + ms + ms' := Nat.le_add_right _ _
  have hdue := filter_append_filter htime horder
  have hlater : ((p.schedule.filter fun a => !decide (a.time ≤ p.clock + ms)).filter fun a =>
      !decide (a.time ≤ p.clock + ms + ms')) =
      p.schedule.filter fun a => !decide (a.time ≤ p.clock + ms + ms') := by
    rw [List.filter_filter]
    refine List.filter_congr fun a _ => ?_
    rw [← Bool.not_or]
    congr 1
    rw [Bool.or_eq_left_iff_imp]
    simpa using fun hle : a.time ≤ p.clock + ms => hle.trans htime
  rw [pass_eq ms, pass_framed, hlater, pass_eq (ms + ms'), ← Nat.add_assoc, ← hdue,
    List.foldl_append]

/-- A page at an instant of a poll, if only time passes and the schedule is in order. -/
theorem waited_eq_pass (horder : p.schedule.Pairwise (·.time ≤ ·.time))
    (timeout interval k : Nat) :
    Poll.waited timeout interval p (k + 1) =
      pass (Poll.instant timeout interval (k + 1)) p := by
  induction k with
  | zero =>
    have hfirst : Poll.instant timeout interval 0 = 0 := by simp [Poll.instant]
    rw [Poll.waited, hfirst]
    rfl
  | succ k ih =>
    have hle : Poll.instant timeout interval (k + 1) ≤ Poll.instant timeout interval (k + 2) := by
      rw [Poll.instant_succ timeout interval (k + 1)]
      exact Nat.le_add_right _ _
    rw [Poll.waited, ih]
    exact (pass_pass horder _ _).trans (by rw [Nat.add_sub_cancel' hle])

theorem waited_idles (timeout interval : Nat) (p : Page) (k : Nat) :
    Idles p (Poll.waited timeout interval p k) := by
  induction k with
  | zero => exact .here
  | succ k ih => exact ih.pass _

theorem clock_waited (timeout interval : Nat) (p : Page) (k : Nat) :
    (Poll.waited timeout interval p k).clock = p.clock + min (k * interval) timeout :=
  Poll.now_waited timeout interval p k

/-- Looks that change nothing leave the instants of a poll to time alone. -/
theorem started_alike {ε α : Type} {check : StateM Page (Except ε (Option α))}
    (hcheck : Moves Alike check) (timeout interval : Nat) (p : Page) (k : Nat) :
    Alike (Poll.waited timeout interval p k)
      (Poll.started (Clock.now p + timeout) interval check p k) := by
  induction k with
  | zero => exact refl_of Alike p
  | succ k ih =>
    have hended := trans_of Alike ih (hcheck _)
    -- the look ends when it began, so that the poll sleeps until the next instant
    have hsleep : min interval (p.clock + timeout -
        (check (Poll.started (Clock.now p + timeout) interval check p k)).2.clock) =
        Poll.instant timeout interval (k + 1) - Poll.instant timeout interval k := by
      rw [hended.clock, clock_waited, Poll.instant_succ, Poll.instant]
      omega
    have hpassed := pass_alike hended
      (Poll.instant timeout interval (k + 1) - Poll.instant timeout interval k)
    rw [← hsleep] at hpassed
    rw [Poll.waited, ← hsleep]
    exact hpassed

end FlowPilot.Page
