import FlowPilot.Poll
import FlowPilot.Proofs.Act
import Mathlib.Data.Nat.Find
import Mathlib.Order.Basic
import Mathlib.Tactic.Push

/-!
# When a poll looks

A poll ends with the first check that finds something or does not end before the deadline. As long
as checks take no time they are made at the multiples of the interval, and the last one at the end
of the time.

## Main definitions

* `Clock.IsLawful`: a clock that only sleep moves forward.
* `Poll.started`: the state in which a check begins.
* `Poll.instant`: when a check of a poll is made.
* `Poll.waited`: the state at an instant, if only time passes.
* `Poll.Timed`: a clock that notes when checks begin.

## Main statements

* `Poll.checkUntil_skip`: checks that find nothing in time can be skipped.
* `Poll.upTo_of_instant`: how a poll ends whose checks take no time.
* `Poll.upTo_scripted`: when a poll looks, whatever its checks find and however long they take.
-/

namespace FlowPilot

/-- A clock on which as much time passes as somebody sleeps. -/
class Clock.IsLawful (σ : Type) [Clock σ] : Prop where
  now_sleep (ms : Nat) (s : σ) : Clock.now (Clock.sleep ms s) = Clock.now s + ms

namespace Poll

open Act (Moves bind_apply)

variable {σ ε α : Type} [Clock σ]
variable {check : StateM σ (Except ε (Option α))} {s : σ}
variable {deadline patience timeout interval budget attempts k : Nat} {last : Option ε}

/-! ### One check -/

/-- What a check found, if it found something. -/
def found? : Except ε (Option α) → Option α
  | .ok value => value
  | .error _ => none

/-- The failure of a check. -/
def failure? : Except ε (Option α) → Option ε
  | .ok _ => none
  | .error e => some e

theorem found?_eq_some_iff {seen : Except ε (Option α)} {value : α} :
    found? seen = some value ↔ seen = .ok (some value) := by
  cases seen <;> simp [found?]

theorem checkUntil_succ :
    checkUntil deadline interval check (budget + 1) attempts last s =
      match found? (check s).1 with
      | some value => (.found value, (check s).2)
      | none =>
        if deadline ≤ Clock.now (check s).2 then
          (.timedOut (attempts + 1) (lastFailure last (check s).1), (check s).2)
        else
          checkUntil deadline interval check budget (attempts + 1) (lastFailure last (check s).1)
            (Clock.sleep (min interval (deadline - Clock.now (check s).2)) (check s).2) := by
  rw [checkUntil, bind_apply]
  rcases check s with ⟨_ | _ | value, t⟩
  case ok.some => rfl
  all_goals
    change (if deadline ≤ Clock.now t then pure _ else _ : StateM σ (Outcome ε α)) t = _
    simp only [found?]
    split <;> rfl

/-! ### Checks in a row -/

/-- A check after which a poll goes on: it finds nothing and ends before the deadline. -/
def GoesOn (deadline : Nat) (check : StateM σ (Except ε (Option α))) (s : σ) : Prop :=
  found? (check s).1 = none ∧ Clock.now (check s).2 < deadline

/-- The state in which a check begins, counted from zero, if the poll goes on until then. -/
def started (deadline interval : Nat) (check : StateM σ (Except ε (Option α))) (s : σ) : Nat → σ
  | 0 => s
  | k + 1 =>
    let ended := (check (started deadline interval check s k)).2
    Clock.sleep (min interval (deadline - Clock.now ended)) ended

/-- The last failure before a check. -/
def failureBefore (deadline interval : Nat) (check : StateM σ (Except ε (Option α))) (s : σ) :
    Nat → Option ε
  | 0 => none
  | k + 1 =>
    lastFailure (failureBefore deadline interval check s k)
      (check (started deadline interval check s k)).1

/-- How a poll ends, and the state that it leaves, if it ends with a certain check. -/
def endAt (deadline interval : Nat) (check : StateM σ (Except ε (Option α))) (s : σ) (k : Nat) :
    Outcome ε α × σ :=
  let ended := (check (started deadline interval check s k)).2
  match found? (check (started deadline interval check s k)).1 with
  | some value => (.found value, ended)
  | none => (.timedOut (k + 1) (failureBefore deadline interval check s (k + 1)), ended)

theorem endAt_of_found {value : α}
    (h : (check (started deadline interval check s k)).1 = .ok (some value)) :
    endAt deadline interval check s k =
      (.found value, (check (started deadline interval check s k)).2) := by
  rw [endAt, h]
  rfl

theorem endAt_of_failure {e : ε}
    (h : (check (started deadline interval check s k)).1 = .error e) :
    endAt deadline interval check s k =
      (.timedOut (k + 1) (some e), (check (started deadline interval check s k)).2) := by
  rw [endAt, failureBefore, h]
  rfl

theorem checkUntil_skip
    (h : ∀ j < k, GoesOn deadline check (started deadline interval check s j)) :
    checkUntil deadline interval check (budget + k) 0 none s =
      checkUntil deadline interval check budget k (failureBefore deadline interval check s k)
        (started deadline interval check s k) := by
  induction k generalizing budget with
  | zero => rfl
  | succ k ih =>
    obtain ⟨hnothing, hearly⟩ := h k (Nat.lt_succ_self k)
    rw [show budget + (k + 1) = budget + 1 + k by omega, ih fun j hj => h j (by omega),
      checkUntil_succ, hnothing]
    exact if_neg (Nat.not_le.mpr hearly)

/-- A poll ends with the first check after which it does not go on. -/
theorem checkUntil_eq_endAt
    (hbefore : ∀ j < k, GoesOn deadline check (started deadline interval check s j))
    (hend : ¬GoesOn deadline check (started deadline interval check s k)) (hbudget : k < budget) :
    checkUntil deadline interval check budget 0 none s = endAt deadline interval check s k := by
  obtain ⟨rest, rfl⟩ : ∃ rest, budget = rest + 1 + k := ⟨budget - k - 1, by omega⟩
  rw [checkUntil_skip hbefore, checkUntil_succ, endAt]
  cases hfound : found? (check (started deadline interval check s k)).1 with
  | some value => rfl
  | none => exact if_pos (Nat.not_lt.mp fun hearly => hend ⟨hfound, hearly⟩)

theorem upTo_eq (hinterval : 0 < interval) :
    upTo patience timeout interval check s =
      checkUntil (Clock.now s + timeout) interval check (timeout + 1) 0 none s := by
  rw [upTo, if_neg (Nat.pos_iff_ne_zero.mp hinterval)]
  rfl

section Lawful

variable [Clock.IsLawful σ]

theorem now_started_succ :
    Clock.now (started deadline interval check s (k + 1)) =
      Clock.now (check (started deadline interval check s k)).2 +
        min interval (deadline - Clock.now (check (started deadline interval check s k)).2) :=
  Clock.IsLawful.now_sleep _ _

/-- No check begins after the deadline. -/
theorem now_started_le (hstart : Clock.now s ≤ deadline)
    (hbefore : ∀ j < k, GoesOn deadline check (started deadline interval check s j)) :
    Clock.now (started deadline interval check s k) ≤ deadline := by
  cases k with
  | zero => exact hstart
  | succ k =>
    have hearly := (hbefore k (Nat.lt_succ_self k)).2
    rw [now_started_succ]
    omega

theorem le_now_started (hinterval : 0 < interval)
    (hcheck : ∀ t, Clock.now t ≤ Clock.now (check t).2)
    (hbefore : ∀ j < k, GoesOn deadline check (started deadline interval check s j)) :
    Clock.now s + k ≤ Clock.now (started deadline interval check s k) := by
  induction k with
  | zero => exact le_rfl
  | succ k ih =>
    have hearly := (hbefore k (Nat.lt_succ_self k)).2
    have hle := ih fun j hj => hbefore j (by omega)
    have hmono := hcheck (started deadline interval check s k)
    rw [now_started_succ]
    omega

/-- A poll goes on after no more checks than there are milliseconds. -/
theorem exists_end (deadline : Nat) (s : σ) (hinterval : 0 < interval)
    (hcheck : ∀ t, Clock.now t ≤ Clock.now (check t).2) :
    ∃ k ≤ deadline - Clock.now s,
      (∀ j < k, GoesOn deadline check (started deadline interval check s j)) ∧
        ¬GoesOn deadline check (started deadline interval check s k) := by
  classical
  have hends : ∃ k, k ≤ deadline - Clock.now s ∧
      ¬GoesOn deadline check (started deadline interval check s k) := by
    by_contra hnone
    push Not at hnone
    -- a poll that goes on for so many checks is past its deadline
    have hle := le_now_started hinterval hcheck fun j hj => hnone j (Nat.le_of_lt hj)
    have hearly := (hnone (deadline - Clock.now s) le_rfl).2
    have hmono := hcheck (started deadline interval check s (deadline - Clock.now s))
    omega
  refine ⟨Nat.find hends, (Nat.find_spec hends).1, fun j hj => ?_, (Nat.find_spec hends).2⟩
  by_contra hnot
  have hle := (Nat.find_spec hends).1
  exact Nat.find_min hends hj ⟨by omega, hnot⟩

/-- A poll ends with the first check after which it does not go on, and the budget suffices. -/
theorem upTo_ends (patience timeout : Nat) (s : σ) (hinterval : 0 < interval)
    (hcheck : ∀ t, Clock.now t ≤ Clock.now (check t).2) :
    ∃ k, (∀ j < k, GoesOn (Clock.now s + timeout) check
          (started (Clock.now s + timeout) interval check s j)) ∧
      ¬GoesOn (Clock.now s + timeout) check
          (started (Clock.now s + timeout) interval check s k) ∧
      upTo patience timeout interval check s =
        endAt (Clock.now s + timeout) interval check s k := by
  obtain ⟨k, hk, hbefore, hend⟩ := exists_end (Clock.now s + timeout) s hinterval hcheck
  refine ⟨k, hbefore, hend, ?_⟩
  rw [upTo_eq hinterval, checkUntil_eq_endAt hbefore hend (by omega)]

/-! ### Checks that take no time -/

/-- When a check of a poll is made, if the checks take no time. -/
def instant (timeout interval k : Nat) : Nat := min (k * interval) timeout

/-- The number of the check that is made at the end of the time: the time divided by the interval,
rounded up. -/
def lastNumber (timeout interval : Nat) : Nat := (timeout + interval - 1) / interval

/-- The state at the instant of a check, if nothing happens but that time passes from one instant
to the next. -/
def waited (timeout interval : Nat) (s : σ) : Nat → σ
  | 0 => s
  | k + 1 =>
    Clock.sleep (instant timeout interval (k + 1) - instant timeout interval k)
      (waited timeout interval s k)

theorem instant_succ (timeout interval k : Nat) :
    instant timeout interval (k + 1) =
      instant timeout interval k + min interval (timeout - instant timeout interval k) := by
  rw [instant, instant, Nat.succ_mul]
  omega

theorem instant_lt_iff (timeout k : Nat) (hinterval : 0 < interval) :
    instant timeout interval k < timeout ↔ k < lastNumber timeout interval := by
  have hdiv : lastNumber timeout interval ≤ k ↔ timeout ≤ k * interval := by
    rw [lastNumber, ← Nat.lt_succ_iff, Nat.div_lt_iff_lt_mul hinterval, Nat.succ_mul]
    omega
  rw [instant]
  omega

theorem instant_lastNumber (timeout : Nat) (hinterval : 0 < interval) :
    instant timeout interval (lastNumber timeout interval) = timeout := by
  have hlast := instant_lt_iff timeout (lastNumber timeout interval) hinterval
  have hle : instant timeout interval (lastNumber timeout interval) ≤ timeout := min_le_right _ _
  omega

theorem now_waited (timeout interval : Nat) (s : σ) (k : Nat) :
    Clock.now (waited timeout interval s k) = Clock.now s + instant timeout interval k := by
  induction k with
  | zero => simp [waited, instant]
  | succ k ih =>
    rw [waited, Clock.IsLawful.now_sleep, ih, instant_succ]
    omega

/-- Only one check is the first that finds something, or the last one if none does. -/
theorem eq_of_first {FindsNothing : Nat → Prop} {k' last : Nat}
    (hbefore : ∀ j < k, FindsNothing j) (hlast : FindsNothing k → k = last)
    (hk' : k' ≤ last) (hfound : ¬FindsNothing k') (hbefore' : ∀ j < k', FindsNothing j) :
    k = k' := by
  rcases lt_trichotomy k k' with hlt | heq | hgt
  · exact absurd (hlast (hbefore' k hlt)) (Nat.ne_of_lt (hlt.trans_le hk'))
  · exact heq
  · exact absurd (hbefore k' hgt) hfound

section Instant

variable (hinstant : ∀ t, Clock.now (check t).2 = Clock.now t)

include hinstant

theorem now_started_of_instant :
    Clock.now (started (Clock.now s + timeout) interval check s k) =
      Clock.now s + instant timeout interval k := by
  induction k with
  | zero => simp [started, instant]
  | succ k ih =>
    rw [now_started_succ, hinstant, ih, instant_succ]
    omega

theorem goesOn_iff_of_instant (hinterval : 0 < interval) :
    GoesOn (Clock.now s + timeout) check
        (started (Clock.now s + timeout) interval check s k) ↔
      found? (check (started (Clock.now s + timeout) interval check s k)).1 = none ∧
        k < lastNumber timeout interval := by
  rw [GoesOn, hinstant, now_started_of_instant hinstant, ← instant_lt_iff _ _ hinterval,
    Nat.add_lt_add_iff_left]

/-- Where checks take no time, a poll ends with the first one that finds something, or with the one
at the end of the time. -/
theorem upTo_of_instant (patience timeout : Nat) (s : σ) (hinterval : 0 < interval) :
    ∃ k ≤ lastNumber timeout interval,
      (∀ j < k, found? (check (started (Clock.now s + timeout) interval check s j)).1 = none) ∧
      (found? (check (started (Clock.now s + timeout) interval check s k)).1 = none →
        k = lastNumber timeout interval) ∧
      upTo patience timeout interval check s =
        endAt (Clock.now s + timeout) interval check s k := by
  obtain ⟨k, hbefore, hend, heq⟩ := upTo_ends patience timeout s hinterval fun t => (hinstant t).ge
  simp only [goesOn_iff_of_instant hinstant hinterval] at hbefore hend
  have hk : k ≤ lastNumber timeout interval := by
    cases k with
    | zero => exact Nat.zero_le _
    | succ k => exact (hbefore k (Nat.lt_succ_self k)).2
  refine ⟨k, hk, fun j hj => (hbefore j hj).1, fun hnothing => ?_, heq⟩
  exact le_antisymm hk (Nat.not_lt.mp fun hlt => hend ⟨hnothing, hlt⟩)

end Instant

end Lawful

/-! ### What a poll finds -/

section Found

variable {R : σ → σ → Prop} [IsPreorder σ R] {value : α}

/-- Looks and sleep are all that a poll does. -/
theorem checkUntil_moves (hcheck : Moves R check) (hsleep : ∀ ms t, R t (Clock.sleep ms t)) :
    Moves R (checkUntil deadline interval check budget attempts last) := by
  intro s
  induction budget generalizing attempts last s with
  | zero => exact refl_of R s
  | succ budget ih =>
    rw [checkUntil_succ]
    have hlook := hcheck s
    cases found? (check s).1 with
    | some found => exact hlook
    | none =>
      dsimp only
      split
      · exact hlook
      · exact trans_of R hlook (trans_of R (hsleep _ _) (ih _))

theorem upTo_moves (hcheck : Moves R check) (hsleep : ∀ ms t, R t (Clock.sleep ms t)) :
    Moves R (upTo patience timeout interval check) :=
  fun s => checkUntil_moves hcheck hsleep s

/-- A poll that finds something has just seen it, after looks and sleep. -/
theorem checkUntil_found (hcheck : Moves R check) (hsleep : ∀ ms t, R t (Clock.sleep ms t))
    (h : (checkUntil deadline interval check budget attempts last s).1 = .found value) :
    ∃ t, R s t ∧ (check t).1 = .ok (some value) ∧
      (checkUntil deadline interval check budget attempts last s).2 = (check t).2 := by
  induction budget generalizing attempts last s with
  | zero => cases h
  | succ budget ih =>
    rw [checkUntil_succ] at h ⊢
    cases hfound : found? (check s).1 with
    | some found =>
      rw [hfound] at h
      obtain rfl : found = value := Outcome.found.inj h
      exact ⟨s, refl_of R s, found?_eq_some_iff.mp hfound, rfl⟩
    -- The time is not over, since the poll goes on to find something.
    | none =>
      rw [hfound] at h
      dsimp only at h ⊢
      split at h
      · cases h
      · rename_i hearly
        rw [if_neg hearly]
        obtain ⟨t, ht, hseen, hleft⟩ := ih h
        exact ⟨t, trans_of R (hcheck s) (trans_of R (hsleep _ _) ht), hseen, hleft⟩

theorem upTo_found (hcheck : Moves R check) (hsleep : ∀ ms t, R t (Clock.sleep ms t))
    (h : (upTo patience timeout interval check s).1 = .found value) :
    ∃ t, R s t ∧ (check t).1 = .ok (some value) ∧
      (upTo patience timeout interval check s).2 = (check t).2 :=
  checkUntil_found hcheck hsleep h

end Found

/-! ### Scripts -/

/-- A clock that notes when checks begin, oldest first. -/
structure Timed where
  time : Nat
  begun : List Nat
  deriving DecidableEq, Repr

instance : Clock Timed := ⟨Timed.time, fun ms t => { t with time := t.time + ms }⟩

instance : Clock.IsLawful Timed := ⟨fun _ _ => rfl⟩

/-- Checks that are given by how long each of them takes and by what it finds. -/
def scripted (script : Nat → Nat × Except ε (Option α)) :
    StateM Timed (Except ε (Option α)) := fun t =>
  let (duration, seen) := script t.begun.length
  (seen, ⟨t.time + duration, t.begun ++ [t.time]⟩)

section Scripted

variable {script : Nat → Nat × Except ε (Option α)} {start : Nat}

theorem begun_started (deadline interval : Nat) (script : Nat → Nat × Except ε (Option α))
    (start k : Nat) :
    (started deadline interval (scripted script) ⟨start, []⟩ k).begun =
      (List.range k).map fun j =>
        (started deadline interval (scripted script) ⟨start, []⟩ j).time := by
  induction k with
  | zero => rfl
  | succ k ih =>
    rw [List.range_succ, List.map_append, ← ih]
    rfl

theorem scripted_started (deadline interval : Nat) (script : Nat → Nat × Except ε (Option α))
    (start k : Nat) :
    (scripted script (started deadline interval (scripted script) ⟨start, []⟩ k)).1 =
      (script k).2 := by
  simp [scripted, begun_started]

theorem failureBefore_scripted (deadline interval : Nat)
    (script : Nat → Nat × Except ε (Option α)) (start k : Nat) :
    failureBefore deadline interval (scripted script) ⟨start, []⟩ k =
      ((List.range k).filterMap fun j => failure? (script j).2).getLast? := by
  induction k with
  | zero => rfl
  | succ k ih =>
    rw [failureBefore, ih, scripted_started, List.range_succ, List.filterMap_append]
    cases hseen : (script k).2 <;> simp [lastFailure, failure?, hseen]

theorem endAt_scripted (deadline interval : Nat) (script : Nat → Nat × Except ε (Option α))
    (start k : Nat) :
    endAt deadline interval (scripted script) ⟨start, []⟩ k =
      (match found? (script k).2 with
        | some value => .found value
        | none =>
          .timedOut (k + 1)
            ((List.range (k + 1)).filterMap fun j => failure? (script j).2).getLast?,
        ⟨(started deadline interval (scripted script) ⟨start, []⟩ k).time + (script k).1,
          (List.range (k + 1)).map fun j =>
            (started deadline interval (scripted script) ⟨start, []⟩ j).time⟩) := by
  have hended : (scripted script (started deadline interval (scripted script) ⟨start, []⟩ k)).2 =
      ⟨(started deadline interval (scripted script) ⟨start, []⟩ k).time + (script k).1,
        (List.range (k + 1)).map fun j =>
          (started deadline interval (scripted script) ⟨start, []⟩ j).time⟩ := by
    rw [List.range_succ, List.map_append, ← begun_started]
    simp [scripted, begun_started]
  rw [endAt, scripted_started, failureBefore_scripted, hended]
  cases found? (script k).2 <;> rfl

/-- However long the checks take, none begins after the deadline, and the poll ends by itself. -/
theorem begun_le_of_upTo (script : Nat → Nat × Except ε (Option α))
    (patience timeout start : Nat) (hinterval : 0 < interval) :
    let run := upTo patience timeout interval (scripted script) ⟨start, []⟩
    run.1 ≠ .unfinished ∧ ∀ time ∈ run.2.begun, time ≤ start + timeout := by
  intro run
  have hcheck : ∀ t, Clock.now t ≤ Clock.now (scripted script t).2 := fun t => Nat.le_add_right _ _
  obtain ⟨k, hbefore, -, hrun⟩ := upTo_ends patience timeout ⟨start, []⟩ hinterval hcheck
  have hend : run = _ := hrun.trans (endAt_scripted _ _ script start k)
  rw [hend]
  refine ⟨?_, fun time htime => ?_⟩
  · cases found? (script k).2 <;> simp
  · obtain ⟨j, hj, rfl⟩ := List.mem_map.mp htime
    have hjk := Nat.lt_succ_iff.mp (List.mem_range.mp hj)
    exact now_started_le (Nat.le_add_right _ _) fun i hi => hbefore i (hi.trans_le hjk)

/-- Where checks take no time, a poll ends with the first one that finds something, or with the one
at the end of the time, and all are made at their instants. -/
theorem upTo_scripted_of_instant (patience timeout start : Nat) (hinterval : 0 < interval)
    (hinstant : ∀ k, (script k).1 = 0) :
    ∃ k ≤ lastNumber timeout interval, (∀ j < k, found? (script j).2 = none) ∧
      (found? (script k).2 = none → k = lastNumber timeout interval) ∧
      upTo patience timeout interval (scripted script) ⟨start, []⟩ =
        (match found? (script k).2 with
          | some value => .found value
          | none =>
            .timedOut (k + 1)
              ((List.range (k + 1)).filterMap fun j => failure? (script j).2).getLast?,
          ⟨start + instant timeout interval k,
            (List.range (k + 1)).map fun j => start + instant timeout interval j⟩) := by
  have hcheck : ∀ t, Clock.now (scripted script t).2 = Clock.now t := by
    intro t
    change t.time + (script t.begun.length).1 = t.time
    rw [hinstant, Nat.add_zero]
  have htime : ∀ j, (started (Clock.now (⟨start, []⟩ : Timed) + timeout) interval
      (scripted script) ⟨start, []⟩ j).time = start + instant timeout interval j :=
    fun j => now_started_of_instant hcheck
  obtain ⟨k, hk, hbefore, hlast, hrun⟩ :=
    upTo_of_instant hcheck patience timeout ⟨start, []⟩ hinterval
  simp only [scripted_started] at hbefore hlast
  refine ⟨k, hk, hbefore, hlast, hrun.trans ((endAt_scripted _ _ script start k).trans ?_)⟩
  simp only [htime, hinstant, Nat.add_zero]

/-- No check of a poll begins after the deadline, however long the checks take, and the poll ends.
Where the checks take no time, they begin at the multiples of the interval, and one at the end of
the time. The poll ends with the first check that finds something. If there is none, it ends with
the check at the end of the time, and reports the number of the checks and the last failure. -/
theorem upTo_scripted (script : Nat → Nat × Except ε (Option α)) (patience timeout start : Nat)
    (hinterval : 0 < interval) :
    let run := upTo patience timeout interval (scripted script) ⟨start, []⟩
    let last := lastNumber timeout interval
    let begins (k : Nat) := start + min (k * interval) timeout
    run.1 ≠ .unfinished ∧ (∀ time ∈ run.2.begun, time ≤ start + timeout) ∧
      ((∀ k, (script k).1 = 0) →
        (∀ k ≤ last, ∀ value, found? (script k).2 = some value →
          (∀ j < k, found? (script j).2 = none) →
            run = (.found value, ⟨begins k, (List.range (k + 1)).map begins⟩)) ∧
        ((∀ k ≤ last, found? (script k).2 = none) →
          run = (.timedOut (last + 1)
              ((List.range (last + 1)).filterMap fun k => failure? (script k).2).getLast?,
            ⟨start + timeout, (List.range (last + 1)).map begins⟩) ∧
          begins last = start + timeout)) := by
  intro run last begins
  obtain ⟨hends, hbegun⟩ := begun_le_of_upTo script patience timeout start hinterval
  refine ⟨hends, hbegun, fun hinstant => ?_⟩
  obtain ⟨k, hk, hbefore, hlast, hrun⟩ :=
    upTo_scripted_of_instant patience timeout start hinterval hinstant
  have hover : instant timeout interval last = timeout := instant_lastNumber timeout hinterval
  refine ⟨fun k' hk' value hvalue hbefore' => ?_, fun hnone => ?_⟩
  · -- the check that ends the poll is the first one that finds something
    obtain rfl : k = k' :=
      eq_of_first hbefore hlast hk' (fun hnothing => by simp [hnothing] at hvalue) hbefore'
    refine hrun.trans ?_
    rw [hvalue]
    rfl
  · obtain rfl : k = last := hlast (hnone k hk)
    refine ⟨hrun.trans ?_, congrArg (start + ·) hover⟩
    rw [hnone _ le_rfl, hover]
    rfl

/-- Two checks fail and all later ones find nothing. In ten milliseconds there are four checks with
an interval of four, and the second failure is reported. -/
theorem polls_four_times :
    let script : Nat → Nat × Except String (Option Nat) := fun k =>
      (0, if k = 0 then .error "first" else if k = 1 then .error "second" else .ok none)
    0 < 4 ∧ upTo 1 10 4 (scripted script) ⟨0, []⟩ =
      (.timedOut 4 (some "second"), ⟨10, [0, 4, 8, 10]⟩) := by
  intro script
  have hnone : ∀ k ≤ lastNumber 10 4, found? (script k).2 = none := by decide
  have hpositive : 0 < 4 := by decide
  have hpoll := upTo_scripted script 1 10 0 hpositive
  exact ⟨hpositive, ((hpoll.2.2 fun _ => rfl).2 hnone).1⟩

end Scripted

end Poll

end FlowPilot
