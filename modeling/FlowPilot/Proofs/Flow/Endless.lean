import FlowPilot.Flow.OnPage
import FlowPilot.Proofs.Action.Course
import FlowPilot.Proofs.Flow.Recursion

/-!
# Runs with waits that never end

Without time between its looks a wait may go on for ever. There is no result then, so the wait is
cut off after as many looks as the host has patience for, the page is marked, and a failure stands
in for the result. Where time passes between the looks no run marks a page, and a run that marks
none is the same with more patience. So whatever is said of runs is said of those that end as long
as the page is unmarked.

## Main definitions

* `Page.SameMark`, `Page.StaysMarked`: pages of which neither or only the second is marked.
* `Page.Agrees`: an act that is the same as another one wherever that leaves the page unmarked.

## Main statements

* `Runner.run_leads`: what single steps do to a state is what a run does to it.
* `Runner.run_sameMark`: where time passes between looks, no run marks a page.
* `Runner.run_of_patience`: a run that leaves its page unmarked is the same with more patience.
* `Runner.run_of_unmarked`: all runs that leave a page unmarked end in the same way.
* `Runner.run_later`: a run takes nothing back.
-/

namespace FlowPilot

open Act

/-! ### What a run does to a state -/

namespace Runner

variable {σ : Type} {R : σ → σ → Prop} [IsPreorder σ R] {r : Runner σ}

theorem performStep_leads {nested : Sequence → Act σ Unit} (hnested : ∀ s, Leads R (nested s))
    (hperform : ∀ task, Leads R (r.perform task)) (s : Sequence) (depth : Nat) (step : Step) :
    Leads R (r.performStep nested s depth step) := by
  cases step with
  | leaf leaf => exact hperform _
  | trySteps step =>
    exact (hnested _).tryCatch fun primary => (hnested _).adapt (.fallbackExhausted primary)
  | runAction step =>
    show Leads R (r.performAction nested s step _)
    unfold performAction
    split
    · exact Leads.throw _
    · split
      · exact Leads.throw _
      · exact hnested _

variable [Clock σ]

theorem runSteps_leads {nested : Sequence → Act σ Unit} (hnested : ∀ s, Leads R (nested s))
    (hperform : ∀ task, Leads R (r.perform task)) (s : Sequence) (depth : Nat)
    (templates : List Json) : ∀ index, Leads R (r.runSteps nested s depth index templates) := by
  have hlog (index : Nat) (kind : String) (progress : LogEntry.Progress) :
      Leads R (logLine index kind progress : Act σ LogEntry) :=
    Leads.get.bind fun _ => Leads.pure _
  induction templates with
  | nil => exact fun _ => Leads.pure _
  | cons template rest ih =>
    intro index
    have hstep : Leads R (r.runStep nested s depth index template) := by
      refine (Leads.ofExcept _).bind fun filled => (hlog _ _ _).bind fun started => ?_
      refine (Leads.ofExcept _).bind fun step => ?_
      refine (performStep_leads hnested hperform s depth step).bind fun _ => ?_
      exact (hlog _ _ _).bind fun _ => Leads.pure _
    exact hstep.bind fun _ => (ih (index + 1)).bind fun _ => Leads.pure _

theorem runAt_leads (hperform : ∀ task, Leads R (r.perform task)) (levels : Nat) :
    ∀ depth s, Leads R (r.runAt levels depth s) := by
  induction levels with
  | zero => exact fun depth s => (Leads.ofExcept _).bind fun _ => Leads.pure _
  | succ levels ih =>
    intro depth s
    refine (Leads.ofExcept _).bind fun _ => ?_
    exact runSteps_leads (fun inner => (ih (depth + 1) inner).discard) hperform s depth s.steps 0

/-- What single steps do to a state is what a run does to it. -/
theorem run_leads (hperform : ∀ task, Leads R (r.perform task)) (s : Sequence) :
    Leads R (r.run s) :=
  runAt_leads hperform _ 0 s

end Runner

/-! ### Marks -/

namespace Page

/-- Pages of which both are marked or neither. -/
def SameMark (p q : Page) : Prop := q.stuck = p.stuck

/-- A mark on the first page is on the second one as well. -/
def StaysMarked (p q : Page) : Prop := p.stuck = true → q.stuck = true

/-- The second page is a later state of the first one. -/
def Later (p q : Page) : Prop := p.events <+: q.events ∧ p.clock ≤ q.clock

instance : IsPreorder Page SameMark where
  refl _ := rfl
  trans _ _ _ hpq hqr := hqr.trans hpq

instance : IsPreorder Page StaysMarked where
  refl _ := id
  trans _ _ _ hpq hqr hmark := hqr (hpq hmark)

instance : IsPreorder Page Later where
  refl p := ⟨List.prefix_refl p.events, le_rfl⟩
  trans _ _ _ hpq hqr := ⟨hpq.1.trans hqr.1, hpq.2.trans hqr.2⟩

theorem sameMark_allows : Allows SameMark where
  alike h := by
    obtain ⟨calls, rfl⟩ := h
    rfl
  changed _ _ _ _ := rfl
  timed _ _ _ := rfl

theorem staysMarked_allows : Allows StaysMarked where
  alike h hmark := (sameMark_allows.alike h).trans hmark
  changed _ _ _ _ := id
  timed _ _ _ := id

theorem later_allows : Allows Later where
  alike h := ⟨h.events ▸ List.prefix_refl _, h.clock.ge⟩
  changed p _ _ added := ⟨List.prefix_append p.events added, le_rfl⟩
  timed p _ ms := ⟨List.prefix_refl p.events, Nat.le_add_right p.clock ms⟩

end Page

namespace Runner

open Page

/-- A run takes nothing back: its record begins with the one before, and no time is lost. -/
theorem run_later (host : Host) (limits : Limits) (mode : RenderMode)
    (stepsOf : String → Option (List Json)) (s : Sequence) :
    Leads Later ((onPage host limits mode stepsOf).run s) :=
  run_leads (fun task => task.step.perform_leads later_allows
    (.inr fun p => ⟨List.prefix_refl p.events, le_rfl⟩) task.timeout) s

/-- Where time passes between looks, no run marks a page. -/
theorem run_sameMark (host : Host) {limits : Limits} (hinterval : 0 < limits.pollInterval)
    (mode : RenderMode) (stepsOf : String → Option (List Json)) (s : Sequence) :
    Leads SameMark ((onPage host limits mode stepsOf).run s) :=
  run_leads (fun task => task.step.perform_leads sameMark_allows (.inl hinterval) task.timeout) s

/-- Without time between looks, a wait for an address that the page does not have marks it. -/
example :
    let wait := Json.object [("type", .text "waitForURL"), ("url", .text "https://sri/home")]
    let r := onPage .brief { Limits.strict with pollInterval := 0 } .lenient fun _ => none
    ((r.run ⟨"open", [wait], .empty, 300⟩).after (Page.opened "")).stuck = true := by
  decide +kernel

end Runner

/-! ### Patience -/

namespace Page

variable {α β : Type} {x y : Act Page α}

/-- Two acts that do the same wherever the first one leaves the page unmarked. -/
def Agrees (x y : Act Page α) : Prop :=
  ∀ p, (x.after p).stuck = false → y.result p = x.result p ∧ y.after p = x.after p

theorem Agrees.refl (x : Act Page α) : Agrees x x := fun _ _ => ⟨rfl, rfl⟩

theorem StaysMarked.unmarked {p q : Page} (h : StaysMarked p q) (hq : q.stuck = false) :
    p.stuck = false :=
  Bool.eq_false_iff.mpr fun hp => absurd (h hp) (Bool.eq_false_iff.mp hq)

theorem Agrees.map (hxy : Agrees x y) (f : α → β) : Agrees (f <$> x) (f <$> y) := by
  intro p hunmarked
  rw [after_map] at hunmarked
  obtain ⟨hresult, hafter⟩ := hxy p hunmarked
  rw [result_map, result_map, after_map, after_map, hresult, hafter]
  exact ⟨rfl, rfl⟩

theorem Agrees.adapt (hxy : Agrees x y) (f : Fault → Fault) :
    Agrees (ExceptT.adapt f x) (ExceptT.adapt f y) := by
  intro p hunmarked
  obtain ⟨hresult, hafter⟩ := hxy p hunmarked
  exact ⟨congrArg (·.mapError f) hresult, hafter⟩

/-- Nothing more is needed where only what follows differs. -/
theorem Agrees.bind_left (x : Act Page α) {f g : α → Act Page β} (hfg : ∀ a, Agrees (f a) (g a)) :
    Agrees (x >>= f) (x >>= g) := by
  intro p hunmarked
  rw [after_bind] at hunmarked
  rw [result_bind, result_bind, after_bind, after_bind]
  cases hx : x.result p with
  | error e => exact ⟨rfl, rfl⟩
  | ok a =>
    rw [hx] at hunmarked
    exact hfg a _ hunmarked

theorem Agrees.ite {c : Prop} [Decidable c] {x' y' : Act Page α} (hxy : Agrees x y)
    (hxy' : Agrees x' y') : Agrees (if c then x else x') (if c then y else y') := by
  split
  · exact hxy
  · exact hxy'

/-- A second part that keeps the mark leaves an unmarked page only if the first part did. -/
theorem Agrees.bind {f g : α → Act Page β} (hxy : Agrees x y) (hfg : ∀ a, Agrees (f a) (g a))
    (hf : ∀ a, Leads StaysMarked (f a)) : Agrees (x >>= f) (y >>= g) := by
  intro p hunmarked
  rw [after_bind] at hunmarked
  rw [result_bind, result_bind, after_bind, after_bind]
  cases hx : x.result p with
  | error e =>
    rw [hx] at hunmarked
    obtain ⟨hresult, hafter⟩ := hxy p hunmarked
    rw [hresult, hafter, hx]
    exact ⟨rfl, rfl⟩
  | ok a =>
    rw [hx] at hunmarked
    obtain ⟨hresult, hafter⟩ := hxy p ((hf a _).unmarked hunmarked)
    rw [hresult, hafter, hx]
    exact hfg a _ hunmarked

theorem Agrees.tryCatch {f g : Fault → Act Page α} (hxy : Agrees x y)
    (hfg : ∀ e, Agrees (f e) (g e)) (hf : ∀ e, Leads StaysMarked (f e)) :
    Agrees (tryCatch x f) (tryCatch y g) := by
  intro p hunmarked
  rw [after_tryCatch] at hunmarked
  rw [result_tryCatch, result_tryCatch, after_tryCatch, after_tryCatch]
  cases hx : x.result p with
  | error e =>
    rw [hx] at hunmarked
    obtain ⟨hresult, hafter⟩ := hxy p ((hf e _).unmarked hunmarked)
    rw [hresult, hafter, hx]
    exact hfg e _ hunmarked
  | ok a =>
    rw [hx] at hunmarked
    obtain ⟨hresult, hafter⟩ := hxy p hunmarked
    rw [hresult, hafter, hx]
    exact ⟨rfl, rfl⟩

end Page

namespace Poll

variable {σ ε α : Type} [Clock σ] {check : StateM σ (Except ε (Option α))} {s : σ}

/-- A poll that ends is the same with more patience. -/
theorem upTo_of_patience {n m timeout interval : Nat} (hle : n ≤ m)
    (hends : (upTo n timeout interval check s).1 ≠ .unfinished) :
    upTo m timeout interval check s = upTo n timeout interval check s := by
  unfold upTo at hends ⊢
  by_cases hinterval : interval = 0
  · rw [if_pos hinterval] at hends
    obtain ⟨more, rfl⟩ := Nat.exists_eq_add_of_le hle
    rw [if_pos hinterval, if_pos hinterval]
    exact EndsWithin.within_add hends more
  · rw [if_neg hinterval, if_neg hinterval]

end Poll

/-- What follows a poll is the same with more patience if an unfinished one marks the page. -/
theorem Page.agrees_poll {ε α : Type} {check : StateM Page (Except ε (Option α))}
    {next : Poll.Outcome ε α → Act Page Unit} {n m : Nat} (hle : n ≤ m) (timeout interval : Nat)
    (hmarks : ∀ p, ((next .unfinished).after p).stuck = true) :
    Agrees (liftM (Poll.upTo n timeout interval check) >>= next)
      (liftM (Poll.upTo m timeout interval check) >>= next) := by
  intro p hunmarked
  have hends : (Poll.upTo n timeout interval check p).1 ≠ .unfinished := by
    intro hunfinished
    rw [after, lift_bind_apply, hunfinished] at hunmarked
    exact absurd ((hmarks _).symm.trans hunmarked) (by decide)
  unfold result after
  rw [lift_bind_apply, lift_bind_apply, Poll.upTo_of_patience hle hends]
  exact ⟨rfl, rfl⟩

namespace Step

open Page

variable {w : Wording} {n m : Nat}

theorem EnsureSidebarOpen.openUp_agrees (hle : n ≤ m) (selector : String)
    (candidates : List Locator) (minWidth : Binary64) (timeout interval : Nat) :
    Agrees (openUp selector candidates minWidth n timeout interval)
      (openUp selector candidates minWidth m timeout interval) := by
  refine .bind_left _ fun seen => .ite (.refl _) (.bind_left _ fun _ => ?_)
  refine agrees_poll hle timeout interval ?_
  exact fun _ => rfl

/-- A step that leaves the page unmarked is the same with more patience. -/
theorem Leaf.perform_agrees (hle : n ≤ m) (s : Leaf) (interval timeout : Nat) :
    Agrees (s.perform ⟨w, n⟩ interval timeout) (s.perform ⟨w, m⟩ interval timeout) := by
  cases s with
  | waitForUrl s =>
    refine .bind_left _ fun criterion => agrees_poll hle timeout interval ?_
    exact fun _ => rfl
  | assertOnPage s =>
    refine .bind_left _ fun e => agrees_poll hle timeout interval ?_
    exact fun _ => rfl
  | ensureSidebarOpen s =>
    have hopen := fun selector => EnsureSidebarOpen.openUp_agrees hle selector s.toggles s.width
      timeout interval
    exact .bind_left _ fun selector =>
      .ite (.bind_left _ fun _ => hopen selector) (hopen selector)
  | _ => exact .refl _

end Step

namespace Runner

open Page

/-! ### Runs with more patience -/

section Nested

variable {r : Runner Page} {perform : Task → Act Page Unit}
  {nested nested' : Sequence → Act Page Unit}
  (hnested : ∀ s, Agrees (nested s) (nested' s))
  (hmarks : ∀ s, Leads StaysMarked (nested s))
  (hperform : ∀ task, Agrees (r.perform task) (perform task))
  (hkeeps : ∀ task, Leads StaysMarked (r.perform task))

include hnested hmarks hperform

theorem performStep_agrees (s : Sequence) (depth : Nat) (step : Step) :
    Agrees (r.performStep nested s depth step)
      ({ r with perform := perform }.performStep nested' s depth step) := by
  cases step with
  | leaf leaf => exact hperform _
  | trySteps step =>
    exact (hnested _).tryCatch (fun primary => (hnested _).adapt _) fun primary =>
      (hmarks _).adapt _
  | runAction step =>
    show Agrees (r.performAction nested s step _) (performAction _ nested' s step _)
    unfold performAction
    cases step.target with
    | none => exact .refl _
    | some name =>
      dsimp only
      cases r.stepsOf name with
      | none => exact .refl _
      | some steps => exact hnested _

include hkeeps

theorem runSteps_agrees (s : Sequence) (depth : Nat) (templates : List Json) :
    ∀ index, Agrees (r.runSteps nested s depth index templates)
      ({ r with perform := perform }.runSteps nested' s depth index templates) := by
  induction templates with
  | nil => exact fun _ => .refl _
  | cons template rest ih =>
    intro index
    have hstep : Agrees (r.runStep nested s depth index template)
        ({ r with perform := perform }.runStep nested' s depth index template) := by
      refine .bind_left _ fun filled => .bind_left _ fun started => .bind_left _ fun step => ?_
      refine (performStep_agrees hnested hmarks hperform s depth step).bind
        (fun _ => .refl _) fun _ => ?_
      exact (Leads.get.bind fun _ => Leads.pure _).bind fun _ => Leads.pure _
    refine hstep.bind (fun lines => (ih (index + 1)).map _) fun lines => ?_
    exact (runSteps_leads hmarks hkeeps s depth rest (index + 1)).map _

end Nested

theorem runAt_agrees {r : Runner Page} {perform : Task → Act Page Unit}
    (hperform : ∀ task, Agrees (r.perform task) (perform task))
    (hkeeps : ∀ task, Leads StaysMarked (r.perform task)) (levels : Nat) :
    ∀ depth s, Agrees (r.runAt levels depth s)
      ({ r with perform := perform }.runAt levels depth s) := by
  induction levels with
  | zero => exact fun _ _ => .refl _
  | succ levels ih =>
    intro depth s
    refine .bind_left _ fun _ => ?_
    exact runSteps_agrees (fun inner => (ih (depth + 1) inner).map _)
      (fun inner => (runAt_leads hkeeps levels (depth + 1) inner).discard) hperform hkeeps s depth
      s.steps 0

/-- A run that leaves its page unmarked is the same with more patience. -/
theorem run_of_patience (w : Wording) {n m : Nat} (hle : n ≤ m) (limits : Limits)
    (mode : RenderMode) (stepsOf : String → Option (List Json)) (s : Sequence) :
    Agrees ((onPage ⟨w, n⟩ limits mode stepsOf).run s)
      ((onPage ⟨w, m⟩ limits mode stepsOf).run s) :=
  runAt_agrees
    (fun task => task.step.perform_agrees hle limits.pollInterval task.timeout)
    (fun task => task.step.perform_leads staysMarked_allows (.inr fun _ _ => rfl) task.timeout)
    _ 0 s

/-- Runs that leave a page unmarked end in the same way, with whatever patience. -/
theorem run_of_unmarked (w : Wording) {n m : Nat} (limits : Limits) (mode : RenderMode)
    (stepsOf : String → Option (List Json)) (s : Sequence) (p : Page)
    (hn : (((onPage ⟨w, n⟩ limits mode stepsOf).run s).after p).stuck = false)
    (hm : (((onPage ⟨w, m⟩ limits mode stepsOf).run s).after p).stuck = false) :
    (onPage ⟨w, n⟩ limits mode stepsOf).run s p = (onPage ⟨w, m⟩ limits mode stepsOf).run s p := by
  rcases Nat.le_total n m with hle | hle
  · obtain ⟨hresult, hafter⟩ := run_of_patience w hle limits mode stepsOf s p hn
    exact (Prod.ext hresult hafter).symm
  · obtain ⟨hresult, hafter⟩ := run_of_patience w hle limits mode stepsOf s p hm
    exact Prod.ext hresult hafter

end Runner

end FlowPilot
