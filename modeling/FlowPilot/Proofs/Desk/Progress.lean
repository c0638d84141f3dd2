import FlowPilot.Proofs.Desk.Body

/-!
# How a plan is worked off

Only loading a plan and confirming a category change how far a plan is worked off: the one begins
with the first item, the other goes on by one item. So the cursor never leaves the plan.

## Main definitions

* `Desk.Reachable`: what becomes of a new desk through commands and what happens outside.

## Main statements

* `Desk.progress_cases`: all that a command can do to the plan and the cursor.
* `Desk.cursor_of_reachable`: where the cursor can be, and when it moves.
-/

namespace FlowPilot.Desk

open Act

variable {setup : Setup} {d : Desk}

/-! ### Commands that leave the plan alone -/

/-- Loading a plan and confirming a category apart, no command changes how far the plan is worked
off. -/
theorem body_sameProgress {c : Command} (hload : c ≠ .loadPlan) (hconfirm : c ≠ .confirm) :
    Leads SameProgress (body setup c) :=
  body_leads onSession_sameProgress hload fun h => absurd h hconfirm

/-! ### Loading a plan -/

/-- A plan that comes is begun with its first item, whether its event is taken or not. -/
theorem loadPlan_of_fetched {plan : Plan}
    (hfetched : setup.coordinator.plan d.requests setup.importId = .ok plan) :
    SameProgress { d with plan := some plan, cursor := 0 } ((loadPlan setup).after d) := by
  simp only [loadPlan, hfetched, after_bind, result_get, after_get, result_set,
    after_set, result_ofExcept, after_ofExcept, result_modify, after_modify, after_pure,
    after_post]
  split <;> exact ⟨rfl, rfl⟩

theorem loadPlan_of_unfetched {e : Fault}
    (hfetched : setup.coordinator.plan d.requests setup.importId = .error e) :
    SameProgress d ((loadPlan setup).after d) := by
  simp only [loadPlan, hfetched, after_bind, result_get, after_get, result_set, after_set,
    result_ofExcept, after_ofExcept]
  exact ⟨rfl, rfl⟩

theorem body_loadPlan (setup : Setup) : body setup .loadPlan = Reply.plan <$> loadPlan setup := by
  rw [map_eq_pure_bind]
  rfl

/-! ### What a command can do -/

/-- All that a command can do to the plan and the cursor. -/
theorem progress_cases (setup : Setup) (c : Command) (d : Desk) :
    SameProgress d ((perform setup c).after d) ∨
      (∃ plan, c = .loadPlan ∧
        setup.coordinator.plan d.requests setup.importId = .ok plan ∧
        SameProgress { d with plan := some plan, cursor := 0 } ((perform setup c).after d)) ∨
      c = .confirm ∧ d.cursor + 1 < d.itemCount ∧
        SameProgress { d with cursor := d.cursor + 1 } ((perform setup c).after d) ∧
        Confirmed setup d ((perform setup c).after d).portal := by
  have hreport := perform_sameProgress setup c d
  by_cases hload : c = .loadPlan
  · subst hload
    rw [body_loadPlan, after_map] at hreport
    cases hfetched : setup.coordinator.plan d.requests setup.importId with
    | error e => exact .inl (trans_of SameProgress (loadPlan_of_unfetched hfetched) hreport)
    | ok plan =>
      have hloaded := trans_of SameProgress (loadPlan_of_fetched hfetched) hreport
      exact .inr (.inl ⟨plan, rfl, rfl, hloaded⟩)
  by_cases hconfirm : c = .confirm
  · subst hconfirm
    rw [body_confirm, after_map] at hreport
    have hplan := hreport.plan.trans (plan_after_confirmCategory d)
    have hcursor := hreport.cursor.trans (cursor_after_confirmCategory d)
    split at hcursor
    · rename_i hnext
      exact .inr (.inr ⟨rfl, hnext.1, ⟨hplan, hcursor⟩, confirmed_of_perform hnext.2⟩)
    · exact .inl ⟨hplan, hcursor⟩
  · exact .inl (trans_of SameProgress (body_sameProgress hload hconfirm d) hreport)

/-! ### Where the cursor can be -/

/-- What becomes of a new desk: commands are performed under any setup, and between them the page,
the flow file and the store change in any way. -/
inductive Reachable : Desk → Prop
  | fresh (launcher : Launcher) (flowContent : Except FlowFileFault ByteArray)
      (storeBlocked : Bool) :
      Reachable { session := { launcher := launcher }, flowContent, storeBlocked }
  | command {d : Desk} (h : Reachable d) (setup : Setup) (c : Command) :
      Reachable ((perform setup c).after d)
  | outside {d : Desk} (h : Reachable d) (page : Page)
      (flowContent : Except FlowFileFault ByteArray) (storeBlocked : Bool) :
      Reachable
        { d with
          session := { d.session with launcher := { d.session.launcher with page := page } }
          flowContent, storeBlocked }

/-- The cursor is at an item of the plan, or at zero where there is none. -/
def WithinPlan (d : Desk) : Prop := d.cursor < max 1 d.itemCount

theorem SameProgress.withinPlan {d' : Desk} (h : SameProgress d d') (hd : d.WithinPlan) :
    d'.WithinPlan := by
  rw [WithinPlan, h.cursor, h.itemCount]
  exact hd

theorem withinPlan_perform (hd : d.WithinPlan) (setup : Setup) (c : Command) :
    ((perform setup c).after d).WithinPlan := by
  rcases progress_cases setup c d with hsame | ⟨plan, _, _, hloaded⟩ | ⟨_, hnext, hmoved, _⟩
  · exact hsame.withinPlan hd
  · exact hloaded.withinPlan (Nat.lt_of_lt_of_le Nat.zero_lt_one (le_max_left _ _))
  · exact hmoved.withinPlan (Nat.lt_of_lt_of_le hnext (le_max_right _ _))

theorem withinPlan_of_reachable (h : Reachable d) : d.WithinPlan := by
  -- what happens outside touches neither the plan nor the cursor
  induction h with
  | fresh => exact Nat.zero_lt_one
  | command _ setup c ih => exact withinPlan_perform ih setup c
  | outside _ _ _ _ ih => exact ih

theorem Reachable.foldl (setup : Setup) (commands : List Command) :
    ∀ {d : Desk}, Reachable d →
      Reachable (commands.foldl (fun d c => (perform setup c).after d) d) := by
  induction commands with
  | nil => exact fun h => h
  | cons c rest ih => exact fun h => ih (h.command setup c)

/-- The cursor is zero without a plan and within the plan otherwise. A plan that comes is begun with
its first item. Any other change of the cursor goes on by one item, in a confirmation for which the
page accepted the click and, where the flow file says how, showed the success. -/
theorem cursor_of_reachable (h : Reachable d) :
    (d.plan = none → d.cursor = 0) ∧
      (∀ plan, d.plan = some plan → d.cursor < max 1 plan.items.length) ∧
      ∀ (setup : Setup) (c : Command),
        (∀ plan, c = .loadPlan →
          setup.coordinator.plan d.requests setup.importId = .ok plan →
            ((perform setup c).after d).plan = some plan ∧
              ((perform setup c).after d).cursor = 0) ∧
        (((perform setup c).after d).cursor ≠ d.cursor →
          (c = .loadPlan ∧ ∃ plan,
            setup.coordinator.plan d.requests setup.importId = .ok plan ∧
              ((perform setup c).after d).cursor = 0) ∨
          (c = .confirm ∧ ((perform setup c).after d).cursor = d.cursor + 1 ∧
            Confirmed setup d ((perform setup c).after d).portal)) := by
  have hwithin := withinPlan_of_reachable h
  refine ⟨?_, ?_, fun setup c => ⟨?_, ?_⟩⟩
  · intro hplan
    simpa [WithinPlan, itemCount, hplan] using hwithin
  · intro plan hplan
    simpa [WithinPlan, itemCount, hplan] using hwithin
  · rintro plan rfl hfetched
    have hloaded := loadPlan_of_fetched hfetched
    have hreport := perform_sameProgress setup .loadPlan d
    rw [body_loadPlan, after_map] at hreport
    have hsame := trans_of SameProgress hloaded hreport
    exact ⟨hsame.plan, hsame.cursor⟩
  · -- of all that a command can do, only two things move the cursor
    intro hmoved
    rcases progress_cases setup c d with hsame | ⟨plan, hc, hfetched, hloaded⟩ |
      ⟨hc, _, hnext, hconfirmed⟩
    · exact absurd hsame.cursor hmoved
    · exact .inl ⟨hc, plan, hfetched, hloaded.cursor⟩
    · exact .inr ⟨hc, hnext.cursor, hconfirmed⟩

/-- The first of two invoices is confirmed after the plan was loaded. -/
theorem cursor_moves_after_confirm :
    let setup := smallSetup 4
    let d := [Command.openBrowser, .markLogin, .loadPlan].foldl
      (fun d c => (perform setup c).after d) smallDesk
    Reachable d ∧ d.cursor = 0 ∧ ((perform setup .confirm).after d).cursor = 1 ∧
      Confirmed setup d ((perform setup .confirm).after d).portal := by
  intro setup d
  have hreachable : Reachable d := Reachable.foldl setup _ (.fresh _ _ false)
  have hbefore : d.cursor = 0 := by decide +kernel
  have hafter : ((perform setup .confirm).after d).cursor = 1 := by decide +kernel
  have hmoved : ((perform setup .confirm).after d).cursor ≠ d.cursor := by
    rw [hbefore, hafter]
    exact Nat.one_ne_zero
  rcases ((cursor_of_reachable hreachable).2.2 setup .confirm).2 hmoved with
    ⟨hload, _⟩ | ⟨_, _, hconfirmed⟩
  · exact absurd hload (by decide)
  · exact ⟨hreachable, hbefore, hafter, hconfirmed⟩

end FlowPilot.Desk
