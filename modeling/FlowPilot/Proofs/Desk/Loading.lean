import FlowPilot.Proofs.Desk.Events
import FlowPilot.Proofs.Desk.Progress

/-!
# Loading a plan

The plan is asked for first, begun with its first item next, and the event is posted last. So a load
that fails leaves the old plan as it was where the plan does not come, and has replaced it where
only the event is refused.

## Main definitions

* `Desk.loadedEvent`: the event of a plan that came.

## Main statements

* `Desk.loadPlan_fails_iff`: exactly when loading a plan fails, and how.
* `Desk.progress_of_loadPlan_fails`: what a load that fails leaves.
-/

namespace FlowPilot.Desk

open Act

variable {setup : Setup} {d : Desk} {plan : Plan} {e : Fault}

/-- The event of a plan that came. -/
def loadedEvent (setup : Setup) (d : Desk) (plan : Plan) : ProgressEvent where
  importId := setup.importId
  step := "plan_loaded"
  status := .ok
  message := "Plan con " ++ toString plan.items.length ++ " acciones."
  time := d.now
  extra := []

/-- A plan that does not come is the failure of the load. -/
theorem result_loadPlan_of_unfetched
    (hfetched : setup.coordinator.plan d.requests setup.importId = .error e) :
    (loadPlan setup).result d = .error e := by
  simp [loadPlan, hfetched]

/-- Once the plan came, only its event can fail. -/
theorem result_loadPlan_error_of_fetched
    (hfetched : setup.coordinator.plan d.requests setup.importId = .ok plan) :
    (loadPlan setup).result d = .error e ↔
      setup.coordinator.reply d.posted (loadedEvent setup d plan) = .error e := by
  have hpost : (post setup { step := "plan_loaded", message := "" } .ok
      ("Plan con " ++ toString plan.items.length ++ " acciones.")).result
        { d with requests := d.requests + 1, plan := some plan, cursor := 0 } =
      (setup.coordinator.reply d.posted (loadedEvent setup d plan)).map fun _ => () :=
    result_post _ _
  simp only [loadPlan, result_bind, hfetched, result_get, after_get, result_set, after_set,
    result_ofExcept, after_ofExcept, result_modify, after_modify, hpost]
  cases setup.coordinator.reply d.posted (loadedEvent setup d plan) <;> simp [Except.map]

theorem result_perform_loadPlan (setup : Setup) (d : Desk) :
    (perform setup .loadPlan).result d = ((loadPlan setup).result d).map .plan := by
  have hperform : perform setup .loadPlan = body setup .loadPlan := rfl
  rw [hperform, body_loadPlan, result_map]

theorem after_perform_loadPlan (setup : Setup) (d : Desk) :
    (perform setup .loadPlan).after d = (loadPlan setup).after d := by
  have hperform : perform setup .loadPlan = body setup .loadPlan := rfl
  rw [hperform, body_loadPlan, after_map]

/-- Loading a plan fails when the plan does not come, or when it comes and its event is refused, and
the failure is that of the coordinator. -/
theorem loadPlan_fails_iff (setup : Setup) (d : Desk) (e : Fault) :
    (perform setup .loadPlan).result d = .error e ↔
      setup.coordinator.plan d.requests setup.importId = .error e ∨
        ∃ plan, setup.coordinator.plan d.requests setup.importId = .ok plan ∧
          setup.coordinator.reply d.posted (loadedEvent setup d plan) = .error e := by
  have hsame : (perform setup .loadPlan).result d = .error e ↔
      (loadPlan setup).result d = .error e := by
    rw [result_perform_loadPlan]
    cases (loadPlan setup).result d <;> simp [Except.map]
  rw [hsame]
  cases hfetched : setup.coordinator.plan d.requests setup.importId with
  | error e' => simp [result_loadPlan_of_unfetched hfetched]
  | ok plan => simp [result_loadPlan_error_of_fetched hfetched]

/-- A load that fails leaves the plan and the cursor as they were, unless the plan came and its
event was refused: then that plan is begun with its first item. -/
theorem progress_of_loadPlan_fails (setup : Setup) (d : Desk) (e : Fault)
    (h : (perform setup .loadPlan).result d = .error e) :
    let d' := (perform setup .loadPlan).after d
    (setup.coordinator.plan d.requests setup.importId = .error e ∧
        d'.plan = d.plan ∧ d'.cursor = d.cursor) ∨
      ∃ plan, setup.coordinator.plan d.requests setup.importId = .ok plan ∧
        setup.coordinator.reply d.posted (loadedEvent setup d plan) = .error e ∧
        d'.plan = some plan ∧ d'.cursor = 0 := by
  intro d'
  have hafter : d' = (loadPlan setup).after d := after_perform_loadPlan setup d
  rw [hafter]
  rcases (loadPlan_fails_iff setup d e).mp h with hfetched | ⟨plan, hfetched, hrefused⟩
  · have hsame := loadPlan_of_unfetched hfetched
    exact .inl ⟨hfetched, hsame.plan, hsame.cursor⟩
  · have hbegun := loadPlan_of_fetched hfetched
    exact .inr ⟨plan, hfetched, hrefused, hbegun.plan, hbegun.cursor⟩

/-- While the second item of a plan is current, the plan is asked for once more and there is none:
the second item stays current. -/
theorem reload_unfetched_stays :
    let plan : Plan := ⟨none, none, none, none, some [⟨[]⟩, ⟨[]⟩], none⟩
    let d := { smallDesk with plan := some plan, cursor := 1 }
    let setup := { smallSetup 4 with coordinator := Coordinator.steady none true }
    let d' := (perform setup .loadPlan).after d
    (perform setup .loadPlan).result d = .error Coordinator.planAbsent ∧
      d'.plan = some plan ∧ d'.cursor = 1 := by
  intro plan d setup d'
  have hfails : (perform setup .loadPlan).result d = .error Coordinator.planAbsent :=
    (loadPlan_fails_iff setup d _).mpr (.inl rfl)
  rcases progress_of_loadPlan_fails setup d _ hfails with ⟨_, hstays⟩ | ⟨_, hfetched, _⟩
  · exact ⟨hfails, hstays⟩
  · exact absurd hfetched (by simp [setup, Coordinator.steady])

/-- The first of two invoices is confirmed, and the plan is loaded once more while the coordinator
takes no more events: the load fails, and the work begins anew. -/
theorem reload_refused_begins_anew :
    let setup := smallSetup 4
    let d := [Command.openBrowser, .markLogin, .loadPlan, .confirm].foldl
      (fun d c => (perform setup c).after d) smallDesk
    let d' := (perform setup .loadPlan).after d
    (perform setup .loadPlan).result d = .error Coordinator.unavailable ∧
      (d.cursor = 1 ∧ d.itemText ["factura_id"] "" = "F2") ∧
      d'.cursor = 0 ∧ d'.itemText ["factura_id"] "" = "F1" := by
  intro setup d d'
  have hbefore : (d.cursor = 1 ∧ d.itemText ["factura_id"] "" = "F2") ∧ d.posted.length = 4 := by
    decide +kernel
  -- the desk before the load is not looked at any more
  clear_value d
  obtain ⟨hbefore, hposted⟩ := hbefore
  have hrefused : ¬d.posted.length < 4 := by omega
  have hfails : (perform setup .loadPlan).result d = .error Coordinator.unavailable :=
    (loadPlan_fails_iff setup d _).mpr (.inr ⟨_, rfl, if_neg hrefused⟩)
  have hafter : d' = (loadPlan setup).after d := after_perform_loadPlan setup d
  have hfetched : setup.coordinator.plan d.requests setup.importId = .ok _ := rfl
  have hbegun := loadPlan_of_fetched hfetched
  rw [← hafter] at hbegun
  refine ⟨hfails, hbefore, hbegun.cursor, ?_⟩
  rw [itemText, hbegun.currentItem?]
  rfl

end FlowPilot.Desk
