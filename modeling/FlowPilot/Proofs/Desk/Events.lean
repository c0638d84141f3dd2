import FlowPilot.Proofs.Desk.Body

/-!
# What reports say

A reported command posts one event when it succeeds and one more when it, or that event, fails. The
events are announced at the desk as it is before the command, so they are about the same action and
the same invoice although a confirmation goes on in between. Neither the picture nor the event of a
failure changes what the failure is.

## Main definitions

* `Announcement.event`: an event of an announced action.
* `Desk.SamePosted`: desks with the same events posted.
* `Desk.FailsFor`: an action fails for a cause, and an error event says so.

## Main statements

* `Desk.report_of_error`, `Desk.report_of_silent`, `Desk.report_of_ok`: what a report posts and
  answers.
* `Desk.perform_posts`: the same for the commands, with what their events say about the invoice.
-/

namespace FlowPilot

def Announcement.event (setup : Desk.Setup) (a : Announcement) (status : ProgressEvent.Status)
    (message : String) (time : Nat) : ProgressEvent :=
  ⟨setup.importId, a.step, status, message, time, a.extra⟩

namespace Desk

open Act

variable {α : Type} {setup : Setup} {a : Announcement} {d : Desk}

/-! ### Posting -/

/-- Desks with the same events posted. -/
def SamePosted (d d' : Desk) : Prop := d'.posted = d.posted

instance : IsPreorder Desk SamePosted where
  refl _ := rfl
  trans _ _ _ h h' := h'.trans h

theorem onSession_samePosted (x : Act Session α) : Leads SamePosted (onSession x) := fun _ => rfl

theorem advance_samePosted (d : Desk) : SamePosted d d.advance := by
  unfold advance
  split <;> rfl

/-- Only reports and the loading of a plan post events. -/
theorem body_samePosted {c : Command} (hload : c ≠ .loadPlan) :
    Leads SamePosted (body setup c) :=
  body_leads onSession_samePosted hload fun _ => advance_samePosted

theorem result_post (status : ProgressEvent.Status) (message : String) :
    (post setup a status message).result d =
      (setup.coordinator.reply d.posted (a.event setup status message d.now)).map fun _ => () := by
  simp [post, Announcement.event]

theorem posted_after_post (status : ProgressEvent.Status) (message : String) :
    ((post setup a status message).after d).posted =
      d.posted ++ [a.event setup status message d.now] := by
  rw [after_post]
  rfl

/-! ### Failures -/

/-- An action fails for a cause after some events were posted: its failure wraps the cause, and one
more event has the words of that failure. -/
def FailsFor (setup : Setup) (a : Announcement) (cause : Fault) (said : List ProgressEvent)
    (action : Act Desk α) (d : Desk) : Prop :=
  ∃ evidence time,
    action.result d = .error (.stepFailed a.step cause evidence) ∧
      (action.after d).posted = said ++
        [a.event setup .error (Fault.stepFailed a.step cause evidence).message time]

/-- The part of the account of a failure that follows the picture. -/
def tell (setup : Setup) (a : Announcement) (cause : Fault) (evidence : Option Evidence) :
    StateM Desk Fault := do
  let fault : Fault := .stepFailed a.step cause evidence
  (post setup a .error fault.message).orUse ()
  return fault

theorem tell_fst (cause : Fault) (evidence : Option Evidence) :
    (tell setup a cause evidence d).1 = .stepFailed a.step cause evidence := rfl

theorem posted_after_tell (cause : Fault) (evidence : Option Evidence) :
    (tell setup a cause evidence d).2.posted = d.posted ++
      [a.event setup .error (Fault.stepFailed a.step cause evidence).message d.now] := by
  show ((post _ _ _ _).orUse () d).2.posted = _
  rw [orUse_snd, posted_after_post]

/-- The picture comes first, if there is a page. -/
theorem failure_eq_tell (setup : Setup) (a : Announcement) (cause : Fault) (d : Desk) :
    ∃ evidence d', (d' = d ∨ d' = (capture setup ("error_" ++ a.step)).after d) ∧
      failure setup a cause d = tell setup a cause evidence d' := by
  by_cases hpage : d.session.page.isSome
  · let picture : Act Desk (Option Evidence) := some <$> capture setup ("error_" ++ a.step)
    have hpicture : (picture.orUse none d).2 = (capture setup ("error_" ++ a.step)).after d := by
      rw [orUse_snd, after_map]
    refine ⟨(picture.orUse none d).1, (picture.orUse none d).2, .inr hpicture, ?_⟩
    show (ite _ _ _ : StateM Desk Fault) d = _
    rw [if_pos hpage]
    rfl
  · refine ⟨none, d, .inl rfl, ?_⟩
    show (ite _ _ _ : StateM Desk Fault) d = _
    rw [if_neg hpage]
    rfl

/-! ### Reports -/

/-- An action succeeds after which these events are posted. -/
def SucceedsWith (x : α) (said : List ProgressEvent) (action : Act Desk α) (d : Desk) : Prop :=
  action.result d = .ok x ∧ (action.after d).posted = said

/-- A report fails when the announced action does, and neither the picture nor the answer to the
error event counts. -/
theorem report_failsFor {action : Act Desk α} {cause : Fault}
    (hfails : (announced setup a action).result d = .error cause) :
    FailsFor setup a cause ((announced setup a action).after d).posted
      (report setup a action) d := by
  obtain ⟨evidence, d₁, hd₁, htell⟩ :=
    failure_eq_tell setup a cause ((announced setup a action).after d)
  have hsame : SamePosted ((announced setup a action).after d) d₁ := by
    rcases hd₁ with rfl | rfl
    · exact refl_of SamePosted _
    · exact capture_leads (onSession_samePosted _) _ _
  refine ⟨evidence, d₁.now, ?_, ?_⟩
  · rw [report_eq, result_tryCatch, hfails]
    simp [htell, tell_fst]
  · rw [report_eq, after_tryCatch, hfails, ← hsame, ← posted_after_tell, ← htell]
    simp

theorem report_succeedsWith {action : Act Desk α} {x : α}
    (hdone : (announced setup a action).result d = .ok x) :
    SucceedsWith x ((announced setup a action).after d).posted (report setup a action) d := by
  rw [SucceedsWith, report_eq, result_tryCatch, after_tryCatch, hdone]
  exact ⟨rfl, rfl⟩

/-- A report of an action that fails says so in one event. -/
theorem report_of_error {action : Act Desk α} {cause : Fault} (haction : Leads SamePosted action)
    (hfails : action.result d = .error cause) :
    FailsFor setup a cause d.posted (report setup a action) d := by
  have hannounced : (announced setup a action).result d = .error cause := by
    simp [announced, hfails]
  have hposted : ((announced setup a action).after d).posted = (action.after d).posted := by
    simp [announced, hfails]
  rw [← show _ = d.posted from hposted.trans (haction d)]
  exact report_failsFor hannounced

theorem report_of_silent {action : Act Desk α} {x : α} (haction : Leads SamePosted action)
    (hdone : action.result d = .ok x) (hsilent : a.silent = true) :
    SucceedsWith x d.posted (report setup a action) d := by
  have hannounced : (announced setup a action).result d = .ok x := by
    simp [announced, hdone, hsilent]
  have hposted : ((announced setup a action).after d).posted = (action.after d).posted := by
    simp [announced, hsilent]
  rw [← show _ = d.posted from hposted.trans (haction d)]
  exact report_succeedsWith hannounced

/-- The event of an action that succeeds is posted, and the action fails if it is refused. -/
theorem report_of_ok {action : Act Desk α} {x : α} (haction : Leads SamePosted action)
    (hdone : action.result d = .ok x) (hsilent : a.silent = false) :
    let done := a.event setup .ok a.message (action.after d).now
    match setup.coordinator.reply d.posted done with
    | .ok _ => SucceedsWith x (d.posted ++ [done]) (report setup a action) d
    | .error refusal =>
      FailsFor setup a refusal (d.posted ++ [done]) (report setup a action) d := by
  intro done
  have hsame : (action.after d).posted = d.posted := haction d
  have hresult : (post setup a .ok a.message).result (action.after d) =
      (setup.coordinator.reply d.posted done).map fun _ => () := by
    rw [result_post, hsame]
  have hposted : ((announced setup a action).after d).posted = d.posted ++ [done] := by
    rw [← hsame, ← posted_after_post]
    cases (post setup a .ok a.message).result (action.after d) <;>
      simp [announced, hdone, hsilent]
  rw [← hposted]
  cases hreply : setup.coordinator.reply d.posted done with
  | ok answer =>
    rw [hreply] at hresult
    exact report_succeedsWith (by simp [announced, hdone, hsilent, hresult, Except.map])
  | error refusal =>
    rw [hreply] at hresult
    exact report_failsFor (by simp [announced, hdone, hsilent, hresult, Except.map])

/-! ### Commands -/

/-- Commands that work on the invoice of the current item. -/
def Command.onInvoice : Command → Bool
  | .openInvoice | .run _ | .prepare | .confirm => true
  | _ => false

/-- Commands that work on the browser alone. -/
def Command.onBrowser : Command → Bool
  | .openBrowser | .goto _ | .markLogin | .status | .capture _ => true
  | _ => false

theorem extra_of_onInvoice {c : Command} (h : c.onInvoice) :
    (d.announcement c).extra = d.invoiceMember := by
  cases c with
  | openInvoice | run | prepare | confirm => rfl
  | _ => exact absurd h Bool.false_ne_true

theorem extra_of_onBrowser {c : Command} (h : c.onBrowser) :
    (d.announcement c).extra = [] := by
  cases c with
  | openBrowser | goto | markLogin | status | capture => rfl
  | _ => exact absurd h Bool.false_ne_true

theorem silent_iff (c : Command) : (d.announcement c).silent = decide (c = .prepare) := by
  cases c <;> rfl

/-- What a reported command posts and answers, whatever becomes of the picture. All its events are
announced at the desk before it, and those of commands that work on an invoice name the current one
if its identifier says anything. -/
theorem perform_posts (setup : Setup) (d : Desk) {c : Command} (hload : c ≠ .loadPlan)
    (hteardown : c ≠ .teardown) :
    let a := d.announcement c
    let done := a.event setup .ok a.message ((body setup c).after d).now
    (c.onInvoice → a.extra = d.invoiceMember) ∧ (c.onBrowser → a.extra = []) ∧
      (∀ cause, (body setup c).result d = .error cause →
        FailsFor setup a cause d.posted (perform setup c) d) ∧
      ∀ reply, (body setup c).result d = .ok reply →
        if c = .prepare then SucceedsWith reply d.posted (perform setup c) d
        else
          match setup.coordinator.reply d.posted done with
          | .ok _ => SucceedsWith reply (d.posted ++ [done]) (perform setup c) d
          | .error refusal =>
            FailsFor setup a refusal (d.posted ++ [done]) (perform setup c) d := by
  intro a done
  have hbody : Leads SamePosted (body setup c) := body_samePosted hload
  have hreport : perform setup c d = report setup a (body setup c) d :=
    perform_eq_report hload hteardown d
  simp only [FailsFor, SucceedsWith, result, after, hreport]
  refine ⟨extra_of_onInvoice, extra_of_onBrowser, fun cause => report_of_error hbody, ?_⟩
  intro reply hdone
  split
  · rename_i hprepare
    exact report_of_silent hbody hdone ((silent_iff c).trans (decide_eq_true hprepare))
  · rename_i hprepare
    exact report_of_ok hbody hdone ((silent_iff c).trans (decide_eq_false hprepare))

/-- The first of two invoices is confirmed, and the event of that is refused: an error event about
the same invoice follows, and the refusal is the cause of the failure. -/
theorem confirm_refused_posts :
    let setup := smallSetup 3
    let d := [Command.openBrowser, .markLogin, .loadPlan].foldl
      (fun d c => (perform setup c).after d) smallDesk
    let a := d.announcement .confirm
    let done := a.event setup .ok a.message ((body setup .confirm).after d).now
    Command.confirm ≠ .loadPlan ∧ Command.confirm ≠ .teardown ∧
      a.extra.map (fun m => (m.1, m.2.text?)) = [("factura_id", some "F1")] ∧
      FailsFor setup a Coordinator.unavailable (d.posted ++ [done]) (perform setup .confirm) d := by
  intro setup d a done
  have hname : a.extra.map (fun m => (m.1, m.2.text?)) = [("factura_id", some "F1")] := by
    decide +kernel
  have hdone : ((body setup .confirm).result d).isOk := by decide +kernel
  have hposted : ¬d.posted.length < 3 := by decide +kernel
  clear_value d
  have hrefused : setup.coordinator.reply d.posted done = .error Coordinator.unavailable :=
    if_neg hposted
  refine ⟨by decide, by decide, hname, ?_⟩
  have hposts := (perform_posts setup d (c := .confirm) (by decide) (by decide)).2.2.2
  cases hresult : (body setup .confirm).result d with
  | error e =>
    rw [hresult] at hdone
    exact absurd hdone Bool.false_ne_true
  | ok reply =>
    have hreply := hposts reply hresult
    rw [if_neg (by decide), hrefused] at hreply
    exact hreply

/-- The first of two invoices is current, and the event of a look at the browser does not name
it. -/
theorem status_names_no_invoice :
    let setup := smallSetup 4
    let d := [Command.openBrowser, .markLogin, .loadPlan].foldl
      (fun d c => (perform setup c).after d) smallDesk
    d.itemText ["factura_id"] "" = "F1" ∧
      (((perform setup .status).after d).posted.drop d.posted.length).map
        (fun e => (e.step, e.status, e.extra.length)) = [("status_check", .ok, 0)] := by
  decide +kernel

end Desk

end FlowPilot
