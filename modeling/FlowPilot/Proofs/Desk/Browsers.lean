import Mathlib.Logic.Relation
import FlowPilot.Proofs.Desk.Body
import FlowPilot.Proofs.Session.Handles

/-!
# The browsers of a desk

Pages, pictures, events and plans have nothing to do with browsers, and a command calls the session
in the three ways in which a session can be called. So whatever becomes of a new desk, each browser
that was launched for it is the one that is held or was told to close, once.

## Main definitions

* `Desk.new`: a desk at which nothing was done yet.
* `Desk.Happens`, `Desk.Becomes`: what becomes of a desk through commands and what happens outside.
* `Desk.KeepsAccounts`: desks of which the second accounts for its browsers if the first one does.

## Main statements

* `Desk.perform_keepsAccounts`: what a command keeps.
* `Desk.Becomes.accounts`: what becomes of a new desk accounts for its browsers.
-/

namespace FlowPilot

open Act

namespace Session

variable {first : Launcher} {s : Session}

theorem onPage_opens {α : Type} (x : Act Page α) : Leads Opens (onPage x) :=
  fun _ => ⟨rfl, .refl _ _, .refl _ _, .refl _ _⟩

/-- No call of a session loses sight of a browser. -/
theorem Accounts.perform (h : Accounts first s) (call : Call) :
    Accounts first ((perform call).after s) := by
  by_cases hcall : call = .teardown
  · rw [hcall]
    exact h.teardown
  · exact h.opens (perform_opens hcall s)

/-- Where no browser is held, those that were launched were told to close, each of them once. -/
theorem Accounts.count_closeCalls (h : Accounts first s) (hbrowser : s.browser = none) (n : Nat) :
    s.launcher.closeCalls.count n = first.closeCalls.count n +
      if first.browsers ≤ n ∧ n < s.launcher.browsers then 1 else 0 := by
  obtain ⟨launched, told, hlaunched, htold, hall⟩ := h
  have htold' : told = (List.range' first.browsers launched).reverse := by
    simpa [hbrowser] using hall
  rw [htold, htold', List.count_append, List.count_reverse, List.count_range_1', hlaunched,
    Nat.add_comm]

end Session

namespace Desk

variable {setup : Setup} {start d d' : Desk}

/-! ### What becomes of a desk -/

/-- A desk at which nothing was done yet. -/
def new (page : Page) (flowContent : Except FlowFileFault ByteArray) (storeBlocked : Bool) : Desk :=
  { session := { launcher := { page := page } }, flowContent, storeBlocked }

/-- What happens at a desk: a command is performed under any setup, or the page, the flow file and
the store change in any way. -/
inductive Happens (d : Desk) : Desk → Prop
  | command (setup : Setup) (c : Command) : Happens d ((perform setup c).after d)
  | outside (page : Page) (flowContent : Except FlowFileFault ByteArray) (storeBlocked : Bool) :
      Happens d
        { d with
          session := { d.session with launcher := { d.session.launcher with page := page } }
          flowContent, storeBlocked }

/-- What becomes of a desk, one thing after the other. -/
def Becomes : Desk → Desk → Prop := Relation.ReflTransGen Happens

instance : IsPreorder Desk Becomes where
  refl _ := .refl
  trans _ _ _ := .trans

theorem Becomes.command (h : Becomes start d) (setup : Setup) (c : Command) :
    Becomes start ((perform setup c).after d) :=
  h.tail (.command setup c)

/-! ### Accounts of browsers -/

/-- Desks of which the second accounts for its browsers if the first one does. -/
def KeepsAccounts (d d' : Desk) : Prop :=
  ∀ first : Launcher, d.session.Accounts first → d'.session.Accounts first

instance : IsPreorder Desk KeepsAccounts where
  refl _ _ h := h
  trans _ _ _ h h' first hd := h' first (h first hd)

/-- The session alone accounts for browsers. -/
theorem KeepsAccounts.of_session (h : d'.session = d.session) : KeepsAccounts d d' := by
  intro first hd
  rw [h]
  exact hd

theorem onPage_keepsAccounts {α : Type} (x : Act Page α) : Leads KeepsAccounts (onPage x) :=
  fun d _ hd => hd.opens (Session.onPage_opens x d.session)

theorem call_keepsAccounts (call : Session.Call) :
    Leads KeepsAccounts (onSession (Session.perform call)) :=
  fun _ _ hd => hd.perform call

theorem capture_keepsAccounts (label : String) : Leads KeepsAccounts (capture setup label) :=
  capture_leads (onPage_keepsAccounts _) label

theorem post_keepsAccounts (a : Announcement) (status : ProgressEvent.Status) (message : String) :
    Leads KeepsAccounts (post setup a status message) := by
  intro d
  rw [after_post]
  exact .of_session rfl

theorem advance_keepsAccounts (d : Desk) : KeepsAccounts d d.advance := by
  refine .of_session ?_
  unfold advance
  split <;> rfl

/-- Loading a plan leaves the session alone, whether the plan comes or not. -/
theorem session_after_loadPlan (d : Desk) : ((loadPlan setup).after d).session = d.session := by
  cases hfetched : setup.coordinator.plan d.requests setup.importId with
  | error e => simp [loadPlan, hfetched]
  | ok plan =>
    simp only [loadPlan, hfetched, after_bind, result_get, after_get, result_set, after_set,
      result_ofExcept, after_ofExcept, result_modify, after_modify, after_pure, after_post]
    split <;> rfl

theorem body_keepsAccounts (c : Command) : Leads KeepsAccounts (body setup c) := by
  by_cases hload : c = .loadPlan
  · subst hload
    have hleaves : Leads KeepsAccounts (loadPlan setup) :=
      fun d => .of_session (session_after_loadPlan d)
    exact hleaves.bind fun _ => Leads.pure _
  · exact body_leads_of_calls onPage_keepsAccounts call_keepsAccounts hload
      fun _ => advance_keepsAccounts

/-- No command loses sight of a browser, whatever fails. -/
theorem perform_keepsAccounts (setup : Setup) (c : Command) :
    Leads KeepsAccounts (perform setup c) := by
  intro d
  have hreport : KeepsAccounts ((body setup c).after d) ((perform setup c).after d) :=
    body_leads_perform capture_keepsAccounts post_keepsAccounts c d
  exact trans_of KeepsAccounts (body_keepsAccounts c d) hreport

theorem Happens.keepsAccounts (h : Happens d d') : KeepsAccounts d d' := by
  cases h with
  | command setup c => exact perform_keepsAccounts setup c d
  | outside page =>
    -- another page is no other browser
    exact fun _ hd => hd.opens ⟨rfl, .refl _ _, .refl _ _, .refl _ _⟩

theorem Becomes.keepsAccounts (h : Becomes start d) : KeepsAccounts start d := by
  induction h with
  | refl => exact refl_of KeepsAccounts start
  | tail _ hlast ih => exact trans_of KeepsAccounts ih hlast.keepsAccounts

/-- What becomes of a new desk accounts for all browsers that were launched for it. -/
theorem Becomes.accounts {page : Page} {flowContent : Except FlowFileFault ByteArray}
    {storeBlocked : Bool} (h : Becomes (new page flowContent storeBlocked) d) :
    d.session.Accounts { page := page } :=
  h.keepsAccounts _ ⟨0, [], rfl, rfl, rfl⟩

end Desk

end FlowPilot
