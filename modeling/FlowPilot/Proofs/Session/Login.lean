import FlowPilot.Proofs.Act
import FlowPilot.Session.Basic
import Mathlib.Data.List.Induction

/-!
# How long a login lasts

The mark of a login belongs to a session, not to a context, and opening a context takes it away
last, after the page was opened. So a login that was marked before the context was opened lasts
exactly when that page could not be opened: the context stays, and the next attempt does not see
that it is new.

## Main definitions

* `Session.Call`: what is asked of a session.
* `Session.afterCalls`: a new session after some calls.
* `Session.SameLogin`: sessions with the same context and the same mark.
* `Session.OpenSince`: the calls before and after a context was opened.

## Main statements

* `Session.ensure_of_none`: all that opening a context can do to the mark.
* `Session.loggedIn_iff_of_context`: exactly when a session with a context is logged in.
-/

namespace FlowPilot.Session

open Act

variable {α : Type} {s : Session}

/-- What is asked of a session. -/
inductive Call
  | ensure
  | markLoggedIn
  | teardown
  deriving DecidableEq, Repr

/-- Does what is asked. -/
def perform : Call → Act Session Unit
  | .ensure => ensure
  | .markLoggedIn => modify markLoggedIn
  | .teardown => teardown

/-- A new session after some calls, whether they failed or not. -/
def afterCalls (launcher : Launcher) (calls : List Call) : Session :=
  calls.foldl (fun s call => (perform call).after s) { launcher := launcher }

theorem afterCalls_snoc (launcher : Launcher) (calls : List Call) (call : Call) :
    afterCalls launcher (calls ++ [call]) = (perform call).after (afterCalls launcher calls) := by
  simp [afterCalls]

/-! ### One call -/

/-- Sessions with the same context and the same mark. -/
structure SameLogin (s s' : Session) : Prop where
  context : s'.context = s.context
  loggedIn : s'.loggedIn = s.loggedIn

instance : IsPreorder Session SameLogin where
  refl _ := ⟨rfl, rfl⟩
  trans _ _ _ h h' := ⟨h'.context.trans h.context, h'.loggedIn.trans h.loggedIn⟩

/-- What the launcher does leaves the session alone. -/
theorem onLauncher_sameLogin (x : Act Launcher α) : Leads SameLogin (onLauncher x) :=
  fun _ => ⟨rfl, rfl⟩

theorem ensureBrowser_sameLogin : Leads SameLogin ensureBrowser := by
  refine Leads.get.bind fun _ => Leads.ite ?_ (Leads.pure _)
  exact (onLauncher_sameLogin _).bind fun _ _ => ⟨rfl, rfl⟩

theorem ensurePage_sameLogin : Leads SameLogin ensurePage := by
  refine Leads.get.bind fun _ => Leads.ite ?_ (Leads.pure _)
  exact (onLauncher_sameLogin _).bind fun _ _ => ⟨rfl, rfl⟩

theorem ensureContext_of_context (h : s.context.isSome) :
    ensureContext.result s = .ok false ∧ ensureContext.after s = s := by
  simp [ensureContext, Option.isSome_iff_ne_none.mp h]

/-- A context is opened or not, and the mark stays either way. -/
theorem ensureContext_of_none (h : s.context = none) :
    (∃ e, ensureContext.result s = .error e ∧ SameLogin s (ensureContext.after s)) ∨
      ensureContext.result s = .ok true ∧ (ensureContext.after s).context.isSome ∧
        (ensureContext.after s).loggedIn = s.loggedIn := by
  cases hopen : (onLauncher Launcher.newContext).result s with
  | error e =>
    refine .inl ⟨e, by simp [ensureContext, h, hopen], ?_⟩
    simpa [ensureContext, h, hopen] using onLauncher_sameLogin Launcher.newContext s
  | ok context =>
    have hkept := onLauncher_sameLogin Launcher.newContext s
    exact .inr (by simp [ensureContext, h, hopen, hkept.loggedIn, Except.map])

/-- A session that has a context keeps it with its mark. -/
theorem ensure_of_context (h : s.context.isSome) : SameLogin s (ensure.after s) := by
  have hbrowser := ensureBrowser_sameLogin s
  cases hlaunch : ensureBrowser.result s with
  | error e => simpa [ensure, hlaunch] using hbrowser
  | ok _ =>
    obtain ⟨hresult, hafter⟩ := ensureContext_of_context (hbrowser.context ▸ h)
    have hpage := trans_of SameLogin hbrowser (ensurePage_sameLogin _)
    cases hopen : ensurePage.result (ensureBrowser.after s) <;>
      simpa [ensure, hlaunch, hresult, hafter, hopen] using hpage

/-- Where a context is opened, a mark lasts exactly when the page could not be opened then. -/
theorem ensure_of_none (h : s.context = none) :
    SameLogin s (ensure.after s) ∨
      (ensure.after s).context.isSome ∧
        ((ensure.after s).loggedIn = true ↔
          s.loggedIn = true ∧ ∃ e, ensure.result s = .error e) := by
  have hbrowser := ensureBrowser_sameLogin s
  cases hlaunch : ensureBrowser.result s with
  | error e => exact .inl (by simpa [ensure, hlaunch] using hbrowser)
  | ok _ =>
    rcases ensureContext_of_none (hbrowser.context.trans h) with
      ⟨e, hrefused, hkept⟩ | ⟨hresult, hcontext, hmark⟩
    · have hkept := trans_of SameLogin hbrowser hkept
      exact .inl (by simpa [ensure, hlaunch, hrefused] using hkept)
    · -- the mark is taken away only after the page, so a page that fails leaves it
      have hpage := ensurePage_sameLogin (ensureContext.after (ensureBrowser.after s))
      rw [← hpage.context] at hcontext
      have hmark := (hpage.loggedIn.trans hmark).trans hbrowser.loggedIn
      cases hopen : ensurePage.result (ensureContext.after (ensureBrowser.after s)) <;>
        exact .inr (by simp [ensure, hlaunch, hresult, hopen, hcontext, hmark])

theorem teardown_context (s : Session) : (teardown.after s).context = none := by
  cases hbrowser : s.browser <;> simp [teardown, hbrowser, onLauncher]

/-- Short of the end of a session, a call keeps the context that is open. -/
theorem context_kept {call : Call} (hcall : call ≠ .teardown) (h : s.context.isSome) :
    ((perform call).after s).context = s.context := by
  cases call with
  | ensure => exact (ensure_of_context h).context
  | markLoggedIn => rfl
  | teardown => exact absurd rfl hcall

/-! ### Since a context was opened -/

/-- Calls before a context was opened by one more, and calls after that which did not end the
session. -/
structure OpenSince (launcher : Launcher) (earlier later : List Call) : Prop where
  absent : (afterCalls launcher earlier).context = none
  opened : (afterCalls launcher (earlier ++ [.ensure])).context.isSome
  kept : .teardown ∉ later

/-- The context that was opened is the one that is open. -/
theorem OpenSince.context {launcher : Launcher} {earlier later : List Call}
    (h : OpenSince launcher earlier later) :
    (afterCalls launcher (earlier ++ .ensure :: later)).context =
      (afterCalls launcher (earlier ++ [.ensure])).context := by
  obtain ⟨_, hopened, hkept⟩ := h
  induction later using List.reverseRecOn with
  | nil => rfl
  | append_singleton later call ih =>
    rw [List.mem_append, not_or, List.mem_singleton] at hkept
    have hbefore := ih hkept.1
    rw [← List.cons_append, ← List.append_assoc, afterCalls_snoc,
      context_kept (Ne.symm hkept.2) (hbefore ▸ hopened), hbefore]

/-- A context that is open was opened by one of the calls. -/
theorem exists_openSince (launcher : Launcher) (calls : List Call)
    (h : (afterCalls launcher calls).context.isSome) :
    ∃ earlier later, calls = earlier ++ .ensure :: later ∧ OpenSince launcher earlier later := by
  induction calls using List.reverseRecOn with
  | nil => exact absurd h (by simp [afterCalls])
  | append_singleton calls call ih =>
    by_cases hbefore : (afterCalls launcher calls).context.isSome
    · obtain ⟨earlier, later, rfl, hsince⟩ := ih hbefore
      have hcall : call ≠ .teardown := by
        rintro rfl
        rw [afterCalls_snoc, perform, teardown_context] at h
        exact absurd h (by simp)
      refine ⟨earlier, later ++ [call], by simp, hsince.absent, hsince.opened, ?_⟩
      rw [List.mem_append, not_or, List.mem_singleton]
      exact ⟨hsince.kept, Ne.symm hcall⟩
    · -- of the calls only one opens a context where there is none
      have habsent : (afterCalls launcher calls).context = none := by simpa using hbefore
      cases call with
      | ensure => exact ⟨calls, [], rfl, habsent, h, List.not_mem_nil⟩
      | markLoggedIn =>
        rw [afterCalls_snoc] at h
        exact absurd h hbefore
      | teardown =>
        rw [afterCalls_snoc, perform, teardown_context] at h
        exact absurd h (by simp)

/-- Since its context was opened, a session is logged in exactly when it was marked since, or was
marked already then and the page could not be opened. -/
theorem OpenSince.loggedIn_iff {launcher : Launcher} {earlier later : List Call}
    (h : OpenSince launcher earlier later) :
    (afterCalls launcher (earlier ++ .ensure :: later)).loggedIn = true ↔
      .markLoggedIn ∈ later ∨
        (afterCalls launcher earlier).loggedIn = true ∧
          ∃ e, ensure.result (afterCalls launcher earlier) = .error e := by
  -- By induction on the last call since. Without any, the mark is as the opening left it.
  induction later using List.reverseRecOn with
  | nil =>
    have hopened := h.opened
    rw [afterCalls_snoc] at hopened ⊢
    rcases ensure_of_none h.absent with hsame | ⟨_, hmark⟩
    · rw [perform, hsame.context, h.absent] at hopened
      exact absurd hopened (by simp)
    · rw [perform, hmark]
      simp
  | append_singleton later call ih =>
    have hkept := h.kept
    rw [List.mem_append, not_or, List.mem_singleton] at hkept
    have hsince : OpenSince launcher earlier later := ⟨h.absent, h.opened, hkept.1⟩
    have hcontext := hsince.context ▸ h.opened
    have hbefore := ih hsince
    rw [← List.cons_append, ← List.append_assoc, afterCalls_snoc, List.mem_append,
      List.mem_singleton]
    cases call with
    | ensure => simpa [perform, (ensure_of_context hcontext).loggedIn] using hbefore
    | markLoggedIn => simp [perform, markLoggedIn]
    | teardown => exact absurd rfl hkept.2

/-- In a session with a context, the context was opened by one of the calls, and the session is
logged in exactly when it was marked after that call, or was marked before it and that call opened
the context but failed. -/
theorem loggedIn_iff_of_context (launcher : Launcher) (calls : List Call)
    (h : (afterCalls launcher calls).context.isSome) :
    (∃ earlier later, calls = earlier ++ .ensure :: later ∧ OpenSince launcher earlier later) ∧
      ∀ earlier later, calls = earlier ++ .ensure :: later → OpenSince launcher earlier later →
        (afterCalls launcher calls).context =
            (afterCalls launcher (earlier ++ [.ensure])).context ∧
          ((afterCalls launcher calls).loggedIn = true ↔
            .markLoggedIn ∈ later ∨
              (afterCalls launcher earlier).loggedIn = true ∧
                ∃ e, ensure.result (afterCalls launcher earlier) = .error e) := by
  refine ⟨exists_openSince launcher calls h, ?_⟩
  rintro earlier later rfl hsince
  exact ⟨hsince.context, hsince.loggedIn_iff⟩

/-- A launcher whose first page cannot be opened. -/
def clumsyLauncher : Launcher where
  page :=
    { Page.opened "" with
      interference := .striking fun op call => op == .newPage && call == 0 }

/-- A login that was marked without any context lasts in the first one: the context was opened, its
page was not, and the second attempt takes the context for an old one. -/
theorem login_lasts_in_new_context :
    let earlier := [Call.markLoggedIn]
    let later := [Call.ensure]
    let s := afterCalls clumsyLauncher (earlier ++ .ensure :: later)
    OpenSince clumsyLauncher earlier later ∧ .markLoggedIn ∉ later ∧
      s.context = some 0 ∧ s.page = some 0 ∧ s.loggedIn = true ∧ s.demandLogin = .ok () :=
  ⟨⟨by decide, by decide, by decide⟩, by decide, by decide, by decide, by decide, rfl⟩

/-- After the end of a session a second context was opened with its page, so that no earlier mark
lasts in it. -/
theorem not_loggedIn_in_second_context :
    let earlier := [Call.ensure, .markLoggedIn, .teardown]
    let s := afterCalls clumsyLauncher (earlier ++ [.ensure])
    s.context = some 1 ∧ OpenSince clumsyLauncher earlier [] ∧ s.loggedIn = false := by
  intro earlier s
  have hcontext : s.context.isSome := by decide
  have hsince : OpenSince clumsyLauncher earlier [] := ⟨by decide, by decide, by decide⟩
  have hlaw := (loggedIn_iff_of_context clumsyLauncher _ hcontext).2 _ _ rfl hsince
  have hunmarked : (afterCalls clumsyLauncher earlier).loggedIn = false := by decide
  refine ⟨by decide, hsince, Bool.eq_false_iff.mpr fun hlogin => ?_⟩
  rcases hlaw.2.mp hlogin with hlater | ⟨hmarked, _⟩
  · exact List.not_mem_nil hlater
  · exact absurd (hmarked.symm.trans hunmarked) (by decide)

end FlowPilot.Session
