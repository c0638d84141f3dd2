import FlowPilot.Proofs.Page.Record
import FlowPilot.Proofs.Session.Login

/-!
# What a session holds

A session opens only what it lacks, in the order browser, context, page, and forgets all of it at
once. So whatever fails on the way, a browser that was launched is either the one that is held or
was told to close, once.

## Main definitions

* `Session.openMissing`: opens something unless it is held already.
* `Session.Opened`: a handle stays as it is, or is opened where there was none.
* `Session.Opens`: sessions of which the second was only ever added to.
* `Session.Nested`: a session with a page has a context, and one with a context has a browser.
* `Session.Accounts`: the browsers that were launched are those that were told to close and the one
  that is held.

## Main statements

* `Session.openMissing_cases`: all that opening something can do.
* `Session.opens_afterCalls`: until its end, a session opens each of the three at most once.
* `Session.handles_of_calls`: what a session holds after any calls, whatever fails.
-/

namespace FlowPilot

open Act

namespace Launcher

/-- A launcher after one more call of an operation on browsers. -/
def counted (l : Launcher) (op : Operation) : Launcher := { l with page := l.page.counted op }

theorem after_attemptTo (op : Operation) (l : Launcher) :
    (attemptTo op).after l = l.counted op := by
  simp [attemptTo, onPage, Page.after_operation, counted]

/-- Opens something of which there are so many, and returns its number. -/
def opening (op : Operation) (number : Launcher → Nat) (more : Launcher → Launcher) :
    Act Launcher Nat := do
  attemptTo op
  modifyGet fun l => (number l, more l)

end Launcher

namespace Session

variable {s s' : Session}

/-! ### Opening what is missing -/

/-- A session after one more call of an operation on browsers. -/
def counted (s : Session) (op : Operation) : Session :=
  { s with launcher := s.launcher.counted op }

/-- Opens something unless it is held already, and tells whether it did. -/
def openMissing (held : Session → Option Nat) (opening : Act Launcher Nat)
    (hold : Session → Nat → Session) : Act Session Bool := do
  if (held (← get)).isNone then
    let handle ← onLauncher opening
    modify fun s => hold s handle
    return true
  return false

section Missing

variable {held : Session → Option Nat} {op : Operation} {number : Launcher → Nat}
  {more : Launcher → Launcher} {hold : Session → Nat → Session}

/-- All that opening something can do: nothing where it is held, a failure that only the launcher
notices, or a handle with the next number. -/
theorem openMissing_cases (held : Session → Option Nat) (op : Operation)
    (number : Launcher → Nat) (more : Launcher → Launcher) (hold : Session → Nat → Session)
    (s : Session) :
    let act := openMissing held (Launcher.opening op number more) hold
    (held s).isSome ∧ act.result s = .ok false ∧ act.after s = s ∨
      held s = none ∧ (∃ e, act.result s = .error e) ∧ act.after s = s.counted op ∨
      held s = none ∧ act.result s = .ok true ∧
        act.after s = hold { s with launcher := more (s.launcher.counted op) }
          (number (s.launcher.counted op)) := by
  intro act
  cases hheld : held s with
  | some handle => simp [act, openMissing, hheld]
  | none =>
    cases hattempt : (Launcher.attemptTo op).result s.launcher with
    | error e =>
      simp [act, openMissing, hheld, onLauncher, Launcher.opening, hattempt,
        Launcher.after_attemptTo, counted]
    | ok _ =>
      simp [act, openMissing, hheld, onLauncher, Launcher.opening, hattempt,
        Launcher.after_attemptTo, Except.map]

/-- What holds in each of these cases holds afterwards. -/
theorem openMissing_keeps {P : Session → Prop} (hsame : P s) (hcounted : P (s.counted op))
    (hopened : held s = none →
      P (hold { s with launcher := more (s.launcher.counted op) }
        (number (s.launcher.counted op)))) :
    P ((openMissing held (Launcher.opening op number more) hold).after s) := by
  rcases openMissing_cases held op number more hold s with
    ⟨_, _, hafter⟩ | ⟨_, _, hafter⟩ | ⟨hmissing, _, hafter⟩
  · rw [hafter]
    exact hsame
  · rw [hafter]
    exact hcounted
  · rw [hafter]
    exact hopened hmissing

theorem openMissing_held (hhold : ∀ s handle, held (hold s handle) = some handle) {opened : Bool}
    (h : (openMissing held (Launcher.opening op number more) hold).result s = .ok opened) :
    (held ((openMissing held (Launcher.opening op number more) hold).after s)).isSome := by
  rcases openMissing_cases held op number more hold s with
    ⟨hheld, _, hafter⟩ | ⟨_, ⟨e, hrefused⟩, _⟩ | ⟨_, _, hafter⟩
  · rw [hafter]
    exact hheld
  · exact absurd (hrefused.symm.trans h) (by simp)
  · rw [hafter, hhold]
    rfl

end Missing

/-- Something is opened without telling whether it was. -/
theorem discard_openMissing (held : Session → Option Nat) (opening : Act Launcher Nat)
    (hold : Session → Nat → Session) :
    (discard (openMissing held opening hold) : Act Session PUnit) = (do
      if (held (← get)).isNone then
        let handle ← onLauncher opening
        modify fun s => hold s handle) := by
  apply Act.ext
  all_goals
    intro s
    cases hheld : held s with
    | some handle => simp [openMissing, hheld, Except.map]
    | none =>
      cases hopen : (onLauncher opening).result s <;>
        simp [openMissing, hheld, hopen, Except.map]

theorem ensureBrowser_eq : ensureBrowser =
    discard (openMissing browser Launcher.launch fun s handle =>
      { s with browser := some handle }) :=
  (discard_openMissing _ _ _).symm

theorem ensureContext_eq : ensureContext =
    openMissing context Launcher.newContext fun s handle => { s with context := some handle } :=
  rfl

theorem ensurePage_eq : ensurePage =
    discard (openMissing page Launcher.newPage fun s handle => { s with page := some handle }) :=
  (discard_openMissing _ _ _).symm

/-! ### What calls add -/

/-- A handle stays as it is, or is opened where there was none and takes the next number. -/
def Opened (held held' : Option Nat) (count count' : Nat) : Prop :=
  held' = held ∧ count' = count ∨ held = none ∧ held' = some count ∧ count' = count + 1

theorem Opened.refl (held : Option Nat) (count : Nat) : Opened held held count count :=
  .inl ⟨rfl, rfl⟩

theorem Opened.trans {a b c : Option Nat} {k m n : Nat} (h : Opened a b k m)
    (h' : Opened b c m n) : Opened a c k n := by
  rcases h with ⟨rfl, rfl⟩ | ⟨ha, rfl, rfl⟩
  · exact h'
  · -- what was opened is there, so it is not opened once more
    rcases h' with ⟨rfl, rfl⟩ | ⟨hb, _, _⟩
    · exact .inr ⟨ha, rfl, rfl⟩
    · exact absurd hb (Option.some_ne_none _)

/-- Sessions of which the second was only ever added to. -/
structure Opens (s s' : Session) : Prop where
  closeCalls : s'.launcher.closeCalls = s.launcher.closeCalls
  browser : Opened s.browser s'.browser s.launcher.browsers s'.launcher.browsers
  context : Opened s.context s'.context s.launcher.contexts s'.launcher.contexts
  page : Opened s.page s'.page s.launcher.pages s'.launcher.pages

instance : IsPreorder Session Opens where
  refl _ := ⟨rfl, .refl _ _, .refl _ _, .refl _ _⟩
  trans _ _ _ h h' :=
    ⟨h'.closeCalls.trans h.closeCalls, h.browser.trans h'.browser, h.context.trans h'.context,
      h.page.trans h'.page⟩

theorem counted_opens (s : Session) (op : Operation) : Opens s (s.counted op) :=
  ⟨rfl, .refl _ _, .refl _ _, .refl _ _⟩

theorem ensureBrowser_opens : Leads Opens ensureBrowser := by
  rw [ensureBrowser_eq]
  refine Leads.discard fun s => ?_
  refine openMissing_keeps (refl_of Opens s) (counted_opens s _) fun hmissing => ?_
  exact ⟨rfl, .inr ⟨hmissing, rfl, rfl⟩, .refl _ _, .refl _ _⟩

theorem ensureContext_opens : Leads Opens ensureContext := by
  rw [ensureContext_eq]
  intro s
  refine openMissing_keeps (refl_of Opens s) (counted_opens s _) fun hmissing => ?_
  exact ⟨rfl, .refl _ _, .inr ⟨hmissing, rfl, rfl⟩, .refl _ _⟩

theorem ensurePage_opens : Leads Opens ensurePage := by
  rw [ensurePage_eq]
  refine Leads.discard fun s => ?_
  refine openMissing_keeps (refl_of Opens s) (counted_opens s _) fun hmissing => ?_
  exact ⟨rfl, .refl _ _, .refl _ _, .inr ⟨hmissing, rfl, rfl⟩⟩

/-- Short of the end of a session, a call opens at most what is missing. -/
theorem perform_opens {call : Call} (hcall : call ≠ .teardown) : Leads Opens (perform call) := by
  have hmark : ∀ f : Session → Session, (∀ s, Opens s (f s)) →
      Leads Opens (modify f : Act Session PUnit) := fun _ hf => hf
  have hsame : ∀ (s : Session) (mark : Bool), Opens s { s with loggedIn := mark } :=
    fun _ _ => ⟨rfl, .refl _ _, .refl _ _, .refl _ _⟩
  cases call with
  | ensure =>
    refine ensureBrowser_opens.bind fun _ => ensureContext_opens.bind fun fresh =>
      ensurePage_opens.bind fun _ => Leads.ite (hmark _ fun s => hsame s false) (Leads.pure _)
  | markLoggedIn => exact hmark _ fun s => hsame s true
  | teardown => exact absurd rfl hcall

/-- Until its end, a session opens each of the three at most once, however often it is asked. -/
theorem opens_afterCalls (launcher : Launcher) (earlier : List Call) {later : List Call}
    (h : .teardown ∉ later) :
    Opens (afterCalls launcher earlier) (afterCalls launcher (earlier ++ later)) := by
  induction later using List.reverseRecOn with
  | nil => simpa using refl_of Opens (afterCalls launcher earlier)
  | append_singleton later call ih =>
    rw [List.mem_append, not_or, List.mem_singleton] at h
    rw [← List.append_assoc, afterCalls_snoc]
    exact trans_of Opens (ih h.1) (perform_opens (Ne.symm h.2) _)

/-! ### One inside the other -/

/-- A session with a page has a context, and one with a context has a browser. -/
structure Nested (s : Session) : Prop where
  page : s.page.isSome → s.context.isSome
  context : s.context.isSome → s.browser.isSome

/-- Of a new session nothing is open. -/
theorem nested_new (launcher : Launcher) : Nested { launcher := launcher } :=
  ⟨fun h => absurd h Bool.false_ne_true, fun h => absurd h Bool.false_ne_true⟩

theorem ensureBrowser_nested (h : s.Nested) : (ensureBrowser.after s).Nested := by
  rw [ensureBrowser_eq, after_discard]
  exact openMissing_keeps h ⟨h.page, h.context⟩ fun _ => ⟨h.page, fun _ => rfl⟩

theorem ensureContext_nested (h : s.Nested) (hbrowser : s.browser.isSome) :
    (ensureContext.after s).Nested := by
  rw [ensureContext_eq]
  exact openMissing_keeps h ⟨h.page, h.context⟩ fun _ => ⟨fun _ => rfl, fun _ => hbrowser⟩

theorem ensurePage_nested (h : s.Nested) (hcontext : s.context.isSome) :
    (ensurePage.after s).Nested := by
  rw [ensurePage_eq, after_discard]
  exact openMissing_keeps h ⟨h.page, h.context⟩ fun _ => ⟨fun _ => hcontext, h.context⟩

theorem browser_of_ensureBrowser (h : ensureBrowser.result s = .ok ()) :
    (ensureBrowser.after s).browser.isSome := by
  rw [ensureBrowser_eq, result_discard] at h
  rw [ensureBrowser_eq, after_discard]
  cases hopened : (openMissing browser Launcher.launch fun s handle =>
      { s with browser := some handle }).result s with
  | error e =>
    rw [hopened] at h
    exact absurd h (by simp [Except.map])
  | ok opened => exact openMissing_held (fun _ _ => rfl) hopened

theorem context_of_ensureContext {fresh : Bool} (h : ensureContext.result s = .ok fresh) :
    (ensureContext.after s).context.isSome :=
  openMissing_held (fun _ _ => rfl) h

/-- Each is opened only after the one around it, so a failure in between leaves no gap. -/
theorem ensure_nested (h : s.Nested) : (ensure.after s).Nested := by
  have hbrowser := ensureBrowser_nested h
  cases hlaunch : ensureBrowser.result s with
  | error e => simpa [ensure, hlaunch] using hbrowser
  | ok _ =>
    have hcontext := ensureContext_nested hbrowser (browser_of_ensureBrowser hlaunch)
    cases hopen : ensureContext.result (ensureBrowser.after s) with
    | error e => simpa [ensure, hlaunch, hopen] using hcontext
    | ok fresh =>
      have hpage := ensurePage_nested hcontext (context_of_ensureContext hopen)
      -- the mark of a login, which may be taken away last, is no handle
      have hunmarked : Nested
          { ensurePage.after (ensureContext.after (ensureBrowser.after s)) with
            loggedIn := false } := ⟨hpage.page, hpage.context⟩
      cases hshown : ensurePage.result (ensureContext.after (ensureBrowser.after s)) <;>
        cases fresh <;> simpa [ensure, hlaunch, hopen, hshown]

/-! ### The end of a session -/

/-- The end of a session leaves a new one, even if closing fails. A browser that was held was told
to close. -/
theorem after_teardown (s : Session) :
    ∃ launcher : Launcher, teardown.after s = { launcher := launcher } ∧
      launcher.browsers = s.launcher.browsers ∧
      launcher.closeCalls = s.browser.toList ++ s.launcher.closeCalls := by
  cases hbrowser : s.browser with
  | none => exact ⟨s.launcher, by simp [teardown, hbrowser], rfl, rfl⟩
  | some browser =>
    refine ⟨(Launcher.close browser).after s.launcher, by simp [teardown, hbrowser, onLauncher], ?_⟩
    cases hclose : (Launcher.attemptTo .close).result
        { s.launcher with closeCalls := browser :: s.launcher.closeCalls } <;>
      simp [Launcher.close, Launcher.after_attemptTo, Launcher.counted, hclose]

/-! ### Every browser is held or was told to close -/

/-- The browsers that were launched since a launcher was as it was at first are those that were told
to close since and the one that is held, each of them once. -/
def Accounts (first : Launcher) (s : Session) : Prop :=
  ∃ (launched : Nat) (told : List Nat),
    s.launcher.browsers = first.browsers + launched ∧
      s.launcher.closeCalls = told ++ first.closeCalls ∧
      s.browser.toList ++ told = (List.range' first.browsers launched).reverse

theorem Accounts.opens {first : Launcher} (h : Accounts first s) (hopens : Opens s s') :
    Accounts first s' := by
  obtain ⟨launched, told, hlaunched, htold, hall⟩ := h
  rcases hopens.browser with ⟨hbrowser, hcount⟩ | ⟨hnone, hsome, hcount⟩
  · exact ⟨launched, told, hcount.trans hlaunched, hopens.closeCalls.trans htold, hbrowser ▸ hall⟩
  · refine ⟨launched + 1, told, ?_, hopens.closeCalls.trans htold, ?_⟩
    · rw [hcount, hlaunched, Nat.add_assoc]
    · rw [hnone] at hall
      rw [hsome, hlaunched, List.range'_1_concat, List.reverse_append, ← hall]
      rfl

theorem Accounts.teardown {first : Launcher} (h : Accounts first s) :
    Accounts first (teardown.after s) := by
  obtain ⟨launched, told, hlaunched, htold, hall⟩ := h
  obtain ⟨launcher, hafter, hbrowsers, hcloseCalls⟩ := after_teardown s
  rw [hafter]
  refine ⟨launched, s.browser.toList ++ told, hbrowsers.trans hlaunched, ?_, hall⟩
  rw [hcloseCalls, htold, List.append_assoc]

/-- What holds of a session after any calls. -/
theorem nested_and_accounts (launcher : Launcher) (calls : List Call) :
    (afterCalls launcher calls).Nested ∧ Accounts launcher (afterCalls launcher calls) := by
  induction calls using List.reverseRecOn with
  | nil => exact ⟨nested_new launcher, 0, [], rfl, rfl, rfl⟩
  | append_singleton calls call ih =>
    obtain ⟨hnested, haccounts⟩ := ih
    rw [afterCalls_snoc]
    cases call with
    | ensure =>
      exact ⟨ensure_nested hnested, haccounts.opens (perform_opens (by decide) _)⟩
    | markLoggedIn =>
      exact ⟨⟨hnested.page, hnested.context⟩, haccounts.opens (perform_opens (by decide) _)⟩
    | teardown =>
      refine ⟨?_, haccounts.teardown⟩
      obtain ⟨launcher, hafter, _⟩ := after_teardown (afterCalls launcher calls)
      rw [perform, hafter]
      exact nested_new launcher

/-- After any calls, whatever fails: a page is in a context and a context in a browser. Between two
ends of the session, each of the three is opened at most once, and only where it is missing. The
browsers that were launched are those that were told to close and the one that is held, each of them
once. And the end of a session leaves nothing open and nobody logged in. -/
theorem handles_of_calls (launcher : Launcher) (calls : List Call) :
    let s := afterCalls launcher calls
    ((s.page.isSome → s.context.isSome) ∧ (s.context.isSome → s.browser.isSome)) ∧
      (∀ earlier later, calls = earlier ++ later → .teardown ∉ later →
        let since := afterCalls launcher earlier
        Opened since.browser s.browser since.launcher.browsers s.launcher.browsers ∧
          Opened since.context s.context since.launcher.contexts s.launcher.contexts ∧
          Opened since.page s.page since.launcher.pages s.launcher.pages) ∧
      (∃ (launched : Nat) (told : List Nat),
        s.launcher.browsers = launcher.browsers + launched ∧
          s.launcher.closeCalls = told ++ launcher.closeCalls ∧
          launched = told.length + (if s.browser.isSome then 1 else 0) ∧
          s.browser.toList ++ told = (List.range' launcher.browsers launched).reverse) ∧
      ∀ earlier, calls = earlier ++ [.teardown] →
        s.browser = none ∧ s.context = none ∧ s.page = none ∧ s.loggedIn = false := by
  intro s
  obtain ⟨hnested, launched, told, hlaunched, htold, hall⟩ := nested_and_accounts launcher calls
  refine ⟨⟨hnested.page, hnested.context⟩, ?_, ⟨launched, told, hlaunched, htold, ?_, hall⟩, ?_⟩
  · rintro earlier later rfl hlater since
    have hopens := opens_afterCalls launcher earlier hlater
    exact ⟨hopens.browser, hopens.context, hopens.page⟩
  -- The accounts list the browsers; their number is read off the list.
  · have hheld : s.browser.toList.length = if s.browser.isSome then 1 else 0 := by
      cases s.browser <;> rfl
    have hlength : s.browser.toList.length + told.length = launched := by
      simpa using congrArg List.length hall
    omega
  · rintro earlier rfl
    obtain ⟨launcher', hafter, _⟩ := after_teardown (afterCalls launcher earlier)
    have hs : s = { launcher := launcher' } := (afterCalls_snoc _ _ _).trans hafter
    rw [hs]
    exact ⟨rfl, rfl, rfl, rfl⟩

/-- A launcher whose first page cannot be opened and whose first browser cannot be closed. -/
example :
    let launcher : Launcher :=
      { page :=
          { Page.opened "" with
            interference := .striking fun op call =>
              (op == .newPage || op == .close) && call == 0 } }
    let s := afterCalls launcher [.ensure, .ensure, .teardown, .ensure]
    (s.browser, s.context, s.page) = (some 1, some 1, some 1) ∧ s.launcher.closeCalls = [0] ∧
      s.launcher.closed = 0 := by
  decide

end Session

end FlowPilot
