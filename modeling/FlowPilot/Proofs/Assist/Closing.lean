import FlowPilot.Assist.Loop
import FlowPilot.Proofs.Desk.Browsers

/-!
# How an assisted session ends

The operator quits, the lines end, a line is no text, or a write fails. In between, the desk changes
by commands only. However the conversation ends, the end of the session at the desk comes after it.

## Main definitions

* `Assist.ByCommands`: a part of a session that changes the desk by commands only.

## Main statements

* `Assist.converse_byCommands`: a conversation changes the desk by commands only.
* `Assist.run_closes_browsers`: after an assisted session nothing is open, and each browser that was
  ever launched was told to close once.
-/

namespace FlowPilot.Assist

open Act

variable {α β : Type} {setup : Desk.Setup}

/-- A part of a session that changes the desk by commands only, whether it ends the session or
not. -/
def ByCommands (x : Talk α) : Prop := ∀ a : Assist, a.desk.Becomes (x.run a).2.desk

/-! ### Parts of a session -/

theorem ByCommands.of_same {x : Talk α} (h : ∀ a, (x.run a).2.desk = a.desk) : ByCommands x := by
  intro a
  rw [h]
  exact refl_of Desk.Becomes a.desk

theorem ByCommands.pure (a : α) : ByCommands (pure a : Talk α) := .of_same fun _ => rfl

theorem ByCommands.throw (f : Failure) : ByCommands (throw f : Talk α) := .of_same fun _ => rfl

/-- What follows is left out if the session ends. -/
theorem run_bind (x : Talk α) (f : α → Talk β) (a : Assist) :
    (x >>= f).run a =
      match x.run a with
      | (.ok b, a') => (f b).run a'
      | (.error e, a') => (.error e, a') := by
  show (ExceptT.bindCont f (x.run a).1 : StateM Assist _) (x.run a).2 = _
  rcases x.run a with ⟨_ | _, _⟩ <;> rfl

theorem ByCommands.bind {x : Talk α} {f : α → Talk β} (hx : ByCommands x)
    (hf : ∀ b, ByCommands (f b)) : ByCommands (x >>= f) := by
  intro a
  have hbefore := hx a
  rw [run_bind]
  generalize x.run a = r at hbefore ⊢
  rcases r with ⟨e | b, a'⟩
  · exact hbefore
  · exact trans_of Desk.Becomes hbefore (hf b a')

/-- A write fails or not, and the desk does not notice. -/
theorem write_byCommands (text : String) : ByCommands (write text) := by
  refine .of_same fun a => ?_
  show ((ite _ _ _ : Talk Unit).run _).2.desk = _
  split <;> rfl

theorem dropLine_byCommands (rest : List (Option String)) : ByCommands (dropLine rest) :=
  .of_same fun _ => rfl

theorem desk_atDesk (act : Act Desk α) (a : Assist) :
    ((atDesk act).run a).2.desk = act.after a.desk := rfl

theorem command_byCommands (c : Desk.Command) : ByCommands (atDesk (Desk.perform setup c)) := by
  intro a
  rw [desk_atDesk]
  exact (refl_of Desk.Becomes a.desk).command setup c

/-! ### The conversation -/

theorem answer_byCommands (line : String) : ByCommands (answer setup line) := by
  unfold answer
  cases Line.ofText line with
  | blank => exact .pure true
  | quit => exact .pure false
  | help => exact (write_byCommands help).bind fun _ => .pure true
  | command c =>
    exact (command_byCommands c).bind fun outcome =>
      (write_byCommands (outcomeText setup.stamp outcome)).bind fun _ => .pure true
  | unknown word => exact (write_byCommands _).bind fun _ => .pure true

/-- A conversation changes the desk by commands only, wherever it breaks off. -/
theorem converse_byCommands (lines : List (Option String)) : ByCommands (converse setup lines) := by
  induction lines with
  | nil => exact write_byCommands prompt
  | cons line rest ih =>
    refine (write_byCommands prompt).bind fun _ => (dropLine_byCommands rest).bind fun _ => ?_
    cases line with
    | none => exact .throw .unreadable
    | some text =>
      refine (answer_byCommands text).bind fun goesOn => ?_
      cases goesOn with
      | true => exact ih
      | false => exact .pure ()

/-! ### The end of the session -/

/-- What is said between the first word and the end of the session. -/
def talk (setup : Desk.Setup) (a : Assist) : Except Failure Unit × Assist :=
  (do write help; converse setup a.console.unread : Talk Unit).run a

/-- The desk after the conversation became of the desk before it. -/
theorem talk_becomes (setup : Desk.Setup) (a : Assist) :
    a.desk.Becomes (talk setup a).2.desk :=
  ((write_byCommands help).bind fun _ => converse_byCommands a.console.unread) a

/-- However the conversation ends, the session at the desk ends after it. -/
theorem desk_after_run (setup : Desk.Setup) (a : Assist) :
    (run setup a).2.desk = (Desk.perform setup .teardown).after (talk setup a).2.desk := by
  have hlines : (get : StateM Assist Assist) a = (a, a) := rfl
  unfold run
  simp only [bind_apply, hlines]
  rw [← talk, ← desk_atDesk]
  -- which of the two failures counts makes no difference to the desk
  generalize (atDesk (Desk.perform setup .teardown)).run (talk setup a).2 = closed
  rcases (talk setup a).1 with f | ⟨⟩
  · rfl
  · rcases closed with ⟨f | (f | reply), a'⟩ <;> rfl

theorem session_after_teardown (setup : Desk.Setup) (d : Desk) :
    ((Desk.perform setup .teardown).after d).session = Session.teardown.after d.session := by
  have hperform : Desk.perform setup .teardown =
      (Desk.onSession Session.teardown >>= fun _ => pure .nothing) := rfl
  rw [hperform, after_bind]
  split <;> rfl

/-- Whatever the operator types, whatever fails to be read or written, and whatever the launcher,
the page and the coordinator do: after an assisted session that begins at any desk that became of a
new one, nothing is open, nobody is logged in, and each browser that was ever launched was told to
close exactly once. -/
theorem run_closes_browsers {page : Page} {flowContent : Except FlowFileFault ByteArray}
    {storeBlocked : Bool} {d : Desk}
    (h : (Desk.new page flowContent storeBlocked).Becomes d) (setup : Desk.Setup)
    (console : Console) :
    let s := (run setup ⟨d, console⟩).2.desk.session
    (s.browser = none ∧ s.context = none ∧ s.page = none ∧ s.loggedIn = false) ∧
      ∀ n, s.launcher.closeCalls.count n = if n < s.launcher.browsers then 1 else 0 := by
  intro s
  have htalked := trans_of Desk.Becomes h (talk_becomes setup ⟨d, console⟩)
  have hclosed := (htalked.command setup .teardown).accounts
  rw [← desk_after_run] at hclosed
  obtain ⟨launcher, hafter, _⟩ := Session.after_teardown (talk setup ⟨d, console⟩).2.desk.session
  have hs : s = { launcher := launcher } := by
    show (run setup ⟨d, console⟩).2.desk.session = _
    rw [desk_after_run, session_after_teardown, hafter]
  have hnone : s.browser = none := by rw [hs]
  refine ⟨?_, fun n => ?_⟩
  · rw [hs]
    exact ⟨rfl, rfl, rfl, rfl⟩
  · have hcount := hclosed.count_closeCalls hnone n
    simpa using hcount

/-- A browser is left without a page because the first page could not be opened, the second line is
no text, and closing fails: the session ends badly, and the browser was told to close once. -/
theorem run_closes_browser_without_page :
    let page : Page :=
      { Page.opened "" with
        interference := .striking fun op call => op == .close || op == .newPage && call == 0 }
    let setup := Desk.smallSetup 4
    let d := (Desk.perform setup .openBrowser).after (Desk.new page (.error .absent) false)
    let console : Console := { unread := Console.linesOf [0x68, 0x65, 0x6C, 0x70, 0x0A, 0xFF] }
    let (outcome, a) := run setup ⟨d, console⟩
    (d.session.browser = some 0 ∧ d.session.page = none) ∧ outcome = .error .unreadable ∧
      a.desk.session.browser = none ∧ a.desk.session.launcher.closeCalls.count 0 = 1 := by
  intro page setup d console
  have hbecomes : (Desk.new page (.error .absent) false).Becomes d :=
    (refl_of Desk.Becomes _).command setup .openBrowser
  have hclosed := run_closes_browsers hbecomes setup console
  have hlaunched : (run setup ⟨d, console⟩).2.desk.session.launcher.browsers = 1 := by
    decide +kernel
  have honce := hclosed.2 0
  rw [hlaunched] at honce
  exact ⟨by decide +kernel, by decide +kernel, hclosed.1.1, honce⟩

end FlowPilot.Assist
