import FlowPilot.Coordinator.Client
import FlowPilot.Proofs.Assist.Closing
import FlowPilot.Proofs.Desk.Confirmation
import FlowPilot.Proofs.Fault.Line

/-!
# One line for a failure

A command that fails is answered by one text. It is meant to be one line, and it is, unless the
failure takes over a text with a line break, from a flow file, a page, a response or a library.

## Main statements

* `Response.isLine_refused`: a refusal is on one line unless its body is a text with a line break.
* `Assist.answer_isLine_iff`: when the answer to a failing command is one line.
-/

namespace FlowPilot

open Text

/-- A body that is read as a value is shown in its compact form. -/
theorem Response.isLine_refused {r : Response} {f : Fault} (h : r.result = .error f) :
    IsLine f.userMessage ↔ ∀ s, r.data = .text s → IsLine s := by
  unfold Response.result at h
  split at h
  · cases h
  · obtain rfl := Except.error.inj h
    rw [Fault.isLine_userMessage, Fault.verbatim, List.forall_mem_singleton]
    cases r.data with
    | text s => simp
    | _ => simpa using Json.isLine_compact _

namespace Assist

variable {setup : Desk.Setup} {line : String} {c : Desk.Command} {a : Assist} {f : Fault}

theorem run_write (text : String) (hopen : a.console.jams a.console.writes = false) :
    (write text).run a =
      (.ok (), { a with console := { a.console with
        writes := a.console.writes + 1, written := a.console.written ++ [text] } }) := by
  show (ite _ _ _ : Talk Unit).run _ = _
  rw [hopen]
  rfl

/-- A command that fails is answered by one text. -/
theorem answer_of_failure (hline : Line.ofText line = .command c)
    (hfail : (Desk.perform setup c).result a.desk = .error f)
    (hopen : a.console.jams a.console.writes = false) :
    (answer setup line).run a =
      (.ok true, ⟨(Desk.perform setup c).after a.desk, { a.console with
        writes := a.console.writes + 1
        written := a.console.written ++ ["❌ " ++ f.userMessage ++ "\n"] }⟩) := by
  have hdesk : (atDesk (Desk.perform setup c)).run a =
      (.ok ((Desk.perform setup c).result a.desk),
        { a with desk := (Desk.perform setup c).after a.desk }) := rfl
  have hwrite := run_write (a := ⟨(Desk.perform setup c).after a.desk, a.console⟩)
    (outcomeText setup.stamp (.error f)) hopen
  unfold answer
  rw [hline]
  dsimp only
  rw [run_bind, hdesk, hfail]
  dsimp only
  rw [run_bind, hwrite]
  rfl

/-- The answer to a command that fails is one line exactly if the failure takes over no text with a
line break. -/
theorem answer_isLine_iff (hline : Line.ofText line = .command c)
    (hfail : (Desk.perform setup c).result a.desk = .error f)
    (hopen : a.console.jams a.console.writes = false) :
    ∃ text, ((answer setup line).run a).2.console.written = a.console.written ++ [text ++ "\n"] ∧
      text = "❌ " ++ f.userMessage ∧ (IsLine text ↔ ∀ s ∈ f.verbatim, IsLine s) ∧
      ∀ r : Response, r.result = .error f → (IsLine text ↔ ∀ s, r.data = .text s → IsLine s) := by
  have htext : IsLine ("❌ " ++ f.userMessage) ↔ IsLine f.userMessage := by simp +decide
  refine ⟨"❌ " ++ f.userMessage, ?_, rfl, ?_, fun r hr => ?_⟩
  · rw [answer_of_failure hline hfail hopen]
  · rw [htext, Fault.isLine_userMessage]
  · rw [htext, Response.isLine_refused hr]

/-- A coordinator that refuses everything with one response. -/
def refusingSetup (r : Response) : Desk.Setup :=
  { Desk.smallSetup 9 with
    coordinator := (Client.mk "http://localhost" "token").coordinator .brief (fun _ => .ok r)
      toString }

theorem loadPlan_refused {r : Response} (h : r.result = .error f) (d : Desk) :
    (Desk.perform (refusingSetup r) .loadPlan).result d = .error f := by
  have hplan (n : Nat) : (refusingSetup r).coordinator.plan n (refusingSetup r).importId =
      .error f := by
    show (Client.mk "http://localhost" "token").fetchPlan .brief (fun _ => .ok r) "42" = _
    have hraw : (Client.mk "http://localhost" "token").fetchRawPlan (fun _ => .ok r) "42" =
        .error f := h
    unfold Client.fetchPlan
    rw [hraw]
    rfl
  unfold Desk.perform Desk.body Desk.loadPlan
  simp [Act.result_bind, hplan]

/-- A line break in a value is escaped. -/
theorem answer_isLine_refused :
    let r : Response := ⟨403, some "application/json", "\x7b\"e\": \"a\\nb\"\x7d"⟩
    let a : Assist := ⟨Desk.smallDesk, { unread := [] }⟩
    ((answer (refusingSetup r) "plan").run a).2.console.written =
        ["❌ [E2001] HTTP 403: \x7b\"e\":\"a\\nb\"\x7d\n"] ∧
      IsLine "❌ [E2001] HTTP 403: \x7b\"e\":\"a\\nb\"\x7d" := by
  intro r a
  have hrefused : r.result.map (fun _ => ()) = .error (.http 403 "\x7b\"e\":\"a\\nb\"\x7d") := by
    decide +kernel
  -- Values have no decidable equality, so the answer was compared without one.
  have hresult : r.result = .error (.http 403 "\x7b\"e\":\"a\\nb\"\x7d") := by
    cases hr : r.result with
    | error f =>
      rw [hr] at hrefused
      exact congrArg Except.error (Except.error.inj hrefused)
    | ok j =>
      rw [hr] at hrefused
      cases hrefused
  have hplan : Line.ofText "plan" = .command .loadPlan := by decide
  have htext : "❌ " ++ (Fault.http 403 "\x7b\"e\":\"a\\nb\"\x7d").userMessage =
      "❌ [E2001] HTTP 403: \x7b\"e\":\"a\\nb\"\x7d" := by decide
  obtain ⟨_, hwritten, rfl, hline, -⟩ :=
    answer_isLine_iff hplan (loadPlan_refused hresult a.desk) rfl
  rw [htext] at hwritten hline
  exact ⟨hwritten, hline.mpr (by decide)⟩

/-- A desk with a flow of a single step, ready to run it. -/
def stepDesk (step : String) : Desk :=
  let desk : Desk :=
    { session := { launcher := { page := Page.opened "" } }
      flowContent := .ok ("\x7b\"f\":\x7b\"steps\":[" ++ step ++ "]\x7d\x7d").toUTF8
      storeBlocked := true }
  [Desk.Command.openBrowser, .markLogin, .loadPlan].foldl
    (fun d c => (Desk.perform (Desk.smallSetup 9) c).after d) desk

/-- A library that shows a pattern on a line of its own when it refuses it. -/
def pointing : Wording :=
  { Wording.brief with
    pattern := fun text =>
      "regex parse error:\n    " ++ text ++ "\n    ^\nerror: unclosed group" }

/-- The failure names the type of a step as it is, and is written on two lines. It quotes a library
as it is as well, and is written on as many lines as the library says what it refuses. -/
theorem answer_over_two_lines :
    let answered (host : Host) (step : String) :=
      ((answer { Desk.smallSetup 9 with host := host } "run f").run
        ⟨stepDesk step, { unread := [] }⟩).2.console.written
    let unsupported := "❌ [E4005] step=f error=Config requerida: f[0]: type 'a\nb' não suportado"
    let malformed := "❌ [E4005] step=f error=Config requerida: waitForURL pattern inválido: " ++
      "regex parse error:\n    (\n    ^\nerror: unclosed group"
    answered .brief "\x7b\"type\":\"a\\nb\"\x7d" = [unsupported ++ "\n"] ∧ ¬IsLine unsupported ∧
      answered ⟨pointing, 8⟩ "\x7b\"pattern\":\"(\",\"type\":\"waitForURL\"\x7d" =
        [malformed ++ "\n"] ∧ ¬IsLine malformed := by
  decide +kernel

end Assist

end FlowPilot
