import FlowPilot.Action.TableClick
import FlowPilot.Proofs.Page.Record
import FlowPilot.Proofs.Text.Blank

/-!
# Failures of a page

A page answers in a few ways when it cannot do what it is asked for: an operation fails, something
is not there, nothing accepts a click, or what is expected does not hold. None of them says anything
about the step that asked.

## Main definitions

* `Fault.IsFromPage`: failures with which a page answers.

## Main statements

* `Table.findRow_fromPage`, `Table.findCell_fromPage`: a search for a text that is not blank fails
  only in these ways.
-/

namespace FlowPilot

open Act
open Text (isBlankText)

/-- Failures with which a page answers. -/
def Fault.IsFromPage : Fault → Prop
  | page _ _ | notFound _ | noTargetClickable _ | assertionFailed _ => True
  | _ => False

open Fault (IsFromPage)

/-! ### Operations -/

namespace Page

variable {α : Type}

theorem refuse_fromPage (op : String) (fault : PageFault) :
    FailsOnly IsFromPage (refuse op fault : Act Page α) :=
  .throw trivial

theorem endless_fromPage (op : String) : FailsOnly IsFromPage (endless op : Act Page α) :=
  (FailsOnly.modify _).bind fun _ => refuse_fromPage _ _

theorem operation_fromPage (op : Operation) {body : Act Page α}
    (hbody : FailsOnly IsFromPage body) : FailsOnly IsFromPage (operation op body) := by
  intro p e h
  rw [result_operation] at h
  split at h
  · exact Except.error.inj h ▸ trivial
  · exact hbody _ e h

theorem demandNode_fromPage (name : String) (target : Locator) :
    FailsOnly IsFromPage (demandNode name target) := by
  refine FailsOnly.get.bind fun p => ?_
  cases p.dom.first? target with
  | some node => exact .pure node
  | none => exact refuse_fromPage _ _

theorem demandElement_fromPage (name : String) (target : Locator) :
    FailsOnly IsFromPage (demandElement name target) :=
  (demandNode_fromPage name target).bind fun _ => FailsOnly.get.bind fun _ => .pure _

theorem goto_fromPage (url : String) : FailsOnly IsFromPage (goto url) :=
  operation_fromPage _ (.modify _)

theorem count_fromPage (target : Locator) : FailsOnly IsFromPage (count target) :=
  operation_fromPage _ (FailsOnly.get.bind fun _ => .pure _)

theorem textContent_fromPage (target : Locator) : FailsOnly IsFromPage (textContent target) :=
  operation_fromPage _ <|
    (demandNode_fromPage _ _).bind fun _ => FailsOnly.get.bind fun _ => .pure _

theorem clickNode_fromPage (kind : ClickKind) (name : String) (fault : PageFault)
    (target : Locator) (node : Nat) :
    FailsOnly IsFromPage (clickNode kind name fault target node) :=
  FailsOnly.get.bind fun _ => (FailsOnly.set _).bind fun _ =>
    .ite (.pure _) (refuse_fromPage _ _)

theorem click_fromPage (target : Locator) (force : Bool) :
    FailsOnly IsFromPage (click target force) := by
  refine operation_fromPage _ ?_
  refine (demandNode_fromPage _ _).bind fun node => FailsOnly.get.bind fun p => ?_
  refine .ite (clickNode_fromPage _ _ _ _ _) ?_
  exact (FailsOnly.modify _).bind fun _ => refuse_fromPage _ _

theorem fill_fromPage (target : Locator) (text : String) :
    FailsOnly IsFromPage (fill target text) :=
  operation_fromPage _ <| (demandNode_fromPage _ _).bind fun _ =>
    (FailsOnly.modify _).bind fun _ => .modify _

theorem selectOption_fromPage (target : Locator) (option : SelectOption) :
    FailsOnly IsFromPage (selectOption target option) := by
  refine operation_fromPage _ ?_
  refine (demandElement_fromPage _ _).bind fun (node, e) => ?_
  dsimp only
  cases e.optionValue? option with
  | some value => exact (FailsOnly.modify _).bind fun _ => .modify _
  | none => exact refuse_fromPage _ _

theorem press_fromPage (target : Locator) (key : String) :
    FailsOnly IsFromPage (press target key) :=
  operation_fromPage _ <| (demandNode_fromPage _ _).bind fun _ => .modify _

theorem waitFor_fromPage (target : Locator) (state : ElementState) (timeout : Nat) :
    FailsOnly IsFromPage (waitFor target state timeout) :=
  (FailsOnly.lift _).bind fun _ => .ite (.pure _) (refuse_fromPage _ _)

end Page

/-! ### Clicks and searches -/

namespace Clicking

theorem clickWithFallback_fromPage (step : String) (candidates : List Locator)
    (fallbacks : List Fallback) :
    FailsOnly IsFromPage (clickWithFallback step candidates fallbacks) := by
  refine (FailsOnly.lift _).bind fun
    | some outcome => .pure outcome
    | none => (FailsOnly.lift _).bind fun
      | some outcome => .pure outcome
      | none => .throw trivial

/-- A click with looks at the address around it. -/
theorem noted_fromPage (asked : Bool) (step : String) (candidates : List Locator)
    (fallbacks : List Fallback) :
    FailsOnly IsFromPage (do
      let outcome ← clickWithFallback step candidates fallbacks
      Action.noteUrl asked
      return outcome) :=
  (clickWithFallback_fromPage step candidates fallbacks).bind fun _ =>
    (FailsOnly.lift _).bind fun _ => .pure _

end Clicking

namespace Table

theorem rows_fromPage (table : Locator) : FailsOnly IsFromPage (rows table) :=
  (Page.count_fromPage _).bind fun _ =>
    .ite (.pure _) ((Page.count_fromPage _).bind fun _ => .pure _)

/-- A text that is not blank has a normal form to look for, so that the search asks for no field. -/
theorem findRow_fromPage (table : Locator) {target : String} (step : String)
    (htarget : isBlankText target = false) :
    FailsOnly IsFromPage (findRow table target step) := by
  unfold findRow
  rw [if_neg (Text.normal_ne_empty htarget)]
  refine (rows_fromPage table).bind fun (rows, n) => ?_
  dsimp only
  refine (FailsOnly.mapM (fun _ => .lift _) _).bind fun texts => ?_
  cases texts.findIdx? (Text.contains · (Text.normal target)) with
  | some i => exact .pure _
  | none => exact .throw trivial

theorem findCell_fromPage (table : Locator) {target : String} (index : Nat) (mode : MatchMode)
    (step : String) (htarget : isBlankText target = false) :
    FailsOnly IsFromPage (findCell table target index mode step) := by
  unfold findCell
  rw [if_neg (Text.normal_ne_empty htarget)]
  refine (rows_fromPage table).bind fun (rows, n) => ?_
  dsimp only
  refine (FailsOnly.mapM (fun _ => .lift _) _).bind fun texts => ?_
  cases texts.findIdx? (·.any (mode.holds · (Text.normal target))) with
  | some i => exact .pure _
  | none => exact .throw trivial

end Table

end FlowPilot
