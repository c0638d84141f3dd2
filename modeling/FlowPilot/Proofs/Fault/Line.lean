import FlowPilot.Fault
import FlowPilot.Proofs.Text.Line

/-!
# Messages on one line

A message is put together from fixed words, numbers, quoted texts, and texts that are taken over as
they are. These come from flow files, pages and responses, and from libraries, which say in their
own words what they refuse. A message is on one line exactly if all of these texts are.

## Main definitions

* `Fault.verbatim`: the texts that a message takes over as they are, with one definition for each
  kind of cause.

## Main statements

* `Fault.isLine_userMessage`: the message for the operator is on one line exactly if all these texts
  are.
-/

namespace FlowPilot

open Text

/-! ### Causes -/

/-- The selectors of a locator. -/
def Locator.verbatim (l : Locator) : List String := l.parts.map (·.selector)

/-- The texts that the message of a step issue takes over as they are. -/
def StepIssue.verbatim : StepIssue → List String
  | noType flow _ => [flow]
  | unknownType flow _ kind => [flow, kind]
  | noField flow _ kind alternatives => flow :: kind :: alternatives
  | unknownFlow flow _ target => [flow, target]
  | limit violation => [violation.flow]

/-- The texts that the message of a configuration issue takes over as they are. -/
def ConfigIssue.verbatim : ConfigIssue → List String
  | emptySequence | noExpectation | notAnObject => []
  | limit violation => [violation.flow]
  | unsetVariable key => [key]
  | malformedStep kind detail => [kind, detail]
  | noSteps flow => [flow]
  | matchMode given | cellIndex given => [given]
  | urlPattern place detail => [place, detail]
  | malformedApply detail => [detail]
  | setting name => [name]
  | step issue => issue.verbatim
  | other text => [text]

/-- The texts that the message of a flow file fault takes over as they are. -/
def FlowFileFault.verbatim : FlowFileFault → List String
  | malformed detail => [detail]
  | other text => [text]
  | absent | notUtf8 | notAnObject => []

/-- The texts that the message of a page fault takes over as they are. -/
def PageFault.verbatim : PageFault → List String
  | noElement target => target.verbatim
  | noOption option => [option.key]
  | stateTimeout _ target _ => target.verbatim
  | urlTimeout _ url last => url :: last.toList
  | stillClosed selector _ => [selector]
  | outside words => [words]
  | other text => [text]
  | elementGone | offLayout | intercepted | noClickMethod | eventCancelled | pageClosed
  | endless => []

/-- The texts that the message of an absence takes over as they are. -/
def Absence.verbatim : Absence → List String
  | row step target | cell step target => [step, target]
  | cellIndex step _ _ => [step]
  | expectedText text | other text => [text]
  | category key => [key]

/-- The texts that the message of a missing precondition takes over as they are. -/
def Unready.verbatim : Unready → List String
  | other text => [text]
  | noPage | loginPending | noPlan | planEmpty | noCategory | nothingToCapture => []

/-- The texts that the message of a failed condition takes over as they are. -/
def Unmet.verbatim : Unmet → List String
  | url current pattern => [current, pattern]
  | selector target => target.verbatim
  | anyText _ => []
  | other text => [text]

/-- The texts that the message of a file fault takes over as they are. -/
def FileFault.verbatim : FileFault → List String
  | alreadyExists => []
  | other text => [text]

/-- The texts that a message takes over as they are. -/
def Fault.verbatim : Fault → List String
  | configMissing path reason => path :: reason.verbatim
  | configInvalid issues => issues.flatMap ConfigIssue.verbatim
  | invalidPlan detail => [detail]
  | missingField field => [field]
  | notFound what => what.verbatim
  | noTargetClickable context => [context]
  | assertionFailed unmet => unmet.flatMap Unmet.verbatim
  | unsupportedStep kind => [kind]
  | http _ body => [body]
  | transport detail => [detail]
  | fallbackExhausted primary fallback => primary.verbatim ++ fallback.verbatim
  | page operation fault => operation :: fault.verbatim
  | precondition missing => missing.verbatim
  | file fault => fault.verbatim
  | stepFailed step cause none => step :: cause.verbatim
  | stepFailed step cause (some e) => step :: cause.verbatim ++ [e.filePath, e.sha256]

@[simp]
theorem Locator.isLine_toText {l : Locator} : IsLine l.toText ↔ ∀ s ∈ l.verbatim, IsLine s := by
  have hpart (p : Locator.Part) : IsLine p.toText ↔ IsLine p.selector := by
    unfold Locator.Part.toText
    split <;> simp +decide
  have harrow : IsLine " >> " := by decide
  simp [toText, isLine_intercalate harrow, verbatim, hpart]

@[simp]
theorem Violation.isLine_message {v : Limits.Violation} : IsLine v.message ↔ IsLine v.flow := by
  unfold Limits.Violation.message
  split <;> simp +decide

@[simp]
theorem StepIssue.isLine_message {i : StepIssue} :
    IsLine i.message ↔ ∀ s ∈ i.verbatim, IsLine s := by
  have hbar : IsLine "|" := by decide
  unfold message
  cases i <;> simp +decide [verbatim, stepPlace, isLine_intercalate hbar, and_assoc]

@[simp]
theorem ConfigIssue.isLine_message {i : ConfigIssue} :
    IsLine i.message ↔ ∀ s ∈ i.verbatim, IsLine s := by
  unfold message
  cases i <;> simp +decide [verbatim]

@[simp]
theorem FlowFileFault.isLine_message {r : FlowFileFault} :
    IsLine r.message ↔ ∀ s ∈ r.verbatim, IsLine s := by
  unfold message
  cases r <;> simp +decide [verbatim]

@[simp]
theorem PageFault.isLine_message {p : PageFault} :
    IsLine p.message ↔ ∀ s ∈ p.verbatim, IsLine s := by
  unfold message
  cases p with
  | stateTimeout ms target state => cases state <;> simp +decide [verbatim, ElementState.title]
  | urlTimeout ms url last => cases last <;> simp +decide [verbatim]
  | noOption option =>
    cases option <;> simp +decide [verbatim, SelectOption.toText, SelectOption.key]
  | _ => simp +decide [verbatim]

@[simp]
theorem Absence.isLine_message {a : Absence} :
    IsLine a.message ↔ ∀ s ∈ a.verbatim, IsLine s := by
  unfold message
  cases a <;> simp +decide [verbatim]

@[simp]
theorem Unready.isLine_message {u : Unready} :
    IsLine u.message ↔ ∀ s ∈ u.verbatim, IsLine s := by
  unfold message
  cases u <;> simp +decide [verbatim]

@[simp]
theorem Unmet.isLine_message {u : Unmet} : IsLine u.message ↔ ∀ s ∈ u.verbatim, IsLine s := by
  unfold message
  cases u <;> simp +decide [verbatim]

@[simp]
theorem FileFault.isLine_message {f : FileFault} :
    IsLine f.message ↔ ∀ s ∈ f.verbatim, IsLine s := by
  unfold message
  cases f <;> simp +decide [verbatim]

/-! ### Faults -/

namespace Fault

theorem isLine_evidenceText {evidence : Option Evidence} :
    IsLine (evidenceText evidence) ↔
      ∀ e ∈ evidence, IsLine e.filePath ∧ IsLine e.sha256 := by
  unfold evidenceText
  cases evidence <;> simp +decide

/-- A message is on one line exactly if all texts are that it takes over as they are. -/
theorem isLine_message {f : Fault} : IsLine f.message ↔ ∀ s ∈ f.verbatim, IsLine s := by
  have hcomma : IsLine ", " := by decide
  have hsemicolon : IsLine "; " := by decide
  -- only a report and a fallback hold further faults
  induction f with
  | configInvalid issues =>
    rw [verbatim, List.forall_mem_flatMap]
    unfold message
    simp +decide [isLine_intercalate hcomma]
  | assertionFailed unmet =>
    rw [verbatim, List.forall_mem_flatMap]
    unfold message
    simp +decide [isLine_intercalate hsemicolon]
  | fallbackExhausted primary fallback ihPrimary ihFallback =>
    unfold message
    simp +decide [verbatim, ihPrimary, ihFallback, or_imp, forall_and]
  | stepFailed step cause evidence ih =>
    unfold message
    cases evidence <;>
      simp +decide [verbatim, isLine_evidenceText, ih, or_imp, forall_and, and_assoc]
  | _ =>
    unfold message
    simp +decide [verbatim]

theorem isLine_userMessage {f : Fault} : IsLine f.userMessage ↔ ∀ s ∈ f.verbatim, IsLine s := by
  simp +decide [userMessage, codeText, isLine_message]

end Fault

end FlowPilot
