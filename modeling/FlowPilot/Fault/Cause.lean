import FlowPilot.Limits
import FlowPilot.Page.Locator
import FlowPilot.Page.Vocabulary
import FlowPilot.Text.Quoted

/-!
# Causes of failure

What can go wrong, by the part of the work that finds it, and how each cause is put into words.

## Main definitions

* `StepIssue`, `ConfigIssue`: what is wrong with a flow file or a step.
* `PageFault`: why a page operation failed.
* `Absence`: what was looked for in vain.
* `Unready`: why an action cannot start.
* `Unmet`: a condition of a page that does not hold.
-/

namespace FlowPilot

/-- What is wrong with a step template. -/
inductive StepIssue
  | noType (flow : String) (index : Nat)
  | unknownType (flow : String) (index : Nat) (kind : String)
  | noField (flow : String) (index : Nat) (kind : String) (alternatives : List String)
  | unknownFlow (flow : String) (index : Nat) (target : String)
  | limit (violation : Limits.Violation)
  deriving DecidableEq, Repr

/-- A step of a sequence as it is named in messages. -/
def stepPlace (flow : String) (index : Nat) : String := flow ++ "[" ++ toString index ++ "]"

def StepIssue.message : StepIssue → String
  | noType flow index => stepPlace flow index ++ ": step sem type"
  | unknownType flow index kind =>
    stepPlace flow index ++ ": type '" ++ kind ++ "' não suportado"
  | noField flow index kind alternatives =>
    stepPlace flow index ++ ": step " ++ kind ++ " sem " ++ "|".intercalate alternatives
  | unknownFlow flow index target =>
    stepPlace flow index ++ ": runAction para fluxo inexistente '" ++ target ++ "'"
  | limit violation => violation.message

/-- What is wrong with a configuration, or with a step at run time. -/
inductive ConfigIssue
  | emptySequence
  | limit (violation : Limits.Violation)
  | unsetVariable (key : String)
  | malformedStep (kind detail : String)
  | noSteps (flow : String)
  | matchMode (given : String)
  | urlPattern (place detail : String)
  | noExpectation
  | cellIndex (given : String)
  | malformedApply (detail : String)
  | notAnObject
  | setting (name : String)
  | step (issue : StepIssue)
  | other (text : String)
  deriving DecidableEq, Repr

def ConfigIssue.message : ConfigIssue → String
  | emptySequence => "steps vacios"
  | limit violation => violation.message
  | unsetVariable key => "variável ausente: " ++ key
  | malformedStep kind detail => "step " ++ kind ++ ": " ++ detail
  | noSteps flow => flow ++ ".steps"
  | matchMode given => "match inválido: " ++ given
  | urlPattern place detail => place ++ " inválido: " ++ detail
  | noExpectation => "assertOnPage requiere urlPattern, selector o anyText"
  | cellIndex given => "clickTableCellLink cellIndex inválido: " ++ given
  | malformedApply detail => "apply: " ++ detail
  | notAnObject => "config missing"
  | setting name => name
  | step issue => issue.message
  | other text => text

/-- Why a flow file cannot be used. -/
inductive FlowFileFault
  | absent
  | notUtf8
  | malformed (detail : String)
  | notAnObject
  | other (text : String)
  deriving DecidableEq, Repr

def FlowFileFault.message : FlowFileFault → String
  | absent => "No such file or directory (os error 2)"
  | notUtf8 => "stream did not contain valid UTF-8"
  | malformed detail => detail
  | notAnObject => "raiz não é objeto"
  | other text => text

/-- Why a page operation failed. -/
inductive PageFault
  | noElement (target : Locator)
  | elementGone
  | offLayout
  | intercepted
  | noClickMethod
  | eventCancelled
  | noOption (option : SelectOption)
  | pageClosed
  /-- from outside, in words that are not the program's -/
  | outside (words : String)
  | stateTimeout (ms : Nat) (target : Locator) (state : ElementState)
  | urlTimeout (ms : Nat) (url : String) (last : Option String)
  | stillClosed (selector : String) (ms : Nat)
  /-- stands in for the result of a wait that never ends -/
  | endless
  | other (text : String)
  deriving DecidableEq, Repr

def PageFault.message : PageFault → String
  | noElement target => "nenhum elemento para " ++ target.toText
  | elementGone => "elemento desanexado"
  | offLayout => "elemento fora do layout"
  | intercepted => "elemento interceptado"
  | noClickMethod => "el.click não disponível"
  | eventCancelled => "evento cancelado"
  | noOption option => "opção não encontrada: " ++ option.toText
  | pageClosed => "página fechada"
  | outside words => words
  | stateTimeout ms target state =>
    "timeout " ++ toString ms ++ "ms esperando " ++ target.toText ++ " ficar " ++ state.title
  | urlTimeout ms url last =>
    "timeout " ++ toString ms ++ "ms, url atual " ++ url
      ++ (match last with
        | some text => " (" ++ text ++ ")"
        | none => "")
  | stillClosed selector ms => selector ++ " seguía cerrado tras " ++ toString ms ++ "ms"
  | endless => "sem fim"
  | other text => text

/-- What was looked for in vain. -/
inductive Absence
  | row (step target : String)
  | cell (step target : String)
  | cellIndex (step : String) (index count : Nat)
  | expectedText (text : String)
  | category (key : String)
  | other (text : String)
  deriving DecidableEq, Repr

def Absence.message : Absence → String
  | row step target => step ++ " rowText not found: \"" ++ target ++ "\""
  | cell step target => step ++ " cellText not found: \"" ++ target ++ "\""
  | cellIndex step index count =>
    step ++ ": cellIndex " ++ toString index ++ " fuera de rango (0-" ++ toString (count - 1) ++ ")"
  | expectedText text => "Texto esperado no encontrado: " ++ text
  | category key => "Sin mapeo para categoria: " ++ key
  | other text => text

/-- Why an action cannot start. -/
inductive Unready
  | noPage
  | loginPending
  | noPlan
  | planEmpty
  | noCategory
  | nothingToCapture
  | other (text : String)
  deriving DecidableEq, Repr

def Unready.message : Unready → String
  | noPage => "Browser page is not ready. Open the browser first."
  | loginPending => "Login pendiente. Marca 'Ya inicie sesion (continuar)'."
  | noPlan => "Plan no cargado."
  | planEmpty => "Plan sin acciones disponibles."
  | noCategory => "Categoria objetivo no disponible en el plan."
  | nothingToCapture => "No active page to capture screenshot."
  | other text => text

/-- A condition of a page that does not hold. -/
inductive Unmet
  | url (current pattern : String)
  | selector (target : Locator)
  | anyText (texts : List String)
  | other (text : String)
  deriving DecidableEq, Repr

def Unmet.message : Unmet → String
  | url current pattern => "url \"" ++ current ++ "\" no casa /" ++ pattern ++ "/"
  | selector target => "selector " ++ target.toText ++ " no visible"
  | anyText texts => "ningún texto presente: " ++ Text.quotedList texts
  | other text => text

/-- Why a local file could not be written. -/
inductive FileFault
  | alreadyExists
  | other (text : String)
  deriving DecidableEq, Repr

def FileFault.message : FileFault → String
  | alreadyExists => "File exists (os error 17)"
  | other text => text

end FlowPilot
