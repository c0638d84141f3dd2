import FlowPilot.Fault.Cause

/-!
# Faults

Every way in which the agent fails, with a code for the operator and one message.

## Main definitions

* `Fault`: the failures, built from their causes.
* `Fault.message`: a failure in words.
* `Fault.code`, `Fault.Category`: the four-digit code and its first digit.
* `Fault.root`: the failure under the reports that wrap it.
* `Fault.userMessage`: code and message on one line.
-/

namespace FlowPilot

/-- A screenshot that was stored when something failed. -/
structure Evidence where
  filePath : String
  /-- its digest in base sixteen -/
  sha256 : String
  /-- its size in bytes -/
  size : Nat
  deriving DecidableEq, Repr

/-- The failures of the agent. -/
inductive Fault
  | configMissing (path : String) (reason : FlowFileFault)
  | configInvalid (issues : List ConfigIssue)
  | invalidPlan (detail : String)
  | missingField (field : String)
  | notFound (what : Absence)
  | noTargetClickable (context : String)
  | assertionFailed (unmet : List Unmet)
  | unsupportedStep (kind : String)
  | http (status : Nat) (body : String)
  | transport (detail : String)
  | fallbackExhausted (primary fallback : Fault)
  | page (operation : String) (fault : PageFault)
  | precondition (missing : Unready)
  | file (fault : FileFault)
  | stepFailed (step : String) (cause : Fault) (evidence : Option Evidence)
  deriving DecidableEq, Repr

namespace Fault

def config (issue : ConfigIssue) : Fault := configInvalid [issue]

/-- The part of a report that points to the evidence. -/
def evidenceText : Option Evidence → String
  | none => ""
  | some e =>
    " | evidence_path=" ++ e.filePath ++ " | sha256=" ++ e.sha256 ++ " | size=" ++ toString e.size

def message : Fault → String
  | configMissing path reason => "Config requerida (" ++ path ++ "): " ++ reason.message
  | configInvalid issues =>
    "Config requerida: " ++ ", ".intercalate (issues.map ConfigIssue.message)
  | invalidPlan detail => "plan.json inválido: " ++ detail
  | missingField field => "Campo obrigatório ausente: " ++ field
  | notFound what => what.message
  | noTargetClickable context => "Nenhum alvo clicável: " ++ context
  | assertionFailed unmet =>
    "Assertion falhou: " ++ "; ".intercalate (unmet.map Unmet.message)
  | unsupportedStep kind => "Tipo de step não suportado: " ++ kind
  | http status body => "HTTP " ++ toString status ++ ": " ++ body
  | transport detail => "Falha de conexão com o coordenador: " ++ detail
  | fallbackExhausted primary fallback =>
    "trySteps falhou: steps: " ++ primary.message ++ " | fallbackSteps: " ++ fallback.message
  | page operation fault => operation ++ " falhou: " ++ fault.message
  | precondition missing => missing.message
  | file fault => "I/O: " ++ fault.message
  | stepFailed step cause evidence =>
    "step=" ++ step ++ " error=" ++ cause.message ++ evidenceText evidence

/-- The code of a failure; its first digit is the category. -/
def code : Fault → Nat
  | configMissing .. => 1001
  | configInvalid .. => 1002
  | invalidPlan .. => 1003
  | http .. => 2001
  | transport .. => 2002
  | assertionFailed .. => 3001
  | notFound .. => 3002
  | missingField .. => 4001
  | unsupportedStep .. => 4002
  | noTargetClickable .. => 4003
  | precondition .. => 4004
  | stepFailed .. => 4005
  | fallbackExhausted .. => 4006
  | page .. => 5001
  | file .. => 5002

/-- The part of the work that a failure belongs to. -/
inductive Category
  | configuration
  | coordinator
  | page
  | execution
  | internal
  deriving DecidableEq, Repr

def Category.title : Category → String
  | configuration => "Configuração"
  | coordinator => "Coordenador"
  | page => "Página"
  | execution => "Execução"
  | internal => "Interno"

/-- The category of a failure, read off the first digit of its code. -/
def category (f : Fault) : Category :=
  match f.code / 1000 with
  | 1 => .configuration
  | 2 => .coordinator
  | 3 => .page
  | 4 => .execution
  | _ => .internal

def codeText (f : Fault) : String := "E" ++ toString f.code

/-- The failure under the reports that wrap it. -/
def root : Fault → Fault
  | stepFailed _ cause _ => cause.root
  | f => f

/-- What the operator sees. -/
def userMessage (f : Fault) : String := "[" ++ f.codeText ++ "] " ++ f.message

end Fault

end FlowPilot
