import FlowPilot.Cli.Arguments

/-!
# Help on the command line

## Main definitions

* `Cli.Topic.text`: the help on a topic.
-/

namespace FlowPilot.Cli

def programName : String := "sri-agent"

def about : String := "Assisted SRI portal agent"

def helpAbout : String := "Print this message or the help of the given subcommand(s)"

def Command.about : Command → String
  | checkToken => "Testa o token contra /api/agent/me"
  | plan => "Baixa e imprime o plan.json da importação"
  | validate => "Valida o arquivo de fluxo inteiro"
  | assist => "Sessão assistida: abre o navegador e executa ações sob comando"

/-- What an option that takes a value means, behind the name of its value. -/
def ValueOption.about : ValueOption → String × String
  | baseUrl => ("BASE_URL", "URL base do coordenador (ANEXO_BASE_URL)")
  | token => ("TOKEN", "Token do agente (AGENT_TOKEN)")
  | importId => ("IMPORTACION", "Importação alvo (IMPORTACION_ID)")
  | flowPath => ("FLOW_CONFIG", "Arquivo de fluxo (AGENT_FLOW_CONFIG)")

def ValueOption.row (option : ValueOption) : String × String :=
  ("    --" ++ option.name ++ " <" ++ option.about.1 ++ ">", option.about.2)

def Switch.about : Switch → String
  | verbose => "Logs em nível debug"
  | headless => "Navegador sem janela (AGENT_HEADLESS)"
  | help => "Print help"

def Switch.row (switch : Switch) : String × String :=
  let start := match switch.letter? with
    | some c => String.ofList ['-', c, ',', ' ']
    | none => "    "
  (start ++ "--" ++ switch.name, switch.about)

def table (title : String) (rows : List (String × String)) : String :=
  let width := rows.foldl (fun w row => max w row.1.length) 0
  title ++ ":\n" ++ "".intercalate (rows.map fun (left, right) =>
    let filler := String.ofList (List.replicate (width - left.length) ' ')
    "  " ++ left ++ filler ++ "  " ++ right ++ "\n")

def commandRows : List (String × String) :=
  Command.all.map (fun c => (c.name, c.about)) ++ [(helpWord, helpAbout)]

def optionRows (command : Option Command) : List (String × String) :=
  [ValueOption.baseUrl.row]
    ++ (if command = some .assist then [Switch.headless.row] else [])
    ++ [ValueOption.token.row, ValueOption.importId.row, ValueOption.flowPath.row,
        Switch.verbose.row, Switch.help.row]

def page (about usage : String) (tables : List String) : String :=
  about ++ "\n\nUsage: " ++ programName ++ " " ++ usage ++ "\n\n" ++ "\n".intercalate tables

def Topic.text : Topic → String
  | program =>
    page about "[OPTIONS] <COMMAND>"
      [table "Commands" commandRows, table "Options" (optionRows none)]
  | command c => page c.about (c.name ++ " [OPTIONS]") [table "Options" (optionRows (some c))]
  | help =>
    page helpAbout (helpWord ++ " [COMMAND]...")
      [table "Arguments" [("[COMMAND]...", "Print help for the subcommand(s)")]]

end FlowPilot.Cli
