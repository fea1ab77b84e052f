import TwoParty.CommandLine.Grammar

/-!
# TwoParty.CommandLine.Help

The help texts: what the program or a command does, how it is called, and a line
for each command and each switch.
-/

namespace TwoParty

namespace CommandLine

/-! ## Lines of two columns -/

/-- Two columns; the first one is as wide as its widest entry. -/
def columns (lines : List (String × String)) : String :=
  let width := (lines.map (·.1.length)).foldl max 0
  let blanks (n : Nat) := String.ofList (List.replicate n ' ')
  String.join (lines.map fun (left, right) =>
    "  " ++ left ++ blanks (width - left.length) ++ "  " ++ right ++ "\n")

/-- The name of a switch, and of its value. -/
def Switch.usage (s : Switch) : String :=
  match s.argument with
  | some a => "--" ++ s.long ++ " <" ++ a.placeholder ++ ">"
  | none => "--" ++ s.long

/-- The names of a switch in its line. -/
def Switch.heading (s : Switch) : String :=
  match s.short with
  | some c => "-" ++ String.singleton c ++ ", " ++ s.usage
  | none => "    " ++ s.usage

/-- Where the value of a switch may come from, and what it may be. -/
def Argument.remarks (environment : String → Option String) (a : Argument) : List String :=
  let ofSource := a.source.toList.map fun v =>
    "[env: " ++ v ++ "=" ++ (environment v).getD "" ++ "]"
  let ofPresence := match a.presence with
    | .standard value => ["[default: " ++ value ++ "]"]
    | _ => []
  let ofForm := match a.form with
    | .word choices => ["[possible values: " ++ String.intercalate ", " choices ++ "]"]
    | _ => []
  ofSource ++ ofPresence ++ ofForm

/-- The line of a switch. -/
def Switch.line (environment : String → Option String) (s : Switch) : String × String :=
  let remarks := match s.argument with
    | some a => a.remarks environment
    | none => []
  (s.heading, String.intercalate " " (s.about :: remarks))

/-- The switch that asks for help. -/
def helpSwitch : Switch := ⟨"help", some 'h', "Print help", none⟩

/-- The switch that asks for the version. -/
def versionSwitch : Switch := ⟨"version", some 'V', "Print version", none⟩

/-! ## Texts -/

/-- The switches in a usage line: the required ones by name, the others together. -/
def usageOf (switches : List Switch) : String :=
  let required := switches.filter fun s => s.presence = .required
  let others := if switches.any fun s => s.presence ≠ .required then [" [OPTIONS]"] else []
  String.join (others ++ required.map fun s => " " ++ s.usage)

/-- The help text of a command. -/
def Program.commandHelp (p : Program) (environment : String → Option String) (g : Grammar) :
    String :=
  g.about ++ "\n\nUsage: " ++ p.main.name ++ " " ++ g.name ++ usageOf g.switches
    ++ "\n\nOptions:\n"
    ++ columns ((g.switches ++ [helpSwitch]).map (·.line environment))

/-- What the command `help` does. -/
def helpAbout : String := "Print this message or the help of the given subcommand(s)"

/-- The help text of the program. -/
def Program.help (p : Program) (environment : String → Option String) : String :=
  p.main.about ++ "\n\nUsage: " ++ p.main.name ++ usageOf p.main.switches ++ " <COMMAND>"
    ++ "\n\nCommands:\n"
    ++ columns (p.commands.map (fun g => (g.name, g.about)) ++ [("help", helpAbout)])
    ++ "\nOptions:\n"
    ++ columns ((p.main.switches ++ [helpSwitch, versionSwitch]).map (·.line environment))

/-- The help text of the command `help`. -/
def Program.helpHelp (p : Program) : String :=
  helpAbout ++ "\n\nUsage: " ++ p.main.name ++ " help [COMMAND]...\n\nArguments:\n"
    ++ columns [("[COMMAND]...", "Print help for the subcommand(s)")]

/-- The answer to `help` and the words after it: the text about the program or about one
command. -/
def Program.helpAnswer (p : Program) (environment : String → Option String) :
    List String → Option String
  | [] => some (p.help environment)
  | ["help"] => some p.helpHelp
  | [name] => (p.commands.find? fun g => g.name = name).map (p.commandHelp environment)
  | _ => none

/-- The answer to a question for the version. -/
def Program.versionText (p : Program) : String := p.main.name ++ " " ++ p.version ++ "\n"

end CommandLine

end TwoParty
