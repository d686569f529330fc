import Enrolment.CommandLine.Arguments
/-!
The help pages: how a command is used, and its options or commands in columns.
-/
namespace Enrolment.CommandLine

def programName : String := "tools"

def CommandName.about : CommandName → String
  | register => "Verify a number against the server and register this device"
  | lockProbe => "Hold the group lock on one thread and contend for it from another"
  | completion => "Evaluate the registration-complete decision for the given inputs"

def CommandName.usage : CommandName → String
  | register => programName ++ " register [OPTIONS] --number <NUMBER>"
  | c => programName ++ " " ++ c.name ++ " [OPTIONS]"

def aboutHelp : String := "Print this message or the help of the given subcommand(s)"

/-- Two columns: the second one starts two blanks behind the longest entry of the first. -/
def columns (indent : String) (rows : List (String × String)) : List String :=
  let width := rows.foldl (fun w row => max w row.1.length) 0
  rows.map fun row => indent ++ row.1 ++ String.ofList (List.replicate (width - row.1.length + 2) ' ') ++ row.2

def OptionKind.label (kind : OptionKind) : String :=
  let value := String.ofList (kind.name.toList.map fun c => if c = '-' then '_' else c.toUpper)
  "    --" ++ kind.name ++ (if kind.accepts.isSome then " <" ++ value ++ ">" else "")

def optionLines (kinds : List OptionKind) : List String :=
  "Options:" :: columns "  " (kinds.map (fun kind => (kind.label, kind.help)) ++ [("-h, --help", "Print help")])

def Page.lines : Page → List String
  | .program =>
    ["Usage: " ++ programName ++ " [OPTIONS] <COMMAND>", "", "Commands:"] ++
      columns "  " (CommandName.all.map (fun c => (c.name, c.about)) ++ [("help", aboutHelp)]) ++
      "" :: optionLines programOptions
  | .command c => [c.about, "", "Usage: " ++ c.usage, ""] ++ optionLines c.options
  | .help =>
    [aboutHelp, "", "Usage: " ++ programName ++ " help [COMMAND]...", "", "Arguments:"] ++
      columns "  " [("[COMMAND]...", "Print help for the subcommand(s)")]

end Enrolment.CommandLine
