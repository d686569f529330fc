import Enrolment.CommandLine.Ending
import Enrolment.Json.Indented
/-!
The command line program. It works in a fresh directory tree and without a network, so that what it
does ends with the run.
-/
namespace Enrolment.CommandLine

def readSettingsFile : IO (Option Bytes) := do
  try
    return some (← IO.FS.readBinFile "client.toml").toList
  catch _ => return none

def readEnvironment : IO (List (String × String)) :=
  Settings.variableNames.filterMapM fun name => do return (← IO.getEnv name).map (name, ·)

def Output.text : Output → String
  | .lines l => String.join (l.map (· ++ "\n"))
  | .enrolled e => e.toJson.renderIndented ++ "\n"

end Enrolment.CommandLine

open Enrolment CommandLine in
def main (arguments : List String) : IO UInt32 := do
  let found ← readEnvironment
  let random ← IO.getRandomBytes 1024
  let surroundings : Surroundings :=
    ⟨fun name => found.lookup name, ← readSettingsFile, .withFiles [], ⟨random.toList, .epoch⟩⟩
  let ending := run Service.unreachable () surroundings arguments
  IO.print ending.output.text
  match ending.error with
  | some message => IO.eprintln ("Error: " ++ message)
  | none => if ending.code = 2 then IO.eprintln (String.intercalate "\n" Page.program.lines)
  return UInt32.ofNat ending.code
