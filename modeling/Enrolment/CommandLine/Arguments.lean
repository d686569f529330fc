import Enrolment.Completion
import Enrolment.Settings
/-!
What the words on the command line ask for.

Options come in any order, each once at most. An option with a value takes it after an equals sign or
from the next word, which must not look like an option. Two dashes end the options.
-/
namespace Enrolment.CommandLine

structure OptionKind where
  name : String
  accepts : Option (String → Bool)
  help : String

namespace OptionKind

def text (name help : String) : OptionKind := ⟨name, some fun _ => true, help⟩

def count (name help : String) : OptionKind := ⟨name, some fun v => (Settings.counted? v).isSome, help⟩

def flag (name : String) : OptionKind := ⟨name, none, ""⟩

end OptionKind

inductive CommandName where
  | register
  | lockProbe
  | completion
  deriving DecidableEq, Inhabited

namespace CommandName

def all : List CommandName := [.register, .lockProbe, .completion]

def name : CommandName → String
  | register => "register"
  | lockProbe => "lock-probe"
  | completion => "completion"

def ofName? (word : String) : Option CommandName := all.find? (·.name = word)

def options : CommandName → List OptionKind
  | register => [.text "number" "", .text "session-id" "", .text "recovery-password" "",
      .text "registration-lock" "", .text "push-token" ""]
  | lockProbe => [.count "hold-ms" "[default: 6000]", .count "timeout-ms" ""]
  | completion => [.flag "registered", .flag "profile-name-set", .flag "has-pin", .flag "opted-out",
      .flag "already-complete"]

end CommandName

def programOptions : List OptionKind :=
  [.text "server-url" "Overrides \x60server_url\x60 from client.toml / APP__SERVER_URL"]

inductive Command where
  | register (number : String) (sessionId recoveryPassword registrationLock pushToken : Option String)
  | lockProbe (holdMs : UInt64) (timeoutMs : Option UInt64)
  | completion (inputs : CompletionInputs)
  deriving DecidableEq, Inhabited

inductive Page where
  | program
  | command (c : CommandName)
  | help
  deriving DecidableEq, Inhabited

inductive Demand where
  | command (serverUrl : Option String) (c : Command)
  | help (page : Page)
  | misused
  deriving DecidableEq, Inhabited

/-! ## Words -/

inductive Word where
  | plain (text : String)
  | option (name : String) (value : Option String)
  | letters (text : List Char)
  | separator
  deriving DecidableEq, Inhabited

def Word.of (text : String) : Word :=
  match text.toList with
  | ['-', '-'] => .separator
  | '-' :: '-' :: s =>
    let name := s.takeWhile (· ≠ '=')
    .option (String.ofList name)
      (if name.length = s.length then none else some (String.ofList (s.drop (name.length + 1))))
  | ['-'] => .plain text
  | '-' :: s => .letters s
  | _ => .plain text

def Word.isValue (text : String) : Bool :=
  match Word.of text with
  | .plain _ => true
  | _ => false

abbrev Given := List (String × String)

inductive Scan where
  | ended (given : Given)
  /-- A word that belongs to no option, and those after it. -/
  | word (given : Given) (text : String) (rest : List String)
  | help
  | misused
  deriving DecidableEq, Inhabited

def scan (kinds : List OptionKind) (given : Given) : List String → Scan
  | [] => .ended given
  | word :: rest =>
    match Word.of word with
    | .plain text => .word given text rest
    | .separator => if rest.isEmpty then .ended given else .misused
    | .letters s => if s.head? = some 'h' then .help else .misused
    | .option name value =>
      if name = "help" then if value.isNone then .help else .misused
      else if (given.lookup name).isSome then .misused
      else
        match kinds.find? (·.name = name) with
        | none => .misused
        | some kind =>
          match kind.accepts, value with
          | none, none => scan kinds (given ++ [(name, "")]) rest
          | none, some _ => .misused
          | some accepts, some v => if accepts v then scan kinds (given ++ [(name, v)]) rest else .misused
          | some accepts, none =>
            match rest with
            | [] => .misused
            | v :: rest =>
              if Word.isValue v && accepts v then scan kinds (given ++ [(name, v)]) rest else .misused

/-! ## Commands -/

def defaultHold : UInt64 := 6000

def command? (given : Given) : CommandName → Option Command
  | .register =>
    (given.lookup "number").map fun number =>
      .register number (given.lookup "session-id") (given.lookup "recovery-password")
        (given.lookup "registration-lock") (given.lookup "push-token")
  | .lockProbe =>
    let count (name : String) := (given.lookup name).bind Settings.counted?
    some (.lockProbe ((count "hold-ms").getD defaultHold) (count "timeout-ms"))
  | .completion =>
    let flag (name : String) := (given.lookup name).isSome
    some (.completion ⟨flag "registered", flag "profile-name-set", flag "has-pin", flag "opted-out",
      flag "already-complete"⟩)

def helpOn : List String → Demand
  | [] => .help .program
  | [word] =>
    if word = "help" then .help .help
    else
      match CommandName.ofName? word with
      | some c => .help (.command c)
      | none => .misused
  | _ => .misused

def demand (arguments : List String) : Demand :=
  match scan programOptions [] arguments with
  | .help => .help .program
  | .ended _ => .misused
  | .misused => .misused
  | .word given word rest =>
    if word = "help" then helpOn rest
    else
      match CommandName.ofName? word with
      | none => .misused
      | some c =>
        match scan c.options [] rest with
        | .help => .help (.command c)
        | .ended options =>
          match command? options c with
          | some command => .command (given.lookup "server-url") command
          | none => .misused
        | _ => .misused

end Enrolment.CommandLine
