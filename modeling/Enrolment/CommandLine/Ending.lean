import Enrolment.Client.Installation
import Enrolment.Client.Membership
import Enrolment.Client.Registration
import Enrolment.CommandLine.Help
import Enrolment.Crypto.FreshKeys
import Enrolment.Service.Http
import Enrolment.Store.Opening
/-!
Carrying out what the command line asks for: a client is set up on its database and its service, works
for the one command, and tells what came of it.
-/
namespace Enrolment.CommandLine

open Client Lock Store

structure Surroundings where
  environment : String → Option String
  settingsFile : Option Bytes
  files : FileTree
  entropy : Crypto.Entropy

inductive Output where
  | lines (l : List String)
  | enrolled (e : Enrolled)
  deriving DecidableEq, Inhabited

structure Ending where
  code : Nat
  output : Output
  /-- The first line of what went wrong. -/
  error : Option String
  files : FileTree
  deriving DecidableEq, Inhabited

namespace Ending

def success (output : Output) (files : FileTree) : Ending := ⟨0, output, none, files⟩

def failure (message : String) (files : FileTree) : Ending :=
  ⟨1, .lines [], some (String.ofList (message.toList.takeWhile (· ≠ '\n'))), files⟩

def misuse (files : FileTree) : Ending := ⟨2, .lines [], none, files⟩

end Ending

variable {κ σ ε : Type}

def headline (f : Fault) : String := (f.doing.map Doing.message ++ f.cause.messages).headD ""

/-- A client on the service and the database that the settings name, and what became of the files. -/
def connect (exchange : Service.Exchange ε) (network : ε) (settings : Settings) (files : FileTree)
    (entropy : Crypto.Entropy) :
    Except String (Installation Crypto.Entropy (Service.HttpClient ε)) × FileTree :=
  match Service.HttpClient.new settings.serverUrl network with
  | .error e => (.error e.message, files)
  | .ok service =>
    let (opened, files) := openDatabase files settings.databaseUrl
    let client := (whileDoing .openingAccount opened).map fun opened =>
      .new (.database opened.database) settings.strictLockChecks settings.groupLockTimeoutMs.toNat
        Crypto.freshKeys entropy (Service.HttpClient.service exchange) service
    (client.mapError headline, files)

def worker : Thread := ⟨0, none⟩

def holder : Thread := ⟨1, some "probe-holder"⟩

def holdGroups (c : Installation κ σ) (span : Nat) : Installation κ σ :=
  let (_, yard) := Installation.awaitGroups
    (c.yard.askGroup holder (c.store.inTransaction holder) c.yard.groupLock.timeout none) holder
  { c with yard := { yard with alarms := yard.alarms ++ [⟨yard.now + span, holder⟩] } }

def probe (c : Installation κ σ) (span : Nat) : String :=
  match ((holdGroups c span).run worker (changeMembership ⟨1⟩ (.add [default]))).1 with
  | .ok group => "acquired after holder released; revision=" ++ Text.decimalText group.revision.toNat
  | .error e => "busy (retryable=" ++ (if e.isRetryable then "true" else "false") ++ "): " ++ e.message

def carryOut (exchange : Service.Exchange ε) (network : ε) (s : Surroundings) (settings : Settings) :
    Command → Ending
  | .register number sessionId recoveryPassword registrationLock pushToken =>
    match PhoneNumber.parse number with
    | .error e => .failure e.message s.files
    | .ok number =>
      match connect exchange network settings s.files s.entropy with
      | (.error message, files) => .failure message files
      | (.ok client, files) =>
        let application := { Application.new number with
          sessionId, recoveryPassword, registrationLock, pushToken }
        match (client.run worker (register application)).1 with
        | .ok enrolled => .success (.enrolled enrolled) files
        | .error e => .failure e.message files
  | .lockProbe holdMs timeoutMs =>
    let settings := { settings with groupLockTimeoutMs := timeoutMs.getD settings.groupLockTimeoutMs }
    match connect exchange network settings s.files s.entropy with
    | (.error message, files) => .failure message files
    | (.ok client, files) => .success (.lines [probe client holdMs.toNat]) files
  | .completion inputs =>
    .success (.lines ["should_mark_complete=" ++ (if inputs.shouldComplete then "true" else "false")]) s.files

def run (exchange : Service.Exchange ε) (network : ε) (s : Surroundings) (arguments : List String)
    (build : Build := .development) : Ending :=
  match demand arguments with
  | .misused => .misuse s.files
  | .help page => .success (.lines page.lines) s.files
  | .command serverUrl command =>
    let settings := Settings.load s.settingsFile s.environment build
    carryOut exchange network s { settings with serverUrl := serverUrl.getD settings.serverUrl } command

end Enrolment.CommandLine
