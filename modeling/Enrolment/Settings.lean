import Enrolment.Build
import Enrolment.Text.Blank
import Enrolment.Text.Utf8
import Enrolment.Toml.Reader
/-!
The settings of the client. Each comes from its environment variable if that holds an acceptable
value, else from the settings file if that is good as a whole, else from the defaults of the build.
-/
namespace Enrolment

structure Settings where
  serverUrl : String
  databaseUrl : String
  strictLockChecks : Bool
  groupLockTimeoutMs : UInt64
  httpTimeoutSecs : UInt64
  deriving DecidableEq, Inhabited

namespace Settings

/-- The order of locks is checked like an assertion unless a setting says otherwise. -/
def defaults (build : Build) : Settings :=
  ⟨"http://127.0.0.1:8443", "sqlite://./data/client.db", build.asserts, 5000, 30⟩

structure Layer where
  serverUrl : Option String
  databaseUrl : Option String
  strictLockChecks : Option Bool
  groupLockTimeoutMs : Option UInt64
  httpTimeoutSecs : Option UInt64
  deriving DecidableEq, Inhabited

def Layer.silent : Layer := ⟨none, none, none, none, none⟩

def overlay (s : Settings) (layer : Layer) : Settings :=
  ⟨layer.serverUrl.getD s.serverUrl, layer.databaseUrl.getD s.databaseUrl,
    layer.strictLockChecks.getD s.strictLockChecks, layer.groupLockTimeoutMs.getD s.groupLockTimeoutMs,
    layer.httpTimeoutSecs.getD s.httpTimeoutSecs⟩

/-! ## The settings file -/

def text? : Toml.Value → Option String
  | .text s => some s
  | _ => none

def boolean? : Toml.Value → Option Bool
  | .boolean b => some b
  | _ => none

def count? : Toml.Value → Option UInt64
  | .integer (.ofNat n) => if n < UInt64.size then some (UInt64.ofNat n) else none
  | _ => none

def optional? {α : Type} (entries : Toml.Entries) (read : Toml.Value → Option α) (key : String) :
    Option (Option α) :=
  match entries.get? key with
  | none => some none
  | some v => (read v).map some

/-- What a settings document says; none if any entry has the wrong type. Unknown entries are left alone. -/
def Layer.ofEntries? (entries : Toml.Entries) : Option Layer := do
  let serverUrl ← optional? entries text? "server_url"
  let databaseUrl ← optional? entries text? "database_url"
  let strictLockChecks ← optional? entries boolean? "strict_lock_checks"
  let groupLockTimeoutMs ← optional? entries count? "group_lock_timeout_ms"
  let httpTimeoutSecs ← optional? entries count? "http_timeout_secs"
  return ⟨serverUrl, databaseUrl, strictLockChecks, groupLockTimeoutMs, httpTimeoutSecs⟩

/-- What a settings file says. A file that is missing or not good as a whole says nothing. -/
def Layer.ofFile (file : Option Bytes) : Layer :=
  match file.bind Text.ofUtf8? |>.bind Toml.document? |>.bind Layer.ofEntries? with
  | some layer => layer
  | none => .silent

/-! ## The environment -/

def lowerAscii (s : List Char) : List Char := s.map Char.toLower

def flag? (raw : String) : Option Bool :=
  let word := String.ofList (lowerAscii (Text.trimChars raw.toList))
  if ["1", "true", "yes", "on"].contains word then some true
  else if ["0", "false", "no", "off"].contains word then some false
  else none

def counted? (raw : String) : Option UInt64 := (Text.unsigned? UInt64.size raw).map UInt64.ofNat

def variableNames : List String :=
  ["APP__SERVER_URL", "APP__DATABASE_URL", "APP__STRICT_LOCK_CHECKS", "APP__GROUP_LOCK_TIMEOUT_MS",
    "APP__HTTP_TIMEOUT_SECS"]

/-- What the environment says. A variable whose value is not acceptable says nothing. -/
def Layer.ofEnvironment (environment : String → Option String) : Layer :=
  ⟨environment "APP__SERVER_URL", environment "APP__DATABASE_URL",
    (environment "APP__STRICT_LOCK_CHECKS").bind flag?,
    (environment "APP__GROUP_LOCK_TIMEOUT_MS").bind counted?,
    (environment "APP__HTTP_TIMEOUT_SECS").bind counted?⟩

def load (file : Option Bytes) (environment : String → Option String) (build : Build := .development) : Settings :=
  ((defaults build).overlay (.ofFile file)).overlay (.ofEnvironment environment)

end Settings

end Enrolment
