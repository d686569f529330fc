import Enrolment.Identity
import Enrolment.PhoneNumber
import Enrolment.Service.NetworkError
/-!
What goes wrong below the surface of an operation: a cause, and what was being done when it struck,
outermost first.

A cause that lies outside this library, in a file or in a foreign format, has no words of its own
here. It is shown as a tag, which ends the text.
-/
namespace Enrolment

/-- The formats and media whose errors are shown as tags. -/
inductive Medium where
  | json
  | sql
  | integer
  | uuid
  | file
  deriving DecidableEq, Inhabited

def Medium.tag : Medium → String
  | json => "<json>"
  | sql => "<sql>"
  | integer => "<int>"
  | uuid => "<uuid>"
  | file => "<io>"

inductive Cause where
  | medium (m : Medium)
  | badNumber (e : InvalidPhoneNumber)
  | missingRecipient (id : RecipientId)
  | profileKeyLength (id : RecipientId)
  | unknownState (name : String)
  /-- An inner scope of the transaction had given it up. -/
  | rolledBack
  | keyLength
  | keySource (message : String)
  | network (e : Service.NetworkError)
  deriving DecidableEq, Inhabited

inductive DatabaseRefusal where
  | readOnly
  | cannotOpen
  deriving DecidableEq, Inhabited

def DatabaseRefusal.message : DatabaseRefusal → String
  | readOnly => "(code: 8) attempt to write a readonly database"
  | cannotOpen => "(code: 14) unable to open database file"

inductive Doing where
  | decodingValue (key : String)
  | readingValue (key : String)
  | readingSession
  | readingMembers
  | readingUuid (column : String)
  | openingAccount
  | openingDatabase (url : String)
  | readingDatabaseUrl (url : String)
  | makingTables (refusal : DatabaseRefusal)
  | openingTransaction
  | makingDirectory (path url : String)
  | readingPrivateKey
  | clearingRegistered
  | storingAci
  | storingPni
  | archivingSessions (space : Namespace)
  | clearingSenderKeys
  | generatingIdentity (space : Namespace)
  | generatingSigned (space : Namespace)
  | generatingLastResort (space : Namespace)
  | uploading (space : Namespace)
  | resolvingSelf
  | markingRegistered
  deriving DecidableEq, Inhabited

structure Fault where
  doing : List Doing
  cause : Cause
  deriving DecidableEq, Inhabited

namespace Doing

def message : Doing → String
  | decodingValue key => "malformed value stored under '" ++ key ++ "'"
  | readingValue key => "malformed json under '" ++ key ++ "'"
  | readingSession => "malformed session record"
  | readingMembers => "malformed group members"
  | readingUuid column => "malformed uuid in '" ++ column ++ "'"
  | openingAccount => "failed to open the account database"
  | openingDatabase url => "failed to open database '" ++ url ++ "'"
  | readingDatabaseUrl url => "invalid database url '" ++ url ++ "'"
  | makingTables refusal => "while executing migrations: error returned from database: " ++ refusal.message
  | openingTransaction => "failed to begin transaction"
  | makingDirectory path url =>
    "failed to create parent directory '" ++ path ++ "' for database url '" ++ url ++ "'"
  | readingPrivateKey => "identity private key must be 32 bytes"
  | clearingRegistered => "clearing registered flag"
  | storingAci => "storing aci"
  | storingPni => "storing pni"
  | archivingSessions space => "archiving " ++ space.name ++ " sessions"
  | clearingSenderKeys => "clearing sender keys"
  | generatingIdentity space => "generating " ++ space.name ++ " identity key"
  | generatingSigned space => "generating " ++ space.name ++ " signed prekey"
  | generatingLastResort space => "generating " ++ space.name ++ " last-resort prekey"
  | uploading space => "uploading " ++ space.name ++ " prekeys"
  | resolvingSelf => "resolving self recipient"
  | markingRegistered => "marking account registered"

end Doing

namespace Cause

def messages : Cause → List String
  | medium m => [m.tag]
  | badNumber e => [e.message]
  | missingRecipient id => ["recipient " ++ Text.integerText id.value.toInt ++ " does not exist"]
  | profileKeyLength id =>
    ["profile key for recipient " ++ Text.integerText id.value.toInt ++ " is not 32 bytes"]
  | unknownState name => ["unknown registered state '" ++ name ++ "'"]
  | rolledBack => ["transaction was rolled back by an inner scope"]
  | keyLength => ["could not convert slice to array"]
  | keySource message => [message]
  | network (.rejected path status failure) =>
    [Service.NetworkError.message (.rejected path status failure), failure.toText]
  | network (.transport path _) => ["request to " ++ path ++ " failed: <http>"]
  | network (.invalidUrl _) => ["invalid server url: <url>"]
  | network .deprecated => [Service.NetworkError.deprecated.message]

def isForeign : Cause → Bool
  | medium _ | network (.transport _ _) | network (.invalidUrl _) => true
  | _ => false

end Cause

namespace Fault

def of (cause : Cause) : Fault := ⟨[], cause⟩

def ofMedium (m : Medium) : Fault := ⟨[], .medium m⟩

def during (f : Fault) (doing : Doing) : Fault := ⟨doing :: f.doing, f.cause⟩

def message (f : Fault) : String :=
  String.intercalate ": " (f.doing.map Doing.message ++ f.cause.messages)

end Fault

def whileDoing {α : Type} (doing : Doing) (result : Except Fault α) : Except Fault α :=
  result.mapError (·.during doing)

end Enrolment
