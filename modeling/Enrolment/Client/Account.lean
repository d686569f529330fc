import Enrolment.Client.Effect
import Enrolment.Completion
import Enrolment.Text.Blank
/-!
What is read from and written to the account's values in more than one step, or with a rule on top.
-/
namespace Enrolment.Client

open Activity Store

/-- A name of nothing but blanks is no name. -/
def isProfileNameSet : Activity Fault Bool := do
  return (← get? Account.profileName).any fun name => !Text.allBlank name

def setPushToken : Option String → Activity Fault Unit
  | some token => put Account.pushToken token
  | none => remove Account.pushToken

def preKeys (space : Namespace) : Activity Fault PreKeyLedger := getOr (Account.preKeys space) .initial

def updatePreKeys (space : Namespace) (edit : PreKeyLedger → PreKeyLedger) : Activity Fault PreKeyLedger := do
  let ledger := edit (← preKeys space)
  put (Account.preKeys space) ledger
  return ledger

/-- Having a PIN and having declined one exclude each other. -/
def setPinEstablished : Activity Fault Unit := do
  put Account.pinSet true
  put Account.pinOptedOut false

def optOutOfPin : Activity Fault Unit := do
  put Account.pinOptedOut true
  put Account.pinSet false

def readCompletionInputs : Activity Fault CompletionInputs := do
  let registered ← getOr Account.registered false
  let profileNameSet ← isProfileNameSet
  let hasPin ← getOr Account.pinSet false
  let optedOut ← getOr Account.pinOptedOut false
  let alreadyComplete ← getOr Account.complete false
  return ⟨registered, profileNameSet, hasPin, optedOut, alreadyComplete⟩

end Enrolment.Client
