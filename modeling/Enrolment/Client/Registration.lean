import Enrolment.Client.Gate
/-!
Enrolment of an account.

The service is first asked to verify that the number belongs to the applicant; until it says so,
nothing is written. Then the identifiers that it returned are bound, keys are provisioned in both
namespaces, the own recipient is linked, the account's values are stored with the registered flag
last, and work is scheduled. An attempt that stops half-way is made good by a new one.
-/
namespace Enrolment.Client

open Activity Store

structure Application where
  number : PhoneNumber
  /-- A verification session that proved control of the number. -/
  sessionId : Option String
  /-- The other proof, for an account that was enrolled before. -/
  recoveryPassword : Option String
  registrationLock : Option String
  password : Option String
  pushToken : Option String
  /-- Made up if there is none and the account has none. -/
  profileKey : Option ProfileKey
  deriving DecidableEq, Inhabited

namespace Application

def new (number : PhoneNumber) : Application := ⟨number, none, none, none, none, none, none⟩

def establishesPin (a : Application) : Bool := a.registrationLock.isSome || a.recoveryPassword.isSome

end Application

inductive Step where
  | identityBinding
  | keyProvisioning
  | recipientLinking
  | localStateCommit
  | followUpScheduling
  deriving DecidableEq, Inhabited, Repr

def Step.name : Step → String
  | identityBinding => "identity_binding"
  | keyProvisioning => "key_provisioning"
  | recipientLinking => "recipient_linking"
  | localStateCommit => "local_state_commit"
  | followUpScheduling => "follow_up_scheduling"

inductive RegistrationError where
  /-- Neither proof was given. -/
  | unproven
  | preparation (cause : Fault)
  /-- Verification failed; nothing was written. -/
  | network (cause : Service.NetworkError)
  /-- A step after verification failed. -/
  | stopped (step : Step) (cause : Fault)
  deriving DecidableEq, Inhabited

namespace RegistrationError

def step? : RegistrationError → Option Step
  | stopped step _ => some step
  | _ => none

def unprovenReason : String := "either a verification session or a recovery password is required"

def message : RegistrationError → String
  | unproven => "invalid registration request: " ++ unprovenReason
  | preparation cause => "failed to prepare registration: " ++ cause.message
  | network cause => cause.message
  | stopped step cause => "registration stopped during " ++ step.name ++ ": " ++ cause.message

end RegistrationError

structure Provisioned where
  space : Namespace
  signedPreKeyId : PreKeyId
  lastResortPreKeyId : PreKeyId
  deriving DecidableEq, Inhabited

structure Enrolled where
  aci : Aci
  pni : Pni
  recipientId : RecipientId
  provisioned : List Provisioned
  reregistration : Bool
  /-- This attempt also passed the completion gate. -/
  completed : Bool
  deriving DecidableEq, Inhabited

namespace Provisioned

def toJson (p : Provisioned) : Json :=
  .obj [("kind", p.space.toJson), ("signed_pre_key_id", p.signedPreKeyId.toJson),
    ("kyber_pre_key_id", p.lastResortPreKeyId.toJson)]

end Provisioned

namespace Enrolled

def toJson (e : Enrolled) : Json :=
  .obj [("aci", e.aci.toJson), ("pni", e.pni.toJson), ("recipient_id", e.recipientId.toJson),
    ("provisioned", .list Provisioned.toJson e.provisioned), ("reregistration", .bool e.reregistration),
    ("completed", .bool e.completed)]

end Enrolled

structure Prepared where
  password : String
  aciRegistrationId : RegistrationId
  pniRegistrationId : RegistrationId
  profileKey : ProfileKey
  deriving DecidableEq, Inhabited

def orNew {α : Type} (there : Option α) (fresh : Activity Fault α) : Activity Fault α :=
  match there with
  | some a => pure a
  | none => fresh

def prepare (a : Application) : Activity Fault Prepared := do
  let password ← orNew a.password (keys .password)
  let aciRegistrationId ← orNew (← get? (Account.registrationId .aci)) (keys .registrationId)
  let pniRegistrationId ← orNew (← get? (Account.registrationId .pni)) (keys .registrationId)
  let stored ← get? Account.profileKey
  let profileKey ← orNew (a.profileKey.or stored) (keys .profileKey)
  return ⟨password, aciRegistrationId, pniRegistrationId, profileKey⟩

def verifyRequest (a : Application) (p : Prepared) : Service.VerifyRequest where
  number := a.number
  sessionId := a.sessionId
  recoveryPassword := a.recoveryPassword
  attributes :=
    { registrationId := p.aciRegistrationId
      pniRegistrationId := p.pniRegistrationId
      fetchesMessages := a.pushToken.isNone
      registrationLock := a.registrationLock
      discoverableByPhoneNumber := false }
  skipDeviceTransfer := true
  pushToken := a.pushToken

/-- Binds the identifiers and drops what belonged to the keys before: all sessions are archived, all
sender keys are forgotten, and no signed prekey counts as published. -/
def bindIdentity (aci : Aci) (pni : Pni) : Activity Fault Unit := do
  during .clearingRegistered (put Account.registered false)
  during .storingAci (put Account.aci aci)
  during .storingPni (put Account.pni pni)
  for space in Namespace.all do
    let _ ← during (.archivingSessions space) (store (.archiveSessions space))
    let _ ← updatePreKeys space fun ledger => { ledger with signedRegistered := false }
  let _ ← during .clearingSenderKeys (store .clearSenderKeys)

def identityKeys (space : Namespace) : Activity Fault IdentityKeys := do
  match ← store (.identityKeys space) with
  | some identity => return identity
  | none =>
    let identity ← during (.generatingIdentity space) (keys .identity)
    store (.putIdentityKeys space identity)
    return identity

/-- Enters two prekeys as those in use, with the counters past them. -/
def PreKeyLedger.use (signedId lastResortId : PreKeyId) (ledger : PreKeyLedger) : PreKeyLedger :=
  { ledger with activeSigned := some signedId, nextSigned := some signedId.next,
                activeLastResort := some lastResortId, nextLastResort := some lastResortId.next }

/-- Provisions a namespace with new prekeys and publishes them. The counters move on before
publication, so that no id is used twice; the ledger says that the prekey is published only after. -/
def provisionKeys (space : Namespace) (credentials : Service.Credentials) : Activity Fault Provisioned := do
  let identity ← identityKeys space
  let ledger ← preKeys space
  let signedId ← orNew ledger.nextSigned (keys .preKeyId)
  let lastResortId ← orNew ledger.nextLastResort (keys .preKeyId)
  let signed ← during (.generatingSigned space) (keys (.signedPreKey signedId identity))
  let lastResort ← during (.generatingLastResort space) (keys (.lastResortPreKey lastResortId identity))
  store (.putSignedPreKey space signed)
  store (.putLastResortPreKey space lastResort)
  let _ ← updatePreKeys space (PreKeyLedger.use signedId lastResortId)
  let upload : Service.PreKeyUpload :=
    .of identity.publicKey (.of signed.id signed.publicKey signed.signature)
      (.of lastResort.key.id lastResort.key.publicKey lastResort.key.signature)
  during (.uploading space) (mapError (.of <| .network ·) (service (.publish space upload credentials)))
  let _ ← updatePreKeys space fun ledger => { ledger with signedRegistered := true }
  return ⟨space, signedId, lastResortId⟩

def linkRecipient (aci : Aci) (pni : Pni) (number : PhoneNumber) (profileKey : ProfileKey) :
    Activity Fault RecipientId := do
  let id ← during .resolvingSelf (store (.selfRecipient aci pni number))
  store (.markRegistered id)
  store (.setProfileSharing id true)
  store (.setProfileKey id profileKey)
  put Account.profileKey profileKey
  return id

/-- Stores the account's values. The registered flag comes last, so that an attempt that stops
before it does not count as registered. -/
def commitLocalState (a : Application) (p : Prepared) : Activity Fault Unit := do
  put Account.number a.number
  setPushToken a.pushToken
  put Account.servicePassword p.password
  put (Account.registrationId .aci) p.aciRegistrationId
  put (Account.registrationId .pni) p.pniRegistrationId
  put Account.deviceId .primary
  during .markingRegistered (put Account.registered true)

def maintenanceJobs : List Job :=
  [.directoryRefresh, .rotateSenderCertificate, .scheduleSignedPreKeyRotation, .scheduleDirectoryRefresh]

/-- Schedules work, records the PIN if the application brought one, and evaluates the gate. Tells
whether the gate was passed. -/
def scheduleFollowUps (a : Application) : Activity Fault Bool := do
  call .clearBackoff
  for job in maintenanceJobs do
    call (.enqueue job.spec)
  if a.establishesPin then
    setPinEstablished
    match a.recoveryPassword with
    | some password => put Account.recoveryPassword password
    | none => pure ()
    put Account.registrationLock a.registrationLock.isSome
  evaluate

def provisionAll (credentials : Service.Credentials) : List Namespace → Activity Fault (List Provisioned)
  | [] => return []
  | space :: rest => do
    let provisioned ← provisionKeys space credentials
    return provisioned :: (← provisionAll credentials rest)

def register (a : Application) : Activity RegistrationError Enrolled := do
  if a.sessionId.isNone && a.recoveryPassword.isNone then throw .unproven
  let p ← mapError RegistrationError.preparation (prepare a)
  let verified ← mapError RegistrationError.network
    (service (.verify (verifyRequest a p) ⟨a.number.text, p.password⟩))
  mapError (RegistrationError.stopped .identityBinding) (bindIdentity verified.aci verified.pni)
  let username := verified.aci.uuid.toText ++ "." ++ Text.decimalText DeviceId.primary.value.toNat
  let provisioned ← mapError (RegistrationError.stopped .keyProvisioning)
    (provisionAll ⟨username, p.password⟩ Namespace.all)
  let recipientId ← mapError (RegistrationError.stopped .recipientLinking)
    (linkRecipient verified.aci verified.pni a.number p.profileKey)
  mapError (RegistrationError.stopped .localStateCommit) (commitLocalState a p)
  let completed ← mapError (RegistrationError.stopped .followUpScheduling) (scheduleFollowUps a)
  return ⟨verified.aci, verified.pni, recipientId, provisioned, verified.reregistration, completed⟩

end Enrolment.Client
