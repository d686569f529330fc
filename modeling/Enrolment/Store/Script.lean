import Enrolment.Fault
import Enrolment.Plan
import Enrolment.Store.Operation
import Enrolment.Store.Tables
/-!
Operations of the data store as statements on the tables. Between two statements of a script other
threads may work on the same database; a single statement is never divided.
-/
namespace Enrolment.Store

/-- One statement. One that writes needs the database for itself until its transaction ends. -/
structure Statement where
  Answer : Type
  writes : Tables → Bool
  run : Tables → Answer × Tables

@[reducible] def statements : Interface.{1} := ⟨Statement, Statement.Answer⟩

abbrev Script := ExceptT Fault (Plan statements)

namespace Script

variable {α : Type}

def query (f : Tables → α) : Script α := ExceptT.lift (Plan.call (I := statements) ⟨α, fun _ => false, fun t => (f t, t)⟩)

def execute (f : Tables → α × Tables) : Script α := ExceptT.lift (Plan.call (I := statements) ⟨α, fun _ => true, f⟩)

def run (s : Script α) (t : Tables) : Except Fault α × Tables :=
  Plan.run (I := statements) (fun statement => statement.run) (ExceptT.run s) t

def runNoting (s : Script α) (t : Tables) : Except Fault α × (Tables × Bool) :=
  Plan.run (I := statements) (σ := Tables × Bool)
    (fun statement state => ((statement.run state.1).1, ((statement.run state.1).2, state.2 || statement.writes state.1)))
    (ExceptT.run s) (t, false)

/-- All of a script in one statement, or nothing where it fails. -/
def atomically (s : Script α) : Script α :=
  ExceptT.mk (Plan.call (I := statements)
    ⟨Except Fault α, fun t => (s.runNoting t).2.2,
      fun t =>
        match s.run t with
        | (.ok a, changed) => (.ok a, changed)
        | (.error e, _) => (.error e, t)⟩)

def orFault (f : Fault) : Option α → Script α
  | some a => pure a
  | none => throw f

def column (read : Cell → Option α) (cell : Cell) : Script α := orFault (.ofMedium .sql) (read cell)

/-! ## Values -/

def read (key : String) : Script (Option Json) := do
  match ← query (·.values.get? key) with
  | none => return none
  | some cell =>
    let text ← column Cell.text? cell
    return some (← orFault (.during (.ofMedium .json) (.readingValue key)) (Json.value? text))

def write (key : String) (value : Json) : Script Unit :=
  execute fun t => ((), { t with values := t.values.put key (.text value.render) })

def erase (key : String) : Script Unit := execute fun t => ((), { t with values := t.values.erase key })

/-! ## Keys -/

def identityKeys (space : Namespace) : Script (Option IdentityKeys) := query (·.identities.get? space)

def putIdentityKeys (space : Namespace) (keys : IdentityKeys) : Script Unit :=
  execute fun t => ((), { t with identities := t.identities.put space keys })

def signedPreKey (space : Namespace) (id : PreKeyId) : Script (Option SignedPreKey) := do
  match ← query (·.signed.get? (space, id)) with
  | none => return none
  | some row => return some (← orFault (.ofMedium .sql) (row.key? id))

def putSignedPreKey (space : Namespace) (key : SignedPreKey) : Script Unit :=
  execute fun t => ((), { t with signed := t.signed.put (space, key.id) (.of key) })

def lastResortPreKey (space : Namespace) (id : PreKeyId) : Script (Option LastResortPreKey) := do
  match ← query (·.lastResort.get? (space, id)) with
  | none => return none
  | some (row, flag) => return some ⟨← orFault (.ofMedium .sql) (row.key? id), flag⟩

def putLastResortPreKey (space : Namespace) (key : LastResortPreKey) : Script Unit :=
  execute fun t => ((), { t with lastResort := t.lastResort.put (space, key.key.id) (.of key.key, key.lastResort) })

/-! ## Sessions -/

def sessionOf (cell : Cell) : Script Session := do
  let text ← column Cell.text? cell
  orFault (.during (.ofMedium .json) .readingSession) ((Json.document? text).bind Session.ofJson?)

def session (space : Namespace) (address : PeerAddress) : Script (Option Session) := do
  match ← query (·.sessions.get? (space, addressText address)) with
  | none => return none
  | some cell => return some (← sessionOf cell)

def putSession (space : Namespace) (address : String) (session : Session) : Script Unit :=
  execute fun t => ((), { t with sessions := t.sessions.put (space, address) (.text (sessionText session)) })

def pushSession (space : Namespace) (address : PeerAddress) (state : Bytes) : Script Unit := do
  let before := (← session space address).getD .empty
  putSession space (addressText address) (before.push state)

def archiveRows (space : Namespace) : List (String × Cell) → Script Nat
  | [] => return 0
  | (address, cell) :: rest => do
    let session ← sessionOf cell
    if session.hasCurrent then
      putSession space address session.archive
      return (← archiveRows space rest) + 1
    else archiveRows space rest

def archiveSessions (space : Namespace) : Script Nat :=
  atomically do
    let rows ← query fun t => t.sessions.filterMap fun row =>
      if row.1.1 = space then some (row.1.2, row.2) else none
    archiveRows space rows

/-! ## Sender keys -/

def putSenderKey (sender : PeerAddress) (distribution : Uuid) (record : Bytes) : Script Unit :=
  execute fun t =>
    ((), { t with senderKeys := t.senderKeys.put (addressText sender, distribution.toText) record })

def senderKeyCount : Script Nat := query (·.senderKeys.length)

def clearSenderKeys : Script Nat := execute fun t => (t.senderKeys.length, { t with senderKeys := [] })

/-! ## Recipients -/

def recipientWhere (test : RecipientRow → Bool) : Script (Option RecipientId) :=
  query fun t => (t.recipients.find? fun row => test row.2).map (·.1)

/-- What was found before, or else a recipient that passes a test. -/
def orRecipientWhere (found : Option RecipientId) (test : RecipientRow → Bool) : Script (Option RecipientId) :=
  match found with
  | some id => pure (some id)
  | none => recipientWhere test

def selfRecipient (aci : Aci) (pni : Pni) (number : PhoneNumber) : Script RecipientId :=
  let aciText := aci.uuid.toText
  let pniText := pni.uuid.toText
  atomically do
    let found ← recipientWhere (·.aci = .text aciText)
    let found ← orRecipientWhere found (·.pni = .text pniText)
    let found ← orRecipientWhere found (·.number = .text number.text)
    match found with
    | some id =>
      execute fun t => (id, { t with recipients := t.recipients.modify id fun r =>
        { r with aci := .text aciText, pni := .text pniText, number := .text number.text } })
    | none =>
      execute fun t =>
        let id : RecipientId := ⟨Int64.ofNat (t.recipientSequence + 1)⟩
        (id, { t with recipientSequence := t.recipientSequence + 1,
                      recipients := t.recipients.put id (.new aciText pniText number.text) })

def uuidOf (name : String) (cell : Cell) : Script (Option Uuid) := do
  match ← column (Cell.optional? Cell.text?) cell with
  | none => return none
  | some text => return some (← orFault (.during (.ofMedium .uuid) (.readingUuid name)) (Uuid.ofText? text))

def numberOf (cell : Cell) : Script (Option PhoneNumber) := do
  match ← column (Cell.optional? Cell.text?) cell with
  | none => return none
  | some text =>
    match PhoneNumber.parse text with
    | .ok number => return some number
    | .error e => throw (.of (.badNumber e))

def profileKeyOf (id : RecipientId) (cell : Cell) : Script (Option ProfileKey) := do
  match ← column (Cell.optional? Cell.bytes?) cell with
  | none => return none
  | some bytes => return some (← orFault (.of (.profileKeyLength id)) (ProfileKey.ofBytes? bytes))

def recipient (id : RecipientId) : Script (Option Recipient) := do
  match ← query (·.recipients.get? id) with
  | none => return none
  | some row =>
    let number ← numberOf row.number
    let stateName ← column Cell.text? row.registered
    let profileKey ← profileKeyOf id row.profileKey
    let aci ← uuidOf "aci" row.aci
    let pni ← uuidOf "pni" row.pni
    let state ← orFault (.of (.unknownState stateName)) (RegisteredState.ofName? stateName)
    return some ⟨id, aci.map Aci.mk, pni.map Pni.mk, number, state, row.profileSharing, profileKey⟩

def updateRecipient (id : RecipientId) (f : RecipientRow → RecipientRow) : Script Unit := do
  let found ← execute fun t =>
    ((t.recipients.get? id).isSome, { t with recipients := t.recipients.modify id f })
  unless found do throw (.of (.missingRecipient id))

/-! ## Groups -/

def group (id : GroupId) : Script (Option Group) := do
  match ← query (·.groups.get? id) with
  | none => return none
  | some row =>
    let text ← column Cell.text? row.members
    let members ← orFault (.during (.ofMedium .json) .readingMembers)
      ((Json.document? text).bind Members.ofJson?)
    let revision := (← column Cell.integer? row.revision).toInt
    if 0 ≤ revision && revision < UInt32.size then return some ⟨id, UInt32.ofNat revision.toNat, members⟩
    else throw (.ofMedium .integer)

def putGroup (group : Group) : Script Unit :=
  execute fun t => ((), { t with groups := t.groups.put group.id (.of group) })

def ofOperation : (op : Operation) → Script op.Result
  | .read key => read key
  | .write key value => write key value
  | .erase key => erase key
  | .identityKeys space => identityKeys space
  | .putIdentityKeys space keys => putIdentityKeys space keys
  | .signedPreKey space id => signedPreKey space id
  | .putSignedPreKey space key => putSignedPreKey space key
  | .lastResortPreKey space id => lastResortPreKey space id
  | .putLastResortPreKey space key => putLastResortPreKey space key
  | .session space address => session space address
  | .pushSession space address state => pushSession space address state
  | .archiveSessions space => archiveSessions space
  | .putSenderKey sender distribution record => putSenderKey sender distribution record
  | .senderKeyCount => senderKeyCount
  | .clearSenderKeys => clearSenderKeys
  | .selfRecipient aci pni number => selfRecipient aci pni number
  | .recipient id => recipient id
  | .markRegistered id => updateRecipient id fun r => { r with registered := .text RegisteredState.registered.name }
  | .setProfileSharing id enabled => updateRecipient id fun r => { r with profileSharing := enabled }
  | .setProfileKey id key => updateRecipient id fun r => { r with profileKey := .blob key.bytes }
  | .group id => group id
  | .putGroup g => putGroup g

end Script
end Enrolment.Store
