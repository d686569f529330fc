import Enrolment.Fault
import Enrolment.Lock.Reentrant
import Enrolment.Store.Operation
import Enrolment.Store.Table
/-!
A data store in memory. It keeps values and records as they are. Transactions on it are counted, so
that one can ask whether a thread is in one, but they undo nothing.
-/
namespace Enrolment.Store

structure Memory where
  values : Table String Json
  identities : Table Namespace IdentityKeys
  signed : Table (Namespace × PreKeyId) SignedPreKey
  lastResort : Table (Namespace × PreKeyId) LastResortPreKey
  sessions : Table (Namespace × PeerAddress) Session
  senderKeys : Table (PeerAddress × Uuid) Bytes
  /-- How many recipients were ever made, which is the last number given to one. -/
  recipientCount : Nat
  recipients : Table RecipientId Recipient
  groups : Table GroupId Group
  /-- The threads in a transaction, and how many scopes they have open, which are never 2^32 (see `Build`). -/
  transactions : Table Thread Nat
  deriving Inhabited

namespace Memory

def empty : Memory := ⟨[], [], [], [], [], [], 0, [], [], []⟩

def archive (space : Namespace) (sessions : Table (Namespace × PeerAddress) Session) :
    Table (Namespace × PeerAddress) Session :=
  sessions.map fun row => if row.1.1 = space then (row.1, row.2.archive) else row

def currentCount (space : Namespace) (sessions : Table (Namespace × PeerAddress) Session) : Nat :=
  (sessions.filter fun row => row.1.1 = space && row.2.hasCurrent).length

/-- The recipient with the account's identifier, else one with its phone number identifier, else one
with its number. -/
def findSelf? (recipients : Table RecipientId Recipient) (aci : Aci) (pni : Pni) (number : PhoneNumber) :
    Option RecipientId :=
  let first (test : Recipient → Bool) := (recipients.find? fun row => test row.2).map (·.1)
  (first (·.aci = some aci)).or <| (first (·.pni = some pni)).or <| first (·.number = some number)

def bindSelf (r : Recipient) (aci : Aci) (pni : Pni) (number : PhoneNumber) : Recipient :=
  { r with aci := some aci, pni := some pni, number := some number }

def selfRecipient (m : Memory) (aci : Aci) (pni : Pni) (number : PhoneNumber) : RecipientId × Memory :=
  match findSelf? m.recipients aci pni number with
  | some id => (id, { m with recipients := m.recipients.modify id (bindSelf · aci pni number) })
  | none =>
    let id : RecipientId := ⟨Int64.ofNat (m.recipientCount + 1)⟩
    (id, { m with recipientCount := m.recipientCount + 1,
                  recipients := m.recipients.put id (bindSelf (.new id) aci pni number) })

def updateRecipient (m : Memory) (id : RecipientId) (f : Recipient → Recipient) : Except Fault Unit × Memory :=
  match m.recipients.get? id with
  | some r => (.ok (), { m with recipients := m.recipients.put id (f r) })
  | none => (.error (.of (.missingRecipient id)), m)

def perform (m : Memory) : (op : Operation) → Except Fault op.Result × Memory
  | .read key => (.ok (m.values.get? key), m)
  | .write key value => (.ok (), { m with values := m.values.put key value })
  | .erase key => (.ok (), { m with values := m.values.erase key })
  | .identityKeys space => (.ok (m.identities.get? space), m)
  | .putIdentityKeys space keys => (.ok (), { m with identities := m.identities.put space keys })
  | .signedPreKey space id => (.ok (m.signed.get? (space, id)), m)
  | .putSignedPreKey space key => (.ok (), { m with signed := m.signed.put (space, key.id) key })
  | .lastResortPreKey space id => (.ok (m.lastResort.get? (space, id)), m)
  | .putLastResortPreKey space key =>
    (.ok (), { m with lastResort := m.lastResort.put (space, key.key.id) key })
  | .session space address => (.ok (m.sessions.get? (space, address)), m)
  | .pushSession space address state =>
    let session := (m.sessions.get? (space, address)).getD .empty
    (.ok (), { m with sessions := m.sessions.put (space, address) (session.push state) })
  | .archiveSessions space =>
    (.ok (currentCount space m.sessions), { m with sessions := archive space m.sessions })
  | .putSenderKey sender distribution record =>
    (.ok (), { m with senderKeys := m.senderKeys.put (sender, distribution) record })
  | .senderKeyCount => (.ok m.senderKeys.length, m)
  | .clearSenderKeys => (.ok m.senderKeys.length, { m with senderKeys := [] })
  | .selfRecipient aci pni number =>
    let (id, m) := m.selfRecipient aci pni number
    (.ok id, m)
  | .recipient id => (.ok (m.recipients.get? id), m)
  | .markRegistered id => m.updateRecipient id fun r => { r with registered := .registered }
  | .setProfileSharing id enabled => m.updateRecipient id fun r => { r with profileSharing := enabled }
  | .setProfileKey id key => m.updateRecipient id fun r => { r with profileKey := some key }
  | .group id => (.ok (m.groups.get? id), m)
  | .putGroup group => (.ok (), { m with groups := m.groups.put group.id group })

/-! ## Transactions -/

def inTransaction (m : Memory) (t : Thread) : Bool := (m.transactions.get? t).isSome

def openScope (m : Memory) (t : Thread) : Memory :=
  { m with transactions := m.transactions.put t ((m.transactions.get? t).getD 0 + 1) }

def closeScope (m : Memory) (t : Thread) : Memory :=
  match m.transactions.get? t with
  | some (depth + 2) => { m with transactions := m.transactions.put t (depth + 1) }
  | _ => { m with transactions := m.transactions.erase t }

end Memory
end Enrolment.Store
