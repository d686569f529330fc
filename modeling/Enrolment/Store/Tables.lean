import Enrolment.Record.Group
import Enrolment.Record.Key
import Enrolment.Record.Recipient
import Enrolment.Record.Session
import Enrolment.Json.Printer
import Enrolment.Store.Cell
import Enrolment.Store.Table
/-!
The tables of the account database. Rows hold text, bytes and numbers: values, sessions, members of
groups and addresses are written as JSON, identifiers in their usual text form, and times as text.
Columns that may have been written by others are cells, in which anything can stand.
-/
namespace Enrolment.Store

structure SignedRow where
  publicKey : Bytes
  privateKey : Bytes
  signature : Bytes
  createdAt : String
  deriving DecidableEq, Inhabited

structure RecipientRow where
  aci : Cell
  pni : Cell
  number : Cell
  registered : Cell
  profileSharing : Bool
  profileKey : Cell
  deriving DecidableEq, Inhabited

structure GroupRow where
  revision : Cell
  members : Cell
  deriving DecidableEq, Inhabited

structure Tables where
  values : Table String Cell
  identities : Table Namespace IdentityKeys
  signed : Table (Namespace × PreKeyId) SignedRow
  lastResort : Table (Namespace × PreKeyId) (SignedRow × Bool)
  sessions : Table (Namespace × String) Cell
  senderKeys : Table (String × String) Bytes
  /-- The last number given to a recipient. -/
  recipientSequence : Nat
  recipients : Table RecipientId RecipientRow
  groups : Table GroupId GroupRow
  deriving DecidableEq, Inhabited

def Tables.empty : Tables := ⟨[], [], [], [], [], [], 0, [], []⟩

/-! ## Columns -/

def addressText (a : PeerAddress) : String := a.toJson.render

def sessionText (s : Session) : String := s.toJson.render

def membersText (m : Members) : String := m.toJson.render

def SignedRow.of (k : SignedPreKey) : SignedRow := ⟨k.publicKey, k.privateKey, k.signature, k.createdAt.toText⟩

def SignedRow.key? (id : PreKeyId) (r : SignedRow) : Option SignedPreKey :=
  (Timestamp.ofText? r.createdAt).map fun createdAt => ⟨id, r.publicKey, r.privateKey, r.signature, createdAt⟩

def GroupRow.of (g : Group) : GroupRow := ⟨.integer g.revision.toUInt64.toInt64, .text (membersText g.members)⟩

def RecipientRow.new (aci pni number : String) : RecipientRow :=
  ⟨.text aci, .text pni, .text number, .text RegisteredState.unknown.name, false, .null⟩

end Enrolment.Store
