import Enrolment.Record.Group
import Enrolment.Record.Key
import Enrolment.Record.Recipient
import Enrolment.Record.Session
/-!
What can be asked of a data store, and what it answers. Values lie under text keys; key records and
sessions belong to a namespace.
-/
namespace Enrolment.Store

inductive Operation where
  | read (key : String)
  | write (key : String) (value : Json)
  | erase (key : String)
  | identityKeys (space : Namespace)
  | putIdentityKeys (space : Namespace) (keys : IdentityKeys)
  | signedPreKey (space : Namespace) (id : PreKeyId)
  | putSignedPreKey (space : Namespace) (key : SignedPreKey)
  | lastResortPreKey (space : Namespace) (id : PreKeyId)
  | putLastResortPreKey (space : Namespace) (key : LastResortPreKey)
  | session (space : Namespace) (address : PeerAddress)
  /-- Makes a state the current one of a session, behind which the one before it is kept. -/
  | pushSession (space : Namespace) (address : PeerAddress) (state : Bytes)
  /-- Archives every session of a namespace and counts those that had a current state. -/
  | archiveSessions (space : Namespace)
  | putSenderKey (sender : PeerAddress) (distribution : Uuid) (record : Bytes)
  | senderKeyCount
  | clearSenderKeys
  /-- Finds or makes the recipient that is the account itself, and binds it to all three. -/
  | selfRecipient (aci : Aci) (pni : Pni) (number : PhoneNumber)
  | recipient (id : RecipientId)
  | markRegistered (id : RecipientId)
  | setProfileSharing (id : RecipientId) (enabled : Bool)
  | setProfileKey (id : RecipientId) (key : ProfileKey)
  | group (id : GroupId)
  | putGroup (group : Group)
  deriving Inhabited

@[reducible] def Operation.Result : Operation → Type
  | read _ => Option Json
  | identityKeys _ => Option IdentityKeys
  | signedPreKey _ _ => Option SignedPreKey
  | lastResortPreKey _ _ => Option LastResortPreKey
  | session _ _ => Option Session
  | archiveSessions _ | senderKeyCount | clearSenderKeys => Nat
  | selfRecipient _ _ _ => RecipientId
  | recipient _ => Option Recipient
  | group _ => Option Group
  | write _ _ | erase _ | putIdentityKeys _ _ | putSignedPreKey _ _ | putLastResortPreKey _ _
  | pushSession _ _ _ | putSenderKey _ _ _ | markRegistered _ | setProfileSharing _ _ | setProfileKey _ _
  | putGroup _ => Unit

end Enrolment.Store
