import Enrolment.Client.Registration
import Enrolment.Proofs.Client.Ensures
import Enrolment.Proofs.Store.Slot
/-!
How far the parts of an enrolment reach: which values each of them reads and writes, and which other
calls it makes, whatever it is answered.
-/
namespace Enrolment.Client

open Store Activity

/-- Calls that read some values, write some, and do certain other things. -/
inductive Within (reads writes : List String) (other : Effect → Prop) : Effect → Prop
  | read {key : String} : key ∈ reads → Within reads writes other (.store (.read key))
  | write {key : String} {value : Json} : key ∈ writes → value.isPlain = true →
    Within reads writes other (.store (.write key value))
  | erase {key : String} : key ∈ writes → Within reads writes other (.store (.erase key))
  | other {e : Effect} : other e → Within reads writes other e

section

variable {reads writes : List String} {other : Effect → Prop} {ε α : Type}

theorem Calls.widen {reads' writes' : List String} {other' : Effect → Prop} {a : Activity ε α}
    (calls : Calls (Within reads writes other) a) (moreReads : reads ⊆ reads') (moreWrites : writes ⊆ writes')
    (more : ∀ e, other e → other' e) : Calls (Within reads' writes' other') a := by
  apply calls.mono
  intro e within
  cases within with
  | read member => exact .read (moreReads member)
  | write member plain => exact .write (moreWrites member) plain
  | erase member => exact .erase (moreWrites member)
  | other is => exact .other (more _ is)

variable {slot : Slot α}

theorem within_get? (member : slot.key ∈ reads) : Calls (Within reads writes other) (get? slot) :=
  calls_get? (.read member)

theorem within_getOr {default : α} (member : slot.key ∈ reads) :
    Calls (Within reads writes other) (getOr slot default) :=
  calls_getOr (.read member)

theorem within_put [slot.Lawful] {a : α} (member : slot.key ∈ writes) :
    Calls (Within reads writes other) (put slot a) :=
  calls_put (.write member (slot.isPlain_encode a))

theorem within_remove (member : slot.key ∈ writes) : Calls (Within reads writes other) (remove slot) :=
  calls_remove (.erase member)

theorem within_store {op : Operation} (is : other (.store op)) : Calls (Within reads writes other) (store op) :=
  calls_store (.other is)

theorem within_keys {request : KeyRequest} (is : other (.keys request)) :
    Calls (Within reads writes other) (keys request) :=
  calls_keys (.other is)

theorem within_call {e : Effect} (is : other e) : Calls (Within reads writes other) (call (ε := ε) e) :=
  calls_call (.other is)

end

theorem calls_orNew {kind : Effect → Prop} {α : Type} {there : Option α} {made : Activity Fault α}
    (calls : Calls kind made) : Calls kind (orNew there made) := by
  cases there with
  | some a => exact calls_pure a
  | none => exact calls

/-! ## The parts of an enrolment -/

def AsksKeys : Effect → Prop
  | .keys request => request ≠ .preKeyId
  | _ => False

def preparedKeys : List String :=
  [(Account.registrationId .aci).key, (Account.registrationId .pni).key, Account.profileKey.key]

theorem reach_prepare (a : Application) : Calls (Within preparedKeys [] AsksKeys) (prepare a) := by
  refine Calls.bind (calls_orNew (within_keys KeyRequest.noConfusion)) ?_
  intro password
  apply Calls.bind (within_get? (by simp [preparedKeys]))
  intro stored
  refine Calls.bind (calls_orNew (within_keys KeyRequest.noConfusion)) ?_
  intro aciRegistrationId
  apply Calls.bind (within_get? (by simp [preparedKeys]))
  intro stored
  refine Calls.bind (calls_orNew (within_keys KeyRequest.noConfusion)) ?_
  intro pniRegistrationId
  apply Calls.bind (within_get? (by simp [preparedKeys]))
  intro stored
  exact Calls.bind (calls_orNew (within_keys KeyRequest.noConfusion)) fun profileKey => calls_pure _

def gateReads : List String :=
  [Account.registered.key, Account.profileName.key, Account.pinSet.key, Account.pinOptedOut.key, Account.complete.key,
    Account.discoverability.key]

def AsksQueue : Effect → Prop
  | .enqueue _ | .enqueueChain _ | .clearBackoff | .enterGate | .leaveGate => True
  | _ => False

theorem reach_readCompletionInputs : Calls (Within gateReads [] fun _ => False) readCompletionInputs := by
  apply Calls.bind (within_getOr (by decide))
  intro registered
  apply Calls.bind (Calls.bind (within_get? (by decide)) fun _ => calls_pure _)
  intro profileNameSet
  apply Calls.bind (within_getOr (by decide))
  intro hasPin
  apply Calls.bind (within_getOr (by decide))
  intro optedOut
  exact Calls.bind (within_getOr (by decide)) fun alreadyComplete => calls_pure _

private theorem reach_evaluateGuarded :
    Calls (Within gateReads [Account.complete.key, Account.discoverability.key] AsksQueue) evaluateGuarded := by
  have inputs : Calls (Within gateReads [Account.complete.key, Account.discoverability.key] AsksQueue)
      readCompletionInputs :=
    Calls.widen reach_readCompletionInputs (List.Subset.refl _) (List.nil_subset _) fun _ => False.elim
  apply Calls.bind inputs
  intro inputs
  by_cases complete : inputs.shouldComplete = true
  · rw [if_pos complete]
    apply Calls.bind (within_put (by decide))
    intro _
    apply Calls.bind (within_getOr (by decide))
    intro decided
    by_cases undecided : decided = .undecided
    · rw [if_pos undecided]
      apply Calls.bind (within_put (by decide))
      intro _
      exact Calls.bind (within_call trivial) fun _ => calls_pure _
    · rw [if_neg undecided]
      exact Calls.bind (within_call trivial) fun _ => calls_pure _
  · rw [if_neg complete]
    exact calls_pure _

theorem reach_evaluate :
    Calls (Within gateReads [Account.complete.key, Account.discoverability.key] AsksQueue) evaluate := by
  apply Plan.Calls.bind (Plan.calls_call (.other trivial))
  intro _
  apply Plan.Calls.bind reach_evaluateGuarded
  intro result
  exact Plan.Calls.bind (Plan.calls_call (.other trivial)) fun _ => Plan.calls_pure _

def DropsSessions : Effect → Prop
  | .store (.archiveSessions _) | .store .clearSenderKeys => True
  | _ => False

def ledgerKeys : List String := [(Account.preKeys .aci).key, (Account.preKeys .pni).key]

theorem preKeys_mem_ledgerKeys (space : Namespace) : (Account.preKeys space).key ∈ ledgerKeys := by
  cases space <;> simp [ledgerKeys]

private theorem within_updatePreKeys {reads writes : List String} {other : Effect → Prop} (space : Namespace)
    (edit : PreKeyLedger → PreKeyLedger) (readable : ledgerKeys ⊆ reads) (writable : ledgerKeys ⊆ writes) :
    Calls (Within reads writes other) (updatePreKeys space edit) := by
  apply Calls.bind (within_getOr (readable (preKeys_mem_ledgerKeys space)))
  intro ledger
  exact Calls.bind (within_put (writable (preKeys_mem_ledgerKeys space))) fun _ => calls_pure _

def reboundKeys : List String := Account.aci.key :: Account.pni.key :: ledgerKeys

def boundKeys : List String := Account.registered.key :: reboundKeys

theorem ledgerKeys_subset_reboundKeys : ledgerKeys ⊆ reboundKeys := by decide

theorem ledgerKeys_subset_boundKeys : ledgerKeys ⊆ boundKeys := by decide

def rebinding (aci : Aci) (pni : Pni) : Activity Fault Unit := do
  during .storingAci (put Account.aci aci)
  during .storingPni (put Account.pni pni)
  for space in Namespace.all do
    let _ ← during (.archivingSessions space) (store (.archiveSessions space))
    let _ ← updatePreKeys space fun ledger => { ledger with signedRegistered := false }
  let _ ← during .clearingSenderKeys (store .clearSenderKeys)

theorem bindIdentity_eq (aci : Aci) (pni : Pni) :
    bindIdentity aci pni = during .clearingRegistered (put Account.registered false) >>= fun _ => rebinding aci pni := rfl

theorem reach_rebinding (aci : Aci) (pni : Pni) :
    Calls (Within ledgerKeys reboundKeys DropsSessions) (rebinding aci pni) := by
  apply Calls.bind ((within_put (by simp [reboundKeys])).during _)
  intro _
  apply Calls.bind ((within_put (by simp [reboundKeys])).during _)
  intro _
  refine Calls.bind (Calls.forIn ?_) ?_
  · intro space _
    apply Calls.bind ((within_store trivial).during _)
    intro archived
    exact Calls.bind (within_updatePreKeys space _ (fun _ => id) ledgerKeys_subset_reboundKeys) fun _ => calls_pure _
  · intro _
    exact Calls.bind ((within_store trivial).during _) fun cleared => calls_pure _

theorem reach_bindIdentity (aci : Aci) (pni : Pni) :
    Calls (Within ledgerKeys boundKeys DropsSessions) (bindIdentity aci pni) := by
  rw [bindIdentity_eq]
  apply Calls.bind ((within_put List.mem_cons_self).during _)
  intro _
  exact Calls.widen (reach_rebinding aci pni) (List.Subset.refl _) (List.subset_cons_self _ _) fun _ => id

def MakesKeys : Effect → Prop
  | .store (.identityKeys _) | .store (.putIdentityKeys _ _) | .store (.putSignedPreKey _ _)
  | .store (.putLastResortPreKey _ _) | .keys _ | .service (.publish _ _ _) => True
  | _ => False

theorem reach_provisionKeys (space : Namespace) (credentials : Service.Credentials) :
    Calls (Within ledgerKeys ledgerKeys MakesKeys) (provisionKeys space credentials) := by
  have identity : Calls (Within ledgerKeys ledgerKeys MakesKeys) (identityKeys space) := by
    apply Calls.bind (within_store trivial)
    intro stored
    cases stored with
    | some identity => exact calls_pure _
    | none =>
      apply Calls.bind ((within_keys trivial).during _)
      intro identity
      exact Calls.bind (within_store trivial) fun _ => calls_pure _
  have update (edit : PreKeyLedger → PreKeyLedger) :
      Calls (Within ledgerKeys ledgerKeys MakesKeys) (updatePreKeys space edit) :=
    within_updatePreKeys space edit (fun _ => id) (fun _ => id)
  apply Calls.bind identity
  intro identity
  apply Calls.bind (within_getOr (preKeys_mem_ledgerKeys space))
  intro ledger
  refine Calls.bind (calls_orNew (within_keys trivial)) ?_
  intro signedId
  refine Calls.bind (calls_orNew (within_keys trivial)) ?_
  intro lastResortId
  apply Calls.bind ((within_keys trivial).during _)
  intro signed
  apply Calls.bind ((within_keys trivial).during _)
  intro lastResort
  apply Calls.bind (within_store trivial)
  intro _
  apply Calls.bind (within_store trivial)
  intro _
  apply Calls.bind (update _)
  intro _
  apply Calls.bind (((calls_service (.other trivial)).mapError _).during _)
  intro _
  exact Calls.bind (update _) fun _ => calls_pure _

theorem reach_provisionAll (credentials : Service.Credentials) (spaces : List Namespace) :
    Calls (Within ledgerKeys ledgerKeys MakesKeys) (provisionAll credentials spaces) := by
  induction spaces with
  | nil => exact calls_pure _
  | cons space spaces ih =>
    exact Calls.bind (reach_provisionKeys space credentials) fun _ => Calls.bind ih fun _ => calls_pure _

def LinksRecipient : Effect → Prop
  | .store (.selfRecipient _ _ _) | .store (.markRegistered _) | .store (.setProfileSharing _ _)
  | .store (.setProfileKey _ _) => True
  | _ => False

theorem reach_linkRecipient (aci : Aci) (pni : Pni) (number : PhoneNumber) (profileKey : ProfileKey) :
    Calls (Within [] [Account.profileKey.key] LinksRecipient) (linkRecipient aci pni number profileKey) := by
  apply Calls.bind ((within_store trivial).during _)
  intro id
  apply Calls.bind (within_store trivial)
  intro _
  apply Calls.bind (within_store trivial)
  intro _
  apply Calls.bind (within_store trivial)
  intro _
  exact Calls.bind (within_put (by simp)) fun _ => calls_pure _

theorem reach_setPushToken {reads writes : List String} {other : Effect → Prop} (token : Option String)
    (writable : Account.pushToken.key ∈ writes) : Calls (Within reads writes other) (setPushToken token) := by
  cases token with
  | some token => exact within_put writable
  | none => exact within_remove writable

def committedKeys : List String :=
  [Account.number.key, Account.pushToken.key, Account.servicePassword.key, (Account.registrationId .aci).key,
    (Account.registrationId .pni).key, Account.deviceId.key]

theorem reach_commitLocalState (a : Application) (p : Prepared) :
    Calls (Within [] (Account.registered.key :: committedKeys) fun _ => False) (commitLocalState a p) := by
  apply Calls.bind (within_put (by decide))
  intro _
  apply Calls.bind (reach_setPushToken _ (by decide))
  intro _
  apply Calls.bind (within_put (by decide))
  intro _
  apply Calls.bind (within_put (by decide))
  intro _
  apply Calls.bind (within_put (by decide))
  intro _
  apply Calls.bind (within_put (by decide))
  intro _
  exact (within_put (by decide)).during _

def followUpKeys : List String :=
  [Account.pinSet.key, Account.pinOptedOut.key, Account.recoveryPassword.key, Account.registrationLock.key,
    Account.complete.key, Account.discoverability.key]

theorem reach_scheduleFollowUps (a : Application) :
    Calls (Within gateReads followUpKeys AsksQueue) (scheduleFollowUps a) := by
  have gate : Calls (Within gateReads followUpKeys AsksQueue) evaluate :=
    Calls.widen reach_evaluate (List.Subset.refl _) (by decide) fun _ => id
  apply Calls.bind (within_call trivial)
  intro _
  apply Calls.bind (Calls.forIn fun job _ => Calls.bind (within_call trivial) fun _ => calls_pure _)
  intro _
  by_cases pin : a.establishesPin = true
  · rw [if_pos pin]
    apply Calls.bind (Calls.bind (within_put (by decide)) fun _ => within_put (by decide))
    intro _
    cases a.recoveryPassword with
    | some password =>
      apply Calls.bind (within_put (by decide))
      intro _
      exact Calls.bind (within_put (by decide)) fun _ => gate
    | none => exact Calls.bind (within_put (by decide)) fun _ => gate
  · rw [if_neg pin]
    exact gate

end Enrolment.Client
