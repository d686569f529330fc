import Enrolment.Proofs.Client.Provisioning
import Enrolment.Proofs.Client.Reach
/-!
An account that counts as registered is enrolled in full. An attempt to enrol it first takes the
registered flag away and puts it back last, and whatever it has done by then holds wherever it stops
and whatever goes on beside it (`register_ensures`).
-/
namespace Enrolment.Client

open Store Activity

namespace Holdings

variable {h h' : Holdings} {space : Namespace}

def Has {α : Type} (h : Holdings) (slot : Slot α) : Prop := ∃ a, h.value slot.key = some (slot.encode a)

/-- The service has the prekeys of a namespace that are stored, and the ledger says so. -/
def Published (h : Holdings) (space : Namespace) : Prop :=
  ∃ identity key spare, h.identity space = some identity ∧ h.signed space key.id = some key ∧
    h.lastResort space spare.key.id = some spare ∧
    h.ledger? space = .ok ⟨some key.id.next, some key.id, some spare.key.id.next, some spare.key.id, true⟩ ∧
    lastAccepted? (h.uploads space) = some (.of identity.publicKey (.of key.id key.publicKey key.signature)
      (.of spare.key.id spare.key.publicKey spare.key.signature))

structure Enrolled (h : Holdings) : Prop where
  aci : h.Has Account.aci
  pni : h.Has Account.pni
  number : h.Has Account.number
  servicePassword : h.Has Account.servicePassword
  deviceId : h.value Account.deviceId.key = some (Account.deviceId.encode .primary)
  registrationId : ∀ space, h.Has (Account.registrationId space)
  profileKey : h.Has Account.profileKey
  published : ∀ space, h.Published space

def Consistent (h : Holdings) : Prop := h.value Account.registered.key = some (.bool true) → h.Enrolled

structure Bound (h : Holdings) : Prop where
  unmarked : h.value Account.registered.key = some (.bool false)
  aci : h.Has Account.aci
  pni : h.Has Account.pni

theorem consistent_of_unmarked (unmarked : h.value Account.registered.key = some (.bool false)) : h.Consistent := by
  intro marked
  rw [unmarked] at marked
  cases marked

theorem Around.bound (around : Around space h h') (bound : h.Bound) : h'.Bound := by
  have registered := around.value Account.registered.key (by cases space <;> decide)
  have aci := around.value Account.aci.key (by cases space <;> decide)
  have pni := around.value Account.pni.key (by cases space <;> decide)
  refine ⟨registered.trans bound.unmarked, ?_, ?_⟩
  · obtain ⟨a, stored⟩ := bound.aci
    exact ⟨a, aci.trans stored⟩
  · obtain ⟨p, stored⟩ := bound.pni
    exact ⟨p, pni.trans stored⟩

theorem Around.published (around : Around space h h') {other : Namespace} (different : other ≠ space)
    (published : h.Published other) : h'.Published other := by
  obtain ⟨identity, key, spare, there, stored, storedSpare, counted, sent⟩ := published
  refine ⟨identity, key, spare, ?_, ?_, ?_, ?_, ?_⟩
  · rw [around.identity other different, there]
  · rw [around.signed other different, stored]
  · rw [around.lastResort other different, storedSpare]
  · rw [around.ledger? different, counted]
  · rw [around.uploads other different, sent]

theorem Sent.published {key : SignedPreKey} {spare : LastResortPreKey} (sent : Sent space key spare true h h') :
    h'.Published space := by
  obtain ⟨_, _, _, _, counted⟩ := sent.counted
  obtain ⟨identity, there, uploaded⟩ := sent.sent
  exact ⟨identity, key, spare, there, sent.stored, sent.storedSpare, counted, by rw [uploaded, lastAccepted?_append]⟩

end Holdings

open Holdings

variable {h : Holdings}

theorem Within.harmless {reads writes : List String} {other : Effect → Prop} {e : Effect}
    (within : Within reads writes other e) (apart : ∀ key ∈ writes, key ∉ ownKeys)
    (harmless : ∀ e, other e → Harmless e) : Harmless e := by
  cases within with
  | read => exact ⟨trivial, fun _ _ => rfl⟩
  | write member plain => exact ⟨plain, fun _ _ => if_neg (apart _ member)⟩
  | erase member => exact ⟨trivial, fun _ _ => if_neg (apart _ member)⟩
  | other is => exact harmless _ is

/-- What no write of some keys makes a difference to, the part of an enrolment that only writes those keeps. -/
theorem Within.keeps {reads writes : List String} {other : Effect → Prop} {held : Holdings → Prop}
    (written : ∀ key ∈ writes, ∀ value h, held h → held (h.write key value)) (harmless : ∀ e, other e → Harmless e)
    (call : Effect) (h : Holdings) (within : Within reads writes other call) (start : held h) :
    (contract fun _ => True).allowed call h ∧
      ∀ answer h', (contract fun _ => True).answered call h answer h' → held h' := by
  cases within with
  | read => exact ⟨⟨trivial, trivial⟩, fun _ h' answered => answered.2 ▸ start⟩
  | @write key value member plain =>
    refine ⟨⟨plain, trivial⟩, ?_⟩
    rintro answer _ ⟨-, rfl⟩
    show held (if key ∈ ownKeys then h.write key (some value) else h)
    split
    · exact written key member _ h start
    · exact start
  | @erase key member =>
    refine ⟨⟨trivial, trivial⟩, ?_⟩
    rintro answer _ ⟨-, rfl⟩
    show held (if key ∈ ownKeys then h.write key none else h)
    split
    · exact written key member _ h start
    · exact start
  | other is =>
    obtain ⟨faithful, same⟩ := harmless _ is
    refine ⟨⟨faithful, trivial⟩, ?_⟩
    rintro answer _ ⟨-, rfl⟩
    rwa [same]

theorem asksKeys_harmless (e : Effect) (asks : AsksKeys e) : Harmless e := by
  cases e with
  | keys request => exact ⟨trivial, fun answer h => by cases request <;> first | rfl | exact absurd rfl asks⟩
  | _ => exact asks.elim

theorem asksQueue_harmless (e : Effect) (asks : AsksQueue e) : Harmless e := by
  cases e <;> first | exact ⟨trivial, fun _ _ => rfl⟩ | exact asks.elim

theorem linksRecipient_harmless (e : Effect) (links : LinksRecipient e) : Harmless e := by
  cases e with
  | store op => cases op <;> first | exact ⟨trivial, fun _ _ => rfl⟩ | exact links.elim
  | _ => exact links.elim

theorem bindIdentity_ensures (aci : Aci) (pni : Pni) (consistent : h.Consistent) :
    Ensures (contract Consistent) (bindIdentity aci pni) (fun _ => Bound) (fun _ => Consistent) h := by
  refine ensures_bind.2 (ensures_during.2 (ensures_put (by decide) consistent ?_))
  refine ensures_bind.2 (ensures_during.2 (ensures_put (by decide) (consistent_of_unmarked ?_) ?_))
  · simp [Account.registered, Slot.flag]
  refine ensures_bind.2 (ensures_during.2 (ensures_put (by decide) (consistent_of_unmarked ?_) ?_))
  · simp [Account.aci, Account.registered, Slot.flag]
  refine Ensures.bind (Ensures.forIn Bound ?_ ⟨?_, ⟨aci, ?_⟩, ⟨pni, ?_⟩⟩) ?_
  · intro space _ h bound
    have consistent := consistent_of_unmarked bound.unmarked
    exact ensures_unmarked consistent (fun _ _ => (around_setLedger space h _).bound bound) fun _ => consistent
  · simp [Account.aci, Account.pni, Account.registered, Slot.flag]
  · simp [Account.aci, Account.pni]
  · simp
  intro _ h bound
  have consistent := consistent_of_unmarked bound.unmarked
  refine ensures_bind.2 (ensures_during.2 ?_)
  exact ensures_of_harmless (harmless_store (by trivial) fun _ _ => rfl) consistent (fun _ => bound) fun _ => consistent

theorem provisionAll_ensures (credentials : Service.Credentials) (spaces : List Namespace) (bound : h.Bound)
    (done : ∀ space, space ∉ spaces → h.Published space) :
    Ensures (contract Consistent) (provisionAll credentials spaces)
      (fun _ h' => h'.Bound ∧ ∀ space, h'.Published space) (fun _ => Consistent) h := by
  induction spaces generalizing h with
  | nil => exact ensures_pure ⟨bound, fun space => done space (by simp)⟩
  | cons space spaces ih =>
    have provisioned := provisionKeys_ensures (h := h) space credentials
      fun h' around => consistent_of_unmarked (around.bound bound).unmarked
    refine ensures_bind.2 (provisioned.mono ?_ ?_)
    · rintro p h' ⟨key, spare, -, sent⟩
      have bound' := sent.toAround.bound bound
      refine ensures_bind.2 ((ih bound' ?_).mono (fun _ _ => id) fun _ _ => id)
      intro other later
      by_cases same : other = space
      · subst same
        exact sent.published
      · exact sent.toAround.published same (done other (by simp [same, later]))
    · rintro e h' (unsent | ⟨key, spare, sent⟩)
      · exact consistent_of_unmarked (unsent.toAround.bound bound).unmarked
      · exact consistent_of_unmarked (sent.toAround.bound bound).unmarked

theorem ledger?_write {key : String} (apart : key ∉ ledgerKeys) (value : Option Json) (h : Holdings) (space : Namespace) :
    (h.write key value).ledger? space = h.ledger? space := by
  have other : key ≠ (Account.preKeys space).key := fun same => apart (same ▸ preKeys_mem_ledgerKeys space)
  rw [ledger?, value_write, if_neg other, ledger?]

theorem published_write {key : String} (apart : key ∉ ledgerKeys) (value : Option Json) {space : Namespace}
    (published : h.Published space) : (h.write key value).Published space := by
  obtain ⟨identity, prekey, spare, there, stored, storedSpare, counted, sent⟩ := published
  exact ⟨identity, prekey, spare, there, stored, storedSpare, by rwa [ledger?_write apart], sent⟩

private structure Stored (h : Holdings) : Prop extends Bound h where
  published : ∀ space, h.Published space
  profileKey : h.Has Account.profileKey

private theorem Stored.write (stored : Stored h) {key : String} (member : key ∈ committedKeys) (value : Option Json) :
    Stored (h.write key value) := by
  have apart : ∀ key ∈ committedKeys, key ∉ ledgerKeys ∧ key ≠ Account.registered.key ∧ key ≠ Account.aci.key ∧
      key ≠ Account.pni.key ∧ key ≠ Account.profileKey.key := by decide
  obtain ⟨ledger, registered, aci, pni, profileKey⟩ := apart key member
  refine ⟨⟨?_, ?_, ?_⟩, fun space => published_write ledger value (stored.published space), ?_⟩
  · rw [value_write, if_neg registered, stored.unmarked]
  · obtain ⟨a, there⟩ := stored.aci
    exact ⟨a, by rw [value_write, if_neg aci, there]⟩
  · obtain ⟨p, there⟩ := stored.pni
    exact ⟨p, by rw [value_write, if_neg pni, there]⟩
  · obtain ⟨k, there⟩ := stored.profileKey
    exact ⟨k, by rw [value_write, if_neg profileKey, there]⟩

private theorem linkRecipient_ensures (aci : Aci) (pni : Pni) (number : PhoneNumber) (profileKey : ProfileKey)
    (bound : h.Bound) (published : ∀ space, h.Published space) :
    Ensures (contract Consistent) (linkRecipient aci pni number profileKey) (fun _ => Stored) (fun _ => Consistent) h := by
  have consistent := consistent_of_unmarked bound.unmarked
  refine ensures_bind.2 (ensures_during.2 ?_)
  refine ensures_of_harmless (harmless_store (by trivial) fun _ _ => rfl) consistent ?_ fun _ => consistent
  intro id
  apply ensures_bind.2
  refine ensures_of_harmless (harmless_store (by trivial) fun _ _ => rfl) consistent ?_ fun _ => consistent
  intro _
  apply ensures_bind.2
  refine ensures_of_harmless (harmless_store (by trivial) fun _ _ => rfl) consistent ?_ fun _ => consistent
  intro _
  apply ensures_bind.2
  refine ensures_of_harmless (harmless_store (by trivial) fun _ _ => rfl) consistent ?_ fun _ => consistent
  intro _
  refine ensures_bind.2 (ensures_put (by decide) consistent (ensures_pure ?_))
  refine ⟨⟨?_, ?_, ?_⟩, fun space => published_write (by decide) _ (published space), profileKey, by simp⟩
  · rw [value_write, if_neg (by decide), bound.unmarked]
  · obtain ⟨a, there⟩ := bound.aci
    exact ⟨a, by rw [value_write, if_neg (by decide), there]⟩
  · obtain ⟨p, there⟩ := bound.pni
    exact ⟨p, by rw [value_write, if_neg (by decide), there]⟩

private theorem enrolled_of_stored (a : Application) (p : Prepared) (stored : Stored h)
    (number : h.value Account.number.key = some (Account.number.encode a.number))
    (password : h.value Account.servicePassword.key = some (Account.servicePassword.encode p.password))
    (aciId : h.value (Account.registrationId .aci).key = some ((Account.registrationId .aci).encode p.aciRegistrationId))
    (pniId : h.value (Account.registrationId .pni).key = some ((Account.registrationId .pni).encode p.pniRegistrationId))
    (deviceId : h.value Account.deviceId.key = some (Account.deviceId.encode .primary)) (value : Option Json) :
    (h.write Account.registered.key value).Enrolled := by
  have other {key : String} (different : Account.registered.key ≠ key) :
      (h.write Account.registered.key value).value key = h.value key := if_neg different
  obtain ⟨aci, aciThere⟩ := stored.aci
  obtain ⟨pni, pniThere⟩ := stored.pni
  obtain ⟨profileKey, profileKeyThere⟩ := stored.profileKey
  exact {
    aci := ⟨aci, (other (by decide)).trans aciThere⟩
    pni := ⟨pni, (other (by decide)).trans pniThere⟩
    number := ⟨a.number, (other (by decide)).trans number⟩
    servicePassword := ⟨p.password, (other (by decide)).trans password⟩
    deviceId := (other (by decide)).trans deviceId
    registrationId := fun
      | .aci => ⟨p.aciRegistrationId, (other (by decide)).trans aciId⟩
      | .pni => ⟨p.pniRegistrationId, (other (by decide)).trans pniId⟩
    profileKey := ⟨profileKey, (other (by decide)).trans profileKeyThere⟩
    published := fun space => published_write (by decide) value (stored.published space) }

private theorem commitLocalState_ensures (a : Application) (p : Prepared) (stored : Stored h) :
    Ensures (contract Consistent) (commitLocalState a p) (fun _ => Consistent) (fun _ => Consistent) h := by
  have consistent {h : Holdings} (stored : Stored h) := consistent_of_unmarked stored.unmarked
  have reach : Calls (Within [] [Account.pushToken.key] fun _ => False) (setPushToken a.pushToken) :=
    reach_setPushToken _ (by simp)
  have pushToken : Calls Harmless (setPushToken a.pushToken) :=
    reach.mono fun e within => within.harmless (by decide) fun _ => False.elim
  refine ensures_bind.2 (ensures_put (by decide) (consistent stored) ?_)
  have stored₁ := stored.write (by decide : Account.number.key ∈ _) (some (Account.number.encode a.number))
  refine ensures_bind.2 (ensures_of_harmless pushToken (consistent stored₁) ?_ fun _ => consistent stored₁)
  intro _
  refine ensures_bind.2 (ensures_put (by decide) (consistent stored₁) ?_)
  have stored₂ := stored₁.write (by decide : Account.servicePassword.key ∈ _)
    (some (Account.servicePassword.encode p.password))
  refine ensures_bind.2 (ensures_put (by decide) (consistent stored₂) ?_)
  have stored₃ := stored₂.write (by decide : (Account.registrationId .aci).key ∈ _)
    (some ((Account.registrationId .aci).encode p.aciRegistrationId))
  refine ensures_bind.2 (ensures_put (by decide) (consistent stored₃) ?_)
  have stored₄ := stored₃.write (by decide : (Account.registrationId .pni).key ∈ _)
    (some ((Account.registrationId .pni).encode p.pniRegistrationId))
  refine ensures_bind.2 (ensures_put (by decide) (consistent stored₄) ?_)
  have stored₅ := stored₄.write (by decide : Account.deviceId.key ∈ _) (some (Account.deviceId.encode .primary))
  refine ensures_during.2 (ensures_put (by decide) (consistent stored₅) ?_)
  intro _
  refine enrolled_of_stored a p stored₅ ?_ ?_ ?_ ?_ ?_ _ <;>
    simp [Account.number, Account.servicePassword, Account.registrationId, Account.deviceId, Slot.text, Namespace.name]

theorem register_ensures (a : Application) (consistent : h.Consistent) :
    Ensures (contract Consistent) (register a) (fun _ => Consistent) (fun _ => Consistent) h := by
  have prepared : Calls Harmless (prepare a) :=
    (reach_prepare a).mono fun e within => within.harmless (by simp) asksKeys_harmless
  have followed : Calls Harmless (scheduleFollowUps a) :=
    (reach_scheduleFollowUps a).mono fun e within => within.harmless (by decide) asksQueue_harmless
  unfold register
  split
  · exact ensures_throw consistent
  refine ensures_bind.2 (ensures_mapError.2 (ensures_of_harmless prepared consistent ?_ fun _ => consistent))
  intro p
  refine ensures_bind.2 (ensures_mapError.2 (ensures_service ⟨trivial, consistent⟩ ?_))
  rintro answer h' ⟨-, same⟩
  obtain rfl : h = h' := same.symm
  cases answer with
  | error e => exact consistent
  | ok verified =>
  apply Ensures.bind (ensures_mapError.2 (bindIdentity_ensures _ _ consistent))
  intro _ h bound
  refine Ensures.bind (ensures_mapError.2 (provisionAll_ensures _ _ bound ?_)) ?_
  · intro space outside
    exact absurd (by cases space <;> simp [Namespace.all]) outside
  rintro provisioned h ⟨bound, published⟩
  apply Ensures.bind (ensures_mapError.2 (linkRecipient_ensures _ _ _ _ bound published))
  intro _ h stored
  apply Ensures.bind (ensures_mapError.2 (commitLocalState_ensures a p stored))
  intro _ h consistent
  refine ensures_bind.2 (ensures_mapError.2 (ensures_of_harmless followed consistent ?_ fun _ => consistent))
  intro completed
  exact ensures_pure consistent

end Enrolment.Client
