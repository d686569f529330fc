import Enrolment.Proofs.Client.Scene
import Enrolment.Proofs.Client.Stages
import Enrolment.Proofs.Client.Tenure
import Mathlib.Logic.Relation
/-!
What an account keeps for good. Whatever is done for it, however often it fails half-way and whatever
identifiers the service comes up with: identity keys that are stored stay, and all prekeys of their
namespace are published under them; registration ids are stored by an attempt that came to its commit,
and from then on they stay and are what the service is sent (`Career.lasting`).
-/
namespace Enrolment.Client

open Store Activity

/-! ## Work that has nothing to do with it -/

variable {v w : Tenure} {ε α : Type}

/-- A call that neither changes identity keys and registration ids nor shows them to the service. -/
def Aside (call : Effect) : Prop :=
  call.IsFaithful ∧ ∀ v : Tenure, v.Allows call ∧ ∀ answer, Tenure.after call answer v = v

theorem ensures_of_aside {a : Activity ε α} (calls : Calls Aside a) {good : α → Tenure → Prop} {bad : ε → Tenure → Prop}
    (returned : ∀ x, good x v) (failed : ∀ e, bad e v) : Ensures permanent a good bad v := by
  have kept : Ensures permanent a (fun _ w => w = v) (fun _ w => w = v) v := by
    refine calls.ensures ?_ rfl
    rintro call w ⟨faithful, aside⟩ rfl
    obtain ⟨allowed, same⟩ := aside w
    exact ⟨⟨faithful, allowed⟩, fun answer w' answered => answered.2.trans (same answer)⟩
  apply kept.mono
  · rintro x w rfl
    exact returned x
  · rintro e w rfl
    exact failed e

theorem Tenure.write_eq {key : String} (apart : ∀ space, key ≠ (Account.registrationId space).key) (v : Tenure)
    (value : Option Json) : v.write key value = v :=
  Tenure.ext rfl (funext fun space => if_neg (apart space)) rfl rfl

theorem aside_write {key : String} (apart : ∀ space, key ≠ (Account.registrationId space).key) {value : Json}
    (plain : value.isPlain = true) : Aside (.store (.write key value)) :=
  ⟨plain, fun v => ⟨fun space _ same => absurd same (apart space), fun _ => v.write_eq apart _⟩⟩

theorem aside_read (key : String) : Aside (.store (.read key)) := ⟨trivial, fun _ => ⟨trivial, fun _ => rfl⟩⟩

theorem aside_keys (request : KeyRequest) : Aside (.keys request) := ⟨trivial, fun _ => ⟨trivial, fun _ => rfl⟩⟩

theorem aside_erase {key : String} (apart : ∀ space, key ≠ (Account.registrationId space).key) :
    Aside (.store (.erase key)) :=
  ⟨trivial, fun v => ⟨apart, fun _ => v.write_eq apart _⟩⟩

def assignedKeys : List String := [(Account.registrationId .aci).key, (Account.registrationId .pni).key]

private theorem apart_of_not_mem {key : String} (outside : key ∉ assignedKeys) (space : Namespace) :
    key ≠ (Account.registrationId space).key := by
  rintro rfl
  cases space <;> exact outside (by decide)

theorem Within.aside {reads writes : List String} {other : Effect → Prop} {e : Effect}
    (within : Within reads writes other e) (apart : ∀ key ∈ writes, key ∉ assignedKeys)
    (aside : ∀ e, other e → Aside e) : Aside e := by
  cases within with
  | read => exact aside_read _
  | write member plain => exact aside_write (apart_of_not_mem (apart _ member)) plain
  | erase member => exact aside_erase (apart_of_not_mem (apart _ member))
  | other is => exact aside _ is

private theorem aside_of_dropsSessions (e : Effect) (drops : DropsSessions e) : Aside e := by
  cases e with
  | store op => cases op <;> first | exact ⟨trivial, fun _ => ⟨trivial, fun _ => rfl⟩⟩ | exact drops.elim
  | _ => exact drops.elim

private theorem aside_of_linksRecipient (e : Effect) (links : LinksRecipient e) : Aside e := by
  cases e with
  | store op => cases op <;> first | exact ⟨trivial, fun _ => ⟨trivial, fun _ => rfl⟩⟩ | exact links.elim
  | _ => exact links.elim

private theorem aside_of_asksQueue (e : Effect) (asks : AsksQueue e) : Aside e := by
  cases e <;> first | exact ⟨trivial, fun _ => ⟨trivial, fun _ => rfl⟩⟩ | exact asks.elim

private theorem aside_bindIdentity (aci : Aci) (pni : Pni) : Calls Aside (bindIdentity aci pni) :=
  (reach_bindIdentity aci pni).mono fun _ within => within.aside (by decide) aside_of_dropsSessions

private theorem aside_linkRecipient (aci : Aci) (pni : Pni) (number : PhoneNumber) (key : ProfileKey) :
    Calls Aside (linkRecipient aci pni number key) :=
  (reach_linkRecipient aci pni number key).mono fun _ within => within.aside (by decide) aside_of_linksRecipient

private theorem aside_scheduleFollowUps (a : Application) : Calls Aside (scheduleFollowUps a) :=
  (reach_scheduleFollowUps a).mono fun _ within => within.aside (by decide) aside_of_asksQueue

/-! ## The stages of an attempt -/

def Prepared.registrationId (p : Prepared) : Namespace → RegistrationId
  | .aci => p.aciRegistrationId
  | .pni => p.pniRegistrationId

@[simp] theorem registrationId_verifyRequest (a : Application) (p : Prepared) :
    (verifyRequest a p).registrationId = p.registrationId := by
  funext space
  cases space <;> rfl

private theorem ensures_ownId {β : Type} (space : Namespace) {next : RegistrationId → Activity Fault β}
    {good : β → Tenure → Prop} {bad : Fault → Tenure → Prop}
    (rest : ∀ id, v.Fits space id → Ensures permanent (next id) good bad v) (failed : ∀ e, bad e v) :
    Ensures permanent
      (get? (Account.registrationId space) >>= fun there => orNew there (keys .registrationId) >>= next) good bad v := by
  refine ensures_bind.2 (ensures_read ⟨trivial, trivial⟩ ?_)
  rintro answer v' ⟨foretold, same⟩
  obtain rfl : v = v' := same.symm
  rw [foretold space rfl]
  show either _ _ (v.registrationId space) v
  cases read : v.registrationId space with
  | error e => exact failed e
  | ok there =>
    cases there with
    | some id =>
      refine rest id fun there same => ?_
      exact Option.some.inj (Except.ok.inj (read.symm.trans same))
    | none =>
      refine ensures_bind.2 (ensures_of_aside (calls_keys (aside_keys _)) ?_ failed)
      refine fun id => rest id fun there same => ?_
      cases read.symm.trans same

private theorem ensures_prepare (a : Application) {good : Prepared → Tenure → Prop} {bad : Fault → Tenure → Prop}
    (prepared : ∀ p : Prepared, (∀ space, v.Fits space (p.registrationId space)) → good p v) (failed : ∀ e, bad e v) :
    Ensures permanent (prepare a) good bad v := by
  refine ensures_bind.2 (ensures_of_aside (calls_orNew (calls_keys (aside_keys .password))) ?_ failed)
  intro password
  refine ensures_ownId .aci ?_ failed
  intro aciId fits
  refine ensures_ownId .pni ?_ failed
  intro pniId fits'
  refine ensures_bind.2 (ensures_of_aside (calls_get? (aside_read _)) ?_ failed)
  intro stored
  refine ensures_bind.2 (ensures_of_aside (calls_orNew (calls_keys (aside_keys .profileKey))) ?_ failed)
  intro profileKey
  refine ensures_pure (prepared _ fun space => ?_)
  cases space with
  | aci => exact fits
  | pni => exact fits'

def Tenure.Rests (v v' : Tenure) : Prop := v'.registrationId = v.registrationId ∧ v'.asked = v.asked

private theorem ensures_ownIdentity (space : Namespace) :
    Ensures permanent (identityKeys space) (fun identity w => w.identity space = some identity ∧ v.Rests w)
      (fun _ => v.Rests) v := by
  refine ensures_bind.2 (ensures_store ⟨trivial, trivial⟩ ?_)
  rintro answer w ⟨foretold, same⟩
  obtain rfl : v = w := same.symm
  rw [foretold]
  cases there : v.identity space with
  | some identity => exact ensures_pure ⟨there, rfl, rfl⟩
  | none =>
    refine ensures_bind.2 (ensures_during.2 (ensures_of_aside ?_ ?_ fun _ => ⟨rfl, rfl⟩))
    · exact calls_keys (aside_keys _)
    intro identity
    refine ensures_bind.2 (ensures_store ⟨trivial, there⟩ ?_)
    rintro answer w ⟨foretold, rfl⟩
    rw [foretold]
    exact ensures_pure ⟨if_pos rfl, rfl, rfl⟩

private def PublishesUnder (space : Namespace) (identity : IdentityKeys) (e : Effect) : Prop :=
  Aside e ∨ ∃ content credentials, e = .service (.publish space content credentials) ∧
    content.identityKey = Text.base64 identity.publicKey

private theorem PublishesUnder.keeps {space : Namespace} {identity : IdentityKeys} (call : Effect) (w : Tenure)
    (under : PublishesUnder space identity call) (held : w.identity space = some identity ∧ v.Rests w) :
    permanent.allowed call w ∧
      ∀ answer w', permanent.answered call w answer w' → w'.identity space = some identity ∧ v.Rests w' := by
  rcases under with ⟨faithful, aside⟩ | ⟨content, credentials, rfl, is⟩
  · refine ⟨⟨faithful, (aside w).1⟩, ?_⟩
    rintro answer _ ⟨-, rfl⟩
    rwa [(aside w).2 answer]
  · refine ⟨⟨trivial, identity, held.1, is⟩, ?_⟩
    rintro answer _ ⟨-, rfl⟩
    exact held

private theorem aside_updatePreKeys (space : Namespace) (edit : PreKeyLedger → PreKeyLedger) :
    Calls Aside (updatePreKeys space edit) := by
  have apart (other : Namespace) : (Account.preKeys space).key ≠ (Account.registrationId other).key := by
    cases space <;> cases other <;> decide
  refine Calls.bind (calls_getOr (aside_read _)) fun ledger => Calls.bind (calls_put ?_) fun _ => calls_pure _
  exact aside_write apart ((Account.preKeys space).isPlain_encode _)

private theorem ensures_provisionKeys (space : Namespace) (credentials : Service.Credentials) :
    Ensures permanent (provisionKeys space credentials) (fun _ => v.Rests) (fun _ => v.Rests) v := by
  apply Ensures.bind (ensures_ownIdentity space)
  rintro identity w ⟨there, rests⟩
  -- The identity is stored by now, so that all that is left may publish under it.
  refine Ensures.mono (Calls.ensures ?_ PublishesUnder.keeps ⟨there, rests⟩) (fun _ _ => And.right) fun _ _ => And.right
  have aside {call : Effect} (is : Aside call) : PublishesUnder space identity call := Or.inl is
  have update (edit : PreKeyLedger → PreKeyLedger) :
      Calls (PublishesUnder space identity) (updatePreKeys space edit) :=
    (aside_updatePreKeys space edit).mono fun _ => Or.inl
  apply Calls.bind (calls_getOr (aside (aside_read _)))
  intro ledger
  apply Calls.bind (calls_orNew (calls_keys (aside (aside_keys .preKeyId))))
  intro signedId
  apply Calls.bind (calls_orNew (calls_keys (aside (aside_keys .preKeyId))))
  intro lastResortId
  apply Calls.bind ((calls_keys (aside (aside_keys _))).during _)
  intro signed
  apply Calls.bind ((calls_keys (aside (aside_keys _))).during _)
  intro lastResort
  refine Calls.bind (calls_store (aside ?_)) ?_
  · exact ⟨trivial, fun _ => ⟨trivial, fun _ => rfl⟩⟩
  intro _
  refine Calls.bind (calls_store (aside ?_)) ?_
  · exact ⟨trivial, fun _ => ⟨trivial, fun _ => rfl⟩⟩
  intro _
  apply Calls.bind (update _)
  intro _
  apply Calls.bind (((calls_service (Or.inr ⟨_, _, rfl, rfl⟩)).mapError _).during _)
  intro _
  exact Calls.bind (update _) fun _ => calls_pure _

theorem Tenure.Rests.trans {v v' v'' : Tenure} (first : v.Rests v') (second : v'.Rests v'') : v.Rests v'' :=
  ⟨second.1.trans first.1, second.2.trans first.2⟩

private theorem ensures_provisionAll (credentials : Service.Credentials) (spaces : List Namespace) (rests : v.Rests w) :
    Ensures permanent (provisionAll credentials spaces) (fun _ => v.Rests) (fun _ => v.Rests) w := by
  induction spaces generalizing w with
  | nil => exact ensures_pure rests
  | cons space spaces ih =>
    have provisioned : Ensures permanent (provisionKeys space credentials) (fun _ => v.Rests) (fun _ => v.Rests) w :=
      (ensures_provisionKeys space credentials).mono (fun _ _ => rests.trans) fun _ _ => rests.trans
    apply Ensures.bind provisioned
    intro _ w rests
    exact Ensures.bind (ih rests) fun _ w rests => ensures_pure rests

/-! ## The commit -/

private theorem ensures_stored {op : Operation} {x : op.Result} {good : op.Result → Tenure → Prop}
    {bad : Fault → Tenure → Prop} (faithful : op.IsFaithful) (allowed : v.Allows (.store op))
    (sure : ∀ answer, Tenure.Foretells (.store op) v answer → answer = .ok x)
    (done : good x (Tenure.after (.store op) (.ok x) v)) : Ensures permanent (store op) good bad v := by
  refine ensures_store ⟨faithful, allowed⟩ ?_
  rintro answer w ⟨foretold, same⟩
  rw [sure answer foretold] at same ⊢
  rw [same]
  exact done

variable {slot : Slot α}

private theorem ensures_putAside [slot.Lawful] {good : Unit → Tenure → Prop} {bad : Fault → Tenure → Prop} {a : α}
    (apart : slot.key ∉ assignedKeys) (held : good () v) : Ensures permanent (put slot a) good bad v := by
  obtain ⟨faithful, aside⟩ := aside_write (apart_of_not_mem apart) (slot.isPlain_encode a)
  refine ensures_stored faithful (aside v).1 (fun _ sure => sure) ?_
  rwa [(aside v).2]

private theorem registrationId_key_inj {space other : Namespace} :
    (Account.registrationId space).key = (Account.registrationId other).key ↔ space = other := by
  cases space <;> cases other <;> decide

def Tenure.assign (v : Tenure) (space : Namespace) (id : RegistrationId) : Tenure :=
  v.write (Account.registrationId space).key (some ((Account.registrationId space).encode id))

@[simp] theorem Tenure.registrationId_assign (v : Tenure) (space other : Namespace) (id : RegistrationId) :
    (v.assign space id).registrationId other = if space = other then .ok (some id) else v.registrationId other := by
  simp only [assign, write, registrationId_key_inj]
  split
  · rename_i same
    subst same
    exact (Account.registrationId space).interpret_encode id
  · rfl

private theorem ensures_putId {space : Namespace} {id : RegistrationId} {good : Unit → Tenure → Prop}
    {bad : Fault → Tenure → Prop} (fits : v.Fits space id) (held : good () (v.assign space id)) :
    Ensures permanent (put (Account.registrationId space) id) good bad v := by
  refine ensures_stored ((Account.registrationId space).isPlain_encode id) ?_ (fun _ sure => sure) held
  intro other there same read
  obtain rfl := registrationId_key_inj.1 same
  rw [fits there read]
  exact (Account.registrationId space).interpret_encode there

private theorem ensures_commitLocalState (a : Application) (p : Prepared)
    (fits : ∀ space, v.Fits space (p.registrationId space)) :
    Ensures permanent (commitLocalState a p)
      (fun _ w => w.asked = v.asked ∧ ∀ space, w.registrationId space = .ok (some (p.registrationId space)))
      (fun _ _ => False) v := by
  refine ensures_bind.2 (ensures_putAside (by decide) ?_)
  have tokened : Ensures permanent (setPushToken a.pushToken) (fun _ w => w = v) (fun _ _ => False) v := by
    cases a.pushToken with
    | some token => exact ensures_putAside (by decide) rfl
    | none =>
      have apart : ∀ space, Account.pushToken.key ≠ (Account.registrationId space).key :=
        apart_of_not_mem (by decide)
      exact ensures_stored trivial apart (fun _ sure => sure) (v.write_eq apart none)
  apply Ensures.bind tokened
  rintro _ w rfl
  refine ensures_bind.2 (ensures_putAside (by decide) ?_)
  refine ensures_bind.2 (ensures_putId (fits .aci) ?_)
  have still : (w.assign .aci p.aciRegistrationId).Fits .pni p.pniRegistrationId := by
    intro there read
    rw [Tenure.registrationId_assign, if_neg (by decide)] at read
    exact fits .pni there read
  refine ensures_bind.2 (ensures_putId still ?_)
  refine ensures_bind.2 (ensures_putAside (by decide) ?_)
  refine ensures_during.2 (ensures_putAside (by decide) ⟨rfl, fun space => ?_⟩)
  cases space <;> simp [Prepared.registrationId]

/-! ## A whole attempt -/

def Tenure.Settles (v v' : Tenure) : Prop :=
  ∃ request, v'.asked = v.asked ++ [request] ∧
    ∀ space, v'.registrationId space = .ok (some (request.registrationId space))

/-- An attempt came to its commit if it succeeded, or failed at the work that comes after. -/
def CameToCommit {α : Type} : Except RegistrationError α → Prop
  | .ok _ => True
  | .error e => e.step? = some .followUpScheduling

instance {α : Type} : (result : Except RegistrationError α) → Decidable (CameToCommit result)
  | .ok _ => isTrue trivial
  | .error e => inferInstanceAs (Decidable (e.step? = some .followUpScheduling))

/-- What an attempt makes of the registration ids, as its result tells. -/
def Tenure.Ends {α : Type} (v : Tenure) (result : Except RegistrationError α) (v' : Tenure) : Prop :=
  (CameToCommit result → v.Settles v') ∧ (¬ CameToCommit result → v'.registrationId = v.registrationId)

private theorem ends_of_early {e : RegistrationError} (early : e.step? ≠ some .followUpScheduling)
    (same : w.registrationId = v.registrationId) : v.Ends (.error e : Except RegistrationError Enrolled) w :=
  ⟨fun late => absurd late early, fun _ => same⟩

theorem register_permanent (a : Application) :
    Ensures permanent (register a) (fun x => v.Ends (.ok x))
      (fun e => v.Ends (.error e : Except RegistrationError Enrolled)) v := by
  unfold register
  split
  · exact ensures_throw (ends_of_early (by decide) rfl)
  refine ensures_bind.2 (ensures_mapError.2 (ensures_prepare a ?_ fun _ => ends_of_early nofun rfl))
  intro p fits
  rw [← registrationId_verifyRequest a p] at fits
  refine ensures_bind.2 (ensures_mapError.2 (ensures_service ⟨trivial, fits⟩ ?_))
  rintro answer w ⟨-, same⟩
  cases answer with
  | error e => exact ends_of_early nofun (same ▸ rfl)
  | ok verified =>
  obtain rfl : w = { v with asked := v.asked ++ [verifyRequest a p] } := same
  -- From here to the commit nobody writes the ids, so that those that were sent still fit when it comes.
  refine ensures_bind.2 (ensures_mapError.2 (ensures_of_aside (aside_bindIdentity _ _) ?_ fun _ => ends_of_early nofun rfl))
  intro _
  refine Ensures.bind (ensures_mapError.2 ((ensures_provisionAll _ _ ⟨rfl, rfl⟩).mono (fun _ _ => id) ?_)) ?_
  · exact fun _ _ rests => ends_of_early nofun rests.1
  rintro provisioned w ⟨assigned, asked⟩
  refine ensures_bind.2 (ensures_mapError.2 (ensures_of_aside (aside_linkRecipient _ _ _ _) ?_
    fun _ => ends_of_early nofun assigned))
  intro recipientId
  have fits' (space : Namespace) : w.Fits space (p.registrationId space) := by
    intro there read
    rw [assigned] at read
    rw [← registrationId_verifyRequest a p]
    exact fits space there read
  apply Ensures.bind (ensures_mapError.2 ((ensures_commitLocalState a p fits').mono (fun _ _ => id) fun _ _ => False.elim))
  rintro _ w' ⟨asked', stored⟩
  have settled : v.Settles w' := by
    refine ⟨verifyRequest a p, asked'.trans asked, fun space => ?_⟩
    rw [stored, registrationId_verifyRequest]
  refine ensures_bind.2 (ensures_mapError.2 (ensures_of_aside (aside_scheduleFollowUps a) ?_ ?_))
  · exact fun completed => ensures_pure ⟨fun _ => settled, fun early => absurd trivial early⟩
  · exact fun e => ⟨fun _ => settled, fun early => absurd rfl early⟩

/-! ## Whatever is done for an account -/

inductive Duty where
  | register (a : Application)
  | bindIdentity (aci : Aci) (pni : Pni)
  | provisionKeys (space : Namespace) (credentials : Service.Credentials)
  | linkRecipient (aci : Aci) (pni : Pni) (number : PhoneNumber) (profileKey : ProfileKey)

def Duty.plan : Duty → Plan effects Unit
  | register a => Client.plan (Client.register a)
  | bindIdentity aci pni => Client.plan (Client.bindIdentity aci pni)
  | provisionKeys space credentials => Client.plan (Client.provisionKeys space credentials)
  | linkRecipient aci pni number profileKey => Client.plan (Client.linkRecipient aci pni number profileKey)

private theorem permanent_plan {a : Activity ε α} {good : α → Tenure → Prop} {bad : ε → Tenure → Prop}
    (ensures : Ensures permanent a good bad v) : Plan.Meets permanent (fun _ _ => True) (plan a) v :=
  Plan.meets_map.2 (Plan.Meets.mono (fun _ _ _ => trivial) ensures)

theorem Duty.meets (d : Duty) (v : Tenure) : Plan.Meets permanent (fun _ _ => True) d.plan v := by
  have aside {ε α : Type} {a : Activity ε α} (calls : Calls Aside a) :
      Plan.Meets permanent (fun _ _ => True) (Client.plan a) v := by
    have done : Ensures permanent a (fun _ _ => True) (fun _ _ => True) v :=
      ensures_of_aside calls (fun _ => trivial) fun _ => trivial
    exact permanent_plan done
  cases d with
  | register a => exact permanent_plan (register_permanent a)
  | bindIdentity aci pni => exact aside (aside_bindIdentity aci pni)
  | provisionKeys space credentials => exact permanent_plan (ensures_provisionKeys space credentials)
  | linkRecipient aci pni number profileKey => exact aside (aside_linkRecipient aci pni number profileKey)

/-- A client in the course of time: what is being done, by which thread, and what was asked and answered
so far. -/
structure Career (κ σ : Type) where
  client : Installation κ σ
  ongoing : Option (Thread × Plan effects Unit)
  journal : Journal

namespace Career

variable {κ σ : Type} {s s' : Career κ σ} {t : Thread}

def start (c : Installation κ σ) : Career κ σ := ⟨c, none, []⟩

def proceed (s : Career κ σ) (t : Thread) (call : Effect) (next : call.Answer → Plan effects Unit) : Career κ σ :=
  ⟨(s.client.handle t call).2, some (t, next (s.client.handle t call).1),
    s.journal ++ [⟨call, (s.client.handle t call).1⟩]⟩

/-- What can happen next. One thing is done at a time, and it may be given up at any call. -/
inductive Step : Career κ σ → Career κ σ → Prop
  | begins {s : Career κ σ} (t : Thread) (d : Duty) : s.ongoing = none → Step s { s with ongoing := some (t, d.plan) }
  | proceeds {s : Career κ σ} {t : Thread} {call : Effect} {next : call.Answer → Plan effects Unit} :
    s.ongoing = some (t, .ask call next) → s.client.store.Admits t → Step s (s.proceed t call next)
  | rests {s : Career κ σ} : Step s { s with ongoing := none }
  | opensScope {s : Career κ σ} (t : Thread) : s.client.store.Admits t →
    Step s { s with client := { s.client with store := (s.client.store.openScope t).2 } }
  | commitsScope {s : Career κ σ} (t : Thread) : s.client.store.Admits t →
    Step s { s with client := { s.client with store := (s.client.store.closeScope t true).2 } }

abbrev Steps : Career κ σ → Career κ σ → Prop := Relation.ReflTransGen Step

def undergo (s : Career κ σ) (t : Thread) (a : Activity ε α) : Career κ σ :=
  ⟨(s.client.run t a).2, none, s.journal ++ s.client.journal t a⟩

private theorem steps_run (p : Plan effects Unit) (going : s.ongoing = some (t, p)) (admits : s.client.store.Admits t) :
    Steps s ⟨(p.run (Installation.handle t) s.client).2, none,
      s.journal ++ p.trace (Installation.handle t) s.client⟩ := by
  induction p generalizing s with
  | done _ =>
    rw [Plan.trace, List.append_nil]
    exact .single .rests
  | ask call next ih =>
    have later := ih _ (s := s.proceed t call next) rfl (admits_handle admits call)
    rw [proceed, List.append_assoc] at later
    exact .head (.proceeds going admits) later

theorem steps_undergo (idle : s.ongoing = none) (admits : s.client.store.Admits t) (a : Application) :
    Steps s (s.undergo t (register a)) := by
  have done := steps_run (s := { s with ongoing := some (t, plan (register a)) }) _ rfl admits
  rw [plan, Plan.trace_map, map_eq_pure_bind, Plan.run_bind] at done
  exact .head (.begins t (.register a) idle) done

structure Sound (s : Career κ σ) (v : Tenure) : Prop where
  shown : Tenure.Shown s.client s.journal v
  carried : v.Carried
  ongoing : ∀ t p, s.ongoing = some (t, p) → Plan.Meets permanent (fun _ _ => True) p v

theorem sound_step (step : Step s s') {v : Tenure} (sound : s.Sound v) : ∃ v', s'.Sound v' ∧ v.Lasts v' := by
  cases step with
  | begins t d idle =>
    refine ⟨v, ⟨sound.shown, sound.carried, ?_⟩, .refl v⟩
    rintro _ _ ⟨⟩
    exact d.meets v
  | @proceeds t call next going admits =>
    obtain ⟨⟨faithful, allowed⟩, rest⟩ := sound.ongoing _ _ going
    obtain ⟨foretold, shown⟩ := sound.shown.handle admits faithful
    refine ⟨_, ⟨shown, allowed.carried _ sound.carried, ?_⟩, allowed.lasts _⟩
    rintro _ _ ⟨⟩
    exact rest _ _ ⟨foretold, rfl⟩
  | rests => exact ⟨v, ⟨sound.shown, sound.carried, nofun⟩, .refl v⟩
  | opensScope t admits => exact ⟨v, ⟨sound.shown.openScope admits, sound.carried, sound.ongoing⟩, .refl v⟩
  | commitsScope t admits => exact ⟨v, ⟨sound.shown.commitScope admits, sound.carried, sound.ongoing⟩, .refl v⟩

theorem sound_steps (steps : Steps s s') {v : Tenure} (sound : s.Sound v) : ∃ v', s'.Sound v' ∧ v.Lasts v' := by
  induction steps with
  | refl => exact ⟨v, sound, .refl v⟩
  | tail _ step ih =>
    obtain ⟨w, sound, lasts⟩ := ih
    obtain ⟨v', sound', lasts'⟩ := sound_step step sound
    exact ⟨v', sound', lasts.trans lasts'⟩

/-- What an attempt makes of the registration ids, as whoever is admitted then finds: if it came to its commit,
those are stored that it had sent to the service; otherwise nothing is stored of those that it made up. -/
structure Resolves (s : Career κ σ) (t : Thread) (a : Application) : Prop where
  reached : Steps s (s.undergo t (register a))
  stored : CameToCommit (s.client.run t (register a)).1 →
    ∃ request, (s.client.journal t (register a)).verifications = [request] ∧
      ∀ u, (s.undergo t (register a)).client.store.Admits u → ∀ space,
        ((s.undergo t (register a)).client.run u (get? (Account.registrationId space))).1 =
          .ok (some (request.registrationId space))
  unstored : ¬ CameToCommit (s.client.run t (register a)).1 →
    ∀ u, (s.undergo t (register a)).client.store.Admits u → ∀ space,
      ((s.undergo t (register a)).client.run u (get? (Account.registrationId space))).1 =
        (s.client.run t (get? (Account.registrationId space))).1

private theorem Sound.resolves {v : Tenure} (sound : s.Sound v) (idle : s.ongoing = none) (admits : s.client.store.Admits t)
    (a : Application) : s.Resolves t a := by
  obtain ⟨v', ends, shown⟩ := sound.shown.run admits (register_permanent a)
  replace ends : v.Ends (s.client.run t (register a)).1 v' := by
    unfold Installation.run
    cases result : ((register a).run.run (Installation.handle t) s.client).1 <;> rwa [result] at ends
  replace shown : Tenure.Shown (s.undergo t (register a)).client (s.undergo t (register a)).journal v' := shown
  refine ⟨steps_undergo idle admits a, ?_, ?_⟩
  · intro came
    obtain ⟨request, asked, stored⟩ := ends.1 came
    rw [shown.asked, sound.shown.asked, undergo, Journal.verifications_append] at asked
    refine ⟨request, List.append_cancel_left asked, fun u admits' space => ?_⟩
    exact (shown.read_registrationId admits' space).trans (stored space)
  · intro early u admits' space
    rw [shown.read_registrationId admits', ends.2 early, sound.shown.read_registrationId admits]

/-- Whatever is done for an account: identity keys that are stored stay for good, and all prekeys of their
namespace go out under them; registration ids are stored when an attempt comes to its commit, stay for
good, and are what the service is sent from then on. -/
theorem lasting {c : Installation κ σ} {m : Memory} (serves : c.store.Serves m) (before : Steps (start c) s)
    (later : Steps s s') (admits : s.client.store.Admits t) {u : Thread} (admits' : s'.client.store.Admits u) :
    (∀ space identity, (s.client.run t (Activity.store (.identityKeys space))).1 = .ok (some identity) →
      (s'.client.run u (Activity.store (.identityKeys space))).1 = .ok (some identity) ∧
      ∀ upload ∈ s'.journal.uploads space, upload.content.identityKey = Text.base64 identity.publicKey) ∧
    (∀ space id, (s.client.run t (get? (Account.registrationId space))).1 = .ok (some id) →
      (s'.client.run u (get? (Account.registrationId space))).1 = .ok (some id) ∧
      ∀ request ∈ s'.journal.verifications.drop s.journal.verifications.length, request.registrationId space = id) ∧
    ∀ a, s.ongoing = none → s.Resolves t a := by
  have initial : (start c).Sound (.of m []) := ⟨⟨m, serves, rfl⟩, nofun, nofun⟩
  obtain ⟨v, sound, -⟩ := sound_steps before initial
  obtain ⟨v', sound', lasts⟩ := sound_steps later sound
  refine ⟨?_, ?_, fun a idle => sound.resolves idle admits a⟩
  · intro space identity found
    rw [sound.shown.read_identity admits] at found
    have kept := lasts.identity space identity (Except.ok.inj found)
    refine ⟨by rw [sound'.shown.read_identity admits', kept], fun upload member => ?_⟩
    rw [← sound'.shown.uploads] at member
    obtain ⟨identity', there, under⟩ := sound'.carried space upload member
    obtain rfl := Option.some.inj (kept.symm.trans there)
    exact under
  · intro space id found
    rw [sound.shown.read_registrationId admits] at found
    refine ⟨by rw [sound'.shown.read_registrationId admits', lasts.registrationId space id found], ?_⟩
    obtain ⟨since, asked, agree⟩ := lasts.asked
    rw [← sound'.shown.asked, ← sound.shown.asked, asked, List.drop_left]
    exact fun request member => agree request member space id found

open Rehearsal in
/-- The service first refuses the keys, and has other identifiers at the second attempt. -/
private def reluctant : Installation KeyScript ServiceScript :=
  .rehearsed Installation.rehearsedKeys
    { ServiceScript.empty with
      verifications := [.usual, .answer ⟨⟨⟨2⟩⟩, ⟨⟨3⟩⟩, Application.rehearsed.number, false, false⟩]
      publications := [.deprecated] }

open Rehearsal in
private def tried (s : Career KeyScript ServiceScript) : Career KeyScript ServiceScript :=
  s.undergo ⟨0, none⟩ (register .rehearsed)

/-- The registration ids of an attempt that failed are forgotten. Those of the next one are sent by a third, and
the prekeys of all three go out under the same identity keys. -/
theorem lasting_after_refusal :
    ((tried (start reluctant)).client.run ⟨0, none⟩ (get? (Account.registrationId .aci))).1 = .ok none ∧
      (∀ request ∈ (tried (tried (tried (start reluctant)))).journal.verifications.drop 2,
        request.registrationId .aci = ⟨13⟩) ∧
      ∀ upload ∈ (tried (tried (tried (start reluctant)))).journal.uploads .aci,
        upload.content.identityKey = Text.base64 (Rehearsal.KeyScript.identity 0).publicKey := by
  have goesOn (s : Career _ _) (idle : s.ongoing = none) (admits : s.client.store.Admits ⟨0, none⟩) :
      Steps s (tried s) ∧ (tried s).client.store.Admits ⟨0, none⟩ :=
    ⟨steps_undergo idle admits _, admits_run admits _⟩
  have serves : reluctant.store.Serves .empty := rfl
  have admits : reluctant.store.Admits ⟨0, none⟩ := trivial
  obtain ⟨toFirst, admits₁⟩ := goesOn (start reluctant) rfl admits
  obtain ⟨toSecond, admits₂⟩ := goesOn _ rfl admits₁
  obtain ⟨toThird, admits₃⟩ := goesOn _ rfl admits₂
  have attempted : (start reluctant).Resolves ⟨0, none⟩ .rehearsed :=
    (lasting serves .refl .refl admits admits).2.2 .rehearsed rfl
  have kept := lasting serves (toFirst.trans toSecond) toThird admits₂ admits₃
  have failed : ¬ CameToCommit (reluctant.run ⟨0, none⟩ (register .rehearsed)).1 := by decide +kernel
  have new : (reluctant.run ⟨0, none⟩ (get? (Account.registrationId .aci))).1 = .ok none := by decide +kernel
  have found : ((tried (tried (start reluctant))).client.run ⟨0, none⟩ (Activity.store (.identityKeys .aci))).1 =
      .ok (some (Rehearsal.KeyScript.identity 0)) := by decide +kernel
  have assigned : ((tried (tried (start reluctant))).client.run ⟨0, none⟩ (get? (Account.registrationId .aci))).1 =
      .ok (some ⟨13⟩) := by decide +kernel
  have two : (tried (tried (start reluctant))).journal.verifications.length = 2 := by decide +kernel
  have forgotten : ((tried (start reluctant)).client.run ⟨0, none⟩ (get? (Account.registrationId .aci))).1 =
      (reluctant.run ⟨0, none⟩ (get? (Account.registrationId .aci))).1 :=
    attempted.unstored failed ⟨0, none⟩ admits₁ .aci
  refine ⟨forgotten.trans new, ?_, (kept.1 .aci _ found).2⟩
  rw [← two]
  exact (kept.2.1 .aci _ assigned).2

end Career
end Enrolment.Client
