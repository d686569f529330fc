import Enrolment.Client.Membership
import Enrolment.Proofs.Client.Enrolled
import Enrolment.Proofs.Client.Roster
/-!
An account is enrolled while other work of the client goes on. Attempts to enrol it come one after
another and may be given up at any call; errands of any number of threads are carried on between any
two calls. Whatever happens, an account that counts as registered is enrolled in full, and the
service has the prekeys that are stored (`registered_enrolled`).
-/
namespace Enrolment.Client

open Store Activity

/-! ## Errands -/

/-- Work that goes on beside an enrolment. -/
inductive Errand where
  | evaluateGate
  | changeGroup (id : GroupId) (change : MembershipChange) (attempts : UInt32) (backoff : Nat)
  | pushSession (space : Namespace) (address : PeerAddress) (state : Bytes)
  | archiveSessions (space : Namespace)
  | putSenderKey (sender : PeerAddress) (distribution : Uuid) (record : Bytes)
  | clearSenderKeys
  | setProfileName (name : String)
  | establishPin
  | optOutOfPin
  | setRecoveryPassword (password : String)
  | setRegistrationLock (enabled : Bool)
  | setDiscoverability (d : Discoverability)
  | setProfileKey (key : ProfileKey)

def plan {ε α : Type} (a : Activity ε α) : Plan effects Unit := (fun _ => ()) <$> a.run

def Errand.plan : Errand → Plan effects Unit
  | evaluateGate => Client.plan evaluate
  | changeGroup id change attempts backoff => Client.plan (changeWithRetry id change attempts backoff)
  | pushSession space address state => Client.plan (store (.pushSession space address state))
  | archiveSessions space => Client.plan (store (.archiveSessions space))
  | putSenderKey sender distribution record => Client.plan (store (.putSenderKey sender distribution record))
  | clearSenderKeys => Client.plan (store .clearSenderKeys)
  | setProfileName name => Client.plan (put Account.profileName name)
  | establishPin => Client.plan setPinEstablished
  | optOutOfPin => Client.plan Client.optOutOfPin
  | setRecoveryPassword password => Client.plan (put Account.recoveryPassword password)
  | setRegistrationLock enabled => Client.plan (put Account.registrationLock enabled)
  | setDiscoverability d => Client.plan (put Account.discoverability d)
  | setProfileKey key => Client.plan (put Account.profileKey key)

def Bearable (call : Effect) : Prop :=
  Harmless call ∨ ∃ key, call = .store (.write Account.profileKey.key (Account.profileKey.encode key))

private theorem harmless_put {α : Type} {slot : Slot α} [slot.Lawful] (apart : slot.key ∉ ownKeys) (a : α) :
    Calls Harmless (put slot a) :=
  calls_put ⟨slot.isPlain_encode a, fun _ _ => if_neg apart⟩

private theorem harmless_changeMembership (id : GroupId) (change : MembershipChange) :
    Calls Harmless (changeMembership id change) := by
  have guarded : Calls Harmless (changeGuarded id change) := by
    rw [changeGuarded_eq]
    apply Calls.bind ((harmless_store (by trivial) fun _ _ => rfl).mapError _)
    intro stored
    unfold MembershipChange.revise
    dsimp only
    split
    · exact calls_pure _
    · split
      · exact Calls.bind ((harmless_store (by trivial) fun _ _ => rfl).mapError _) fun _ => calls_pure _
      · exact calls_throw _
  apply Plan.Calls.bind (Plan.calls_call ⟨trivial, fun _ _ => rfl⟩)
  intro outcome
  split
  · apply Plan.Calls.bind guarded
    intro result
    exact Plan.Calls.bind (Plan.calls_call ⟨trivial, fun _ _ => rfl⟩) fun _ => Plan.calls_pure _
  · exact Plan.calls_pure _
  · exact Plan.calls_pure _
  · exact Plan.calls_pure _

private theorem harmless_retryMembership (id : GroupId) (change : MembershipChange) (attempts : UInt32) (backoff : Nat)
    (attempt : UInt32) : Calls Harmless (retryMembership id change attempts backoff attempt) := by
  induction attempt using retryMembership.induct with
  | case1 attempt ih =>
    rw [retryMembership]
    apply Plan.Calls.bind (harmless_changeMembership id change)
    intro result
    split
    · split
      · apply Plan.Calls.bind (Plan.calls_call ⟨trivial, fun _ _ => rfl⟩)
        intro _
        split
        · exact ih ‹_›
        · exact Plan.calls_pure _
      · exact Plan.calls_pure _
    · exact Plan.calls_pure _

private theorem bearable_plan {ε α : Type} {a : Activity ε α} (calls : Calls Harmless a) :
    Plan.Calls Bearable (Client.plan a) :=
  Plan.Calls.map (calls.mono fun _ => Or.inl)

theorem Errand.bearable (e : Errand) : Plan.Calls Bearable e.plan := by
  cases e with
  | evaluateGate =>
    exact bearable_plan (reach_evaluate.mono fun e within => within.harmless (by decide) asksQueue_harmless)
  | changeGroup id change attempts backoff => exact bearable_plan (harmless_retryMembership id change attempts backoff 1)
  | pushSession space address state =>
    apply bearable_plan
    exact harmless_store trivial fun _ _ => rfl
  | archiveSessions space =>
    apply bearable_plan
    exact harmless_store trivial fun _ _ => rfl
  | putSenderKey sender distribution record =>
    apply bearable_plan
    exact harmless_store trivial fun _ _ => rfl
  | clearSenderKeys =>
    apply bearable_plan
    exact harmless_store trivial fun _ _ => rfl
  | setProfileName name =>
    apply bearable_plan
    exact harmless_put (by decide) name
  | establishPin =>
    refine bearable_plan (Calls.bind ?_ ?_)
    · exact harmless_put (by decide) true
    · intro _
      exact harmless_put (by decide) false
  | optOutOfPin =>
    refine bearable_plan (Calls.bind ?_ ?_)
    · exact harmless_put (by decide) true
    · intro _
      exact harmless_put (by decide) false
  | setRecoveryPassword password =>
    apply bearable_plan
    exact harmless_put (by decide) password
  | setRegistrationLock enabled =>
    apply bearable_plan
    exact harmless_put (by decide) enabled
  | setDiscoverability d =>
    apply bearable_plan
    exact harmless_put (by decide) d
  | setProfileKey key => exact Plan.Calls.map (calls_put (Or.inr ⟨key, rfl⟩))

namespace Holdings

def rekey (h : Holdings) (key : ProfileKey) : Holdings :=
  h.write Account.profileKey.key (some (Account.profileKey.encode key))

theorem Consistent.rekey {h : Holdings} (consistent : h.Consistent) (key : ProfileKey) : (h.rekey key).Consistent := by
  have other {k : String} (different : Account.profileKey.key ≠ k) : (h.rekey key).value k = h.value k := if_neg different
  intro marked
  rw [other (by decide)] at marked
  have enrolled := consistent marked
  exact {
    aci := enrolled.aci.imp fun _ => (other (by decide)).trans
    pni := enrolled.pni.imp fun _ => (other (by decide)).trans
    number := enrolled.number.imp fun _ => (other (by decide)).trans
    servicePassword := enrolled.servicePassword.imp fun _ => (other (by decide)).trans
    deviceId := (other (by decide)).trans enrolled.deviceId
    registrationId := fun space =>
      (enrolled.registrationId space).imp fun _ => (other (by cases space <;> decide)).trans
    profileKey := ⟨key, by simp [Holdings.rekey]⟩
    published := fun space => published_write (by decide) _ (enrolled.published space) }

private theorem write_rekey (h : Holdings) (key : ProfileKey) (k : String) (value : Option Json) :
    (h.rekey key).write k value = h.write k value ∨ (h.rekey key).write k value = (h.write k value).rekey key := by
  by_cases same : Account.profileKey.key = k
  · refine Or.inl (Holdings.ext (funext ?_) rfl rfl rfl rfl rfl)
    intro other
    simp only [Holdings.rekey, value_write, same]
    split <;> rfl
  · refine Or.inr (Holdings.ext (funext ?_) rfl rfl rfl rfl rfl)
    intro other
    simp only [Holdings.rekey, value_write]
    grind

private theorem after_rekey (call : Effect) (answer : call.Answer) (h : Holdings) (key : ProfileKey) :
    after call answer (h.rekey key) = after call answer h ∨
      after call answer (h.rekey key) = (after call answer h).rekey key := by
  cases call with
  | store op =>
    cases op with
    | write k value =>
      simp only [after]
      split
      · exact write_rekey h key k _
      · exact Or.inr rfl
    | erase k =>
      simp only [after]
      split
      · exact write_rekey h key k none
      · exact Or.inr rfl
    | _ => exact Or.inr rfl
  | keys request =>
    cases request with
    | preKeyId => cases answer <;> exact Or.inr rfl
    | _ => exact Or.inr rfl
  | service request => cases request <;> exact Or.inr rfl
  | _ => exact Or.inr rfl

private theorem foretells_of_rekey {call : Effect} {answer : call.Answer} {h : Holdings} {key : ProfileKey}
    (foretold : Foretells call (h.rekey key) answer) : Foretells call h answer := by
  have steady : ∀ k ∈ steadyKeys, (h.rekey key).value k = h.value k := by
    have apart : ∀ k ∈ steadyKeys, Account.profileKey.key ≠ k := by decide
    intro k member
    exact if_neg (apart k member)
  cases call with
  | store op =>
    cases op with
    | read k => exact fun member => by rw [foretold member, steady k member]
    | _ => exact foretold
  | _ => exact foretold

/-- Nothing that an attempt may rely on depends on the profile key, so it goes on as before when
someone else stores one. -/
theorem meets_rekey {p : Plan effects Unit} {h : Holdings} (key : ProfileKey)
    (meets : Plan.Meets (contract Consistent) (fun _ h => h.Consistent) p h) :
    Plan.Meets (contract Consistent) (fun _ h => h.Consistent) p (h.rekey key) := by
  induction p generalizing h with
  | done _ => exact Consistent.rekey meets key
  | ask call next ih =>
    obtain ⟨⟨faithful, consistent⟩, rest⟩ := meets
    refine ⟨⟨faithful, consistent.rekey key⟩, ?_⟩
    rintro answer h' ⟨foretold, rfl⟩
    have continued := rest answer _ ⟨foretells_of_rekey foretold, rfl⟩
    rcases after_rekey call answer h key with same | same
    · rw [same]
      exact continued
    · rw [same]
      exact ih answer continued

end Holdings

/-! ## Scenes -/

structure Scene (κ σ : Type) where
  client : Installation κ σ
  attempt : Option (Thread × Plan effects Unit)
  errands : List (Thread × Plan effects Unit)
  journal : Journal

namespace Scene

variable {κ σ : Type}

def answer (s : Scene κ σ) (t : Thread) (call : Effect) : Scene κ σ :=
  { s with client := (s.client.handle t call).2, journal := s.journal ++ [⟨call, (s.client.handle t call).1⟩] }

/-- What can happen next. While a thread has a transaction open on a database, others wait. -/
inductive Step : Scene κ σ → Scene κ σ → Prop
  | applies {s : Scene κ σ} (t : Thread) (a : Application) : s.attempt = none →
    Step s { s with attempt := some (t, plan (register a)) }
  | proceeds {s : Scene κ σ} {t : Thread} {call : Effect} {next : call.Answer → Plan effects Unit} :
    s.attempt = some (t, .ask call next) → s.client.store.Admits t →
    Step s { s.answer t call with attempt := some (t, next (s.client.handle t call).1) }
  | rests {s : Scene κ σ} : Step s { s with attempt := none }
  | setsOut {s : Scene κ σ} (t : Thread) (e : Errand) : Step s { s with errands := (t, e.plan) :: s.errands }
  | goesOn {s : Scene κ σ} {t : Thread} {call : Effect} {next : call.Answer → Plan effects Unit}
    {before after : List (Thread × Plan effects Unit)} :
    s.errands = before ++ (t, .ask call next) :: after → s.client.store.Admits t →
    Step s { s.answer t call with errands := before ++ (t, next (s.client.handle t call).1) :: after }
  | opensScope {s : Scene κ σ} (t : Thread) : s.client.store.Admits t →
    Step s { s with client := { s.client with store := (s.client.store.openScope t).2 } }
  | commitsScope {s : Scene κ σ} (t : Thread) : s.client.store.Admits t →
    Step s { s with client := { s.client with store := (s.client.store.closeScope t true).2 } }
  /-- Other threads come and go at the locks. -/
  | stirs {s : Scene κ σ} (yard : Lock.Yard) : Step s { s with client := { s.client with yard } }

inductive Reachable (c : Installation κ σ) : Scene κ σ → Prop
  | start : Reachable c ⟨c, none, [], []⟩
  | step {s s' : Scene κ σ} : Reachable c s → Step s s' → Reachable c s'

theorem Reachable.attempts {c : Installation κ σ} {s : Scene κ σ} (reachable : Reachable c s) (idle : s.attempt = none)
    {t : Thread} (admits : s.client.store.Admits t) (a : Application) :
    Reachable c { s with client := (s.client.run t (register a)).2, attempt := none,
                         journal := s.journal ++ s.client.journal t (register a) } := by
  have goThrough (p : Plan effects Unit) (s : Scene κ σ) (admits : s.client.store.Admits t)
      (going : Reachable c { s with attempt := some (t, p) }) :
      Reachable c { s with client := (p.run (Installation.handle t) s.client).2, attempt := none,
                           journal := s.journal ++ p.trace (Installation.handle t) s.client } := by
    induction p generalizing s with
    | done _ => simpa [Plan.run, Plan.trace] using going.step .rests
    | ask call next ih =>
      have later := ih (s.client.handle t call).1 (s.answer t call) (admits_handle admits call)
        (going.step (.proceeds rfl admits))
      simpa [Plan.run, Plan.trace, answer] using later
  have done := goThrough (plan (register a)) s admits (reachable.step (.applies t a idle))
  rwa [plan, Plan.trace_map, map_eq_pure_bind, Plan.run_bind] at done

structure Sound (s : Scene κ σ) (h : Holdings) : Prop where
  shown : Holdings.Shown s.client s.journal h
  consistent : h.Consistent
  attempt : ∀ t p, s.attempt = some (t, p) →
    Plan.Meets (Holdings.contract Holdings.Consistent) (fun _ h => h.Consistent) p h
  errands : ∀ errand ∈ s.errands, Plan.Calls Bearable errand.2

private theorem consistent_of_meets {p : Plan effects Unit} {h : Holdings}
    (meets : Plan.Meets (Holdings.contract Holdings.Consistent) (fun _ h => h.Consistent) p h) : h.Consistent := by
  cases p with
  | done _ => exact meets
  | ask call next => exact meets.1.2

theorem sound_step {s s' : Scene κ σ} (step : Step s s') {h : Holdings} (sound : s.Sound h) : ∃ h', s'.Sound h' := by
  cases step with
  | applies t a idle =>
    refine ⟨h, sound.shown, sound.consistent, ?_, sound.errands⟩
    rintro _ _ ⟨⟩
    refine Plan.meets_map.2 (Plan.Meets.mono ?_ (register_ensures a sound.consistent))
    intro result h held
    cases result <;> exact held
  | @proceeds t call next going admits =>
    obtain ⟨⟨faithful, -⟩, rest⟩ := sound.attempt _ _ going
    obtain ⟨foretold, shown⟩ := sound.shown.handle admits faithful
    have meets := rest _ _ ⟨foretold, rfl⟩
    refine ⟨_, shown, consistent_of_meets meets, ?_, sound.errands⟩
    rintro _ _ ⟨⟩
    exact meets
  | rests => exact ⟨h, sound.shown, sound.consistent, nofun, sound.errands⟩
  | setsOut t e =>
    refine ⟨h, sound.shown, sound.consistent, sound.attempt, ?_⟩
    intro errand member
    rcases List.mem_cons.1 member with rfl | member
    · exact e.bearable
    · exact sound.errands errand member
  | @goesOn t call next before after is admits =>
    have calls := sound.errands (t, .ask call next) (by simp [is])
    obtain ⟨bearable, rest⟩ := calls
    have others : ∀ errand ∈ before ++ (t, next (s.client.handle t call).1) :: after, Plan.Calls Bearable errand.2 := by
      intro errand member
      rcases List.mem_append.1 member with member | member
      · exact sound.errands errand (by simp [is, member])
      · rcases List.mem_cons.1 member with rfl | member
        · exact rest _ () trivial
        · exact sound.errands errand (by simp [is, member])
    rcases bearable with ⟨faithful, same⟩ | ⟨key, rfl⟩
    · obtain ⟨-, shown⟩ := sound.shown.handle admits faithful
      rw [same] at shown
      exact ⟨h, shown, sound.consistent, sound.attempt, others⟩
    · obtain ⟨-, shown⟩ := sound.shown.handle admits
        (show Effect.IsFaithful (.store (.write _ _)) from Account.profileKey.isPlain_encode key)
      refine ⟨h.rekey key, shown, sound.consistent.rekey key, ?_, others⟩
      intro t p going
      exact Holdings.meets_rekey key (sound.attempt t p going)
  | opensScope t admits => exact ⟨h, sound.shown.openScope admits, sound.consistent, sound.attempt, sound.errands⟩
  | commitsScope t admits => exact ⟨h, sound.shown.commitScope admits, sound.consistent, sound.attempt, sound.errands⟩
  | stirs yard => exact ⟨h, ⟨sound.shown.honest, sound.shown.served⟩, sound.consistent, sound.attempt, sound.errands⟩

theorem sound_of_reachable {c : Installation κ σ} (empty : c.store.Serves .empty) (honest : c.keyFactory.Honest)
    {s : Scene κ σ} (reachable : Reachable c s) : ∃ h, s.Sound h := by
  induction reachable with
  | start =>
    refine ⟨_, ⟨honest, _, empty, rfl⟩, ?_, nofun, nofun⟩
    intro registered
    simp [Holdings.of, Memory.empty, Table.get?_nil] at registered
  | step _ step ih =>
    obtain ⟨h, sound⟩ := ih
    exact sound_step step sound

end Scene

/-! ## What threads find stored -/

variable {κ σ : Type}

/-- An account is enrolled in full, as a thread reads it, and the last prekeys that the service took
are the stored ones, under the ids that the ledgers hold. -/
structure Installation.Enrolled (c : Installation κ σ) (t : Thread) (j : Journal) : Prop where
  aci : ∃ aci, (c.run t (get? Account.aci)).1 = .ok (some aci)
  pni : ∃ pni, (c.run t (get? Account.pni)).1 = .ok (some pni)
  number : ∃ number, (c.run t (get? Account.number)).1 = .ok (some number)
  servicePassword : ∃ password, (c.run t (get? Account.servicePassword)).1 = .ok (some password)
  deviceId : (c.run t (get? Account.deviceId)).1 = .ok (some ⟨1⟩)
  registrationId : ∀ space, ∃ id, (c.run t (get? (Account.registrationId space))).1 = .ok (some id)
  profileKey : ∃ key, (c.run t (get? Account.profileKey)).1 = .ok (some key)
  published : ∀ space, ∃ identity key spare,
    (c.run t (Activity.store (.identityKeys space))).1 = .ok (some identity) ∧
    (c.run t (Activity.store (.signedPreKey space key.id))).1 = .ok (some key) ∧
    (c.run t (Activity.store (.lastResortPreKey space spare.key.id))).1 = .ok (some spare) ∧
    (c.run t (preKeys space)).1 =
      .ok ⟨some key.id.next, some key.id, some spare.key.id.next, some spare.key.id, true⟩ ∧
    lastAccepted? (j.uploads space) = some (.of identity.publicKey (.of key.id key.publicKey key.signature)
      (.of spare.key.id spare.key.publicKey spare.key.signature))

namespace Holdings

variable {c : Installation κ σ} {t : Thread} {j : Journal} {h : Holdings}

private theorem exists_of_map {α β : Type} {f : α → β} {answer : Except Fault (Option α)} {b : β}
    (told : answer.map (·.map f) = .ok (some b)) : ∃ a, answer = .ok (some a) ∧ f a = b := by
  rcases answer with _ | _ | a
  · cases told
  · cases told
  · exact ⟨a, rfl, Option.some.inj (Except.ok.inj told)⟩

theorem Shown.enrolled (shown : Shown c j h) (admits : c.store.Admits t) (enrolled : h.Enrolled)
    (uploads : h.uploads = j.uploads) : c.Enrolled t j where
  aci := enrolled.aci.imp fun _ there => shown.reads admits (by decide) there
  pni := enrolled.pni.imp fun _ there => shown.reads admits (by decide) there
  number := enrolled.number.imp fun _ there => shown.reads admits (by decide) there
  servicePassword := enrolled.servicePassword.imp fun _ there => shown.reads admits (by decide) there
  deviceId := shown.reads admits (by decide) enrolled.deviceId
  registrationId space := (enrolled.registrationId space).imp fun _ there =>
    shown.reads admits (by cases space <;> decide) there
  profileKey := enrolled.profileKey.imp fun _ there => shown.reads admits (by decide) there
  published space := by
    obtain ⟨identity, key, spare, there, stored, storedSpare, counted, sent⟩ := enrolled.published space
    -- the times of the two prekeys may be told as texts show them, all else is told as it is stored
    obtain ⟨foretold, -⟩ := shown.handle admits
      (show Effect.IsFaithful (.store (.signedPreKey space key.id)) from trivial)
    obtain ⟨foretold', -⟩ := shown.handle admits
      (show Effect.IsFaithful (.store (.lastResortPreKey space spare.key.id)) from trivial)
    obtain ⟨key', loaded, same⟩ := exists_of_map (foretold.trans (by rw [stored]; rfl))
    obtain ⟨spare', loadedSpare, same'⟩ := exists_of_map (foretold'.trans (by rw [storedSpare]; rfl))
    obtain ⟨id, publicKey, -, signature, -⟩ := SignedPreKey.mk.inj same
    have inner : spare'.key.civil = spare.key.civil := congrArg LastResortPreKey.key same'
    obtain ⟨id', publicKey', -, signature', -⟩ := SignedPreKey.mk.inj inner
    rw [← id] at loaded counted sent
    rw [← id'] at loadedSpare counted sent
    rw [← publicKey, ← signature, ← publicKey', ← signature'] at sent
    refine ⟨identity, key', spare', ?_, loaded, loadedSpare, ?_, by rwa [← uploads]⟩
    · exact shown.returnsStored admits (by trivial) (fun _ foretold => foretold.trans (congrArg Except.ok there))
    · exact (shown.preKeys admits space).trans counted

end Holdings

/-- Whenever an account counts as registered, it is enrolled in full, whatever attempts and errands there were on a
client that was new, and wherever they are. The source of keys may fail at will, but is assumed to give a prekey the
id that it was asked for (`KeyFactory.Honest`). -/
theorem registered_enrolled {c : Installation κ σ} (new : c.store.Serves .empty) (honest : c.keyFactory.Honest)
    {s : Scene κ σ} (reachable : Scene.Reachable c s) {t : Thread} (admits : s.client.store.Admits t)
    (registered : (s.client.run t (getOr Account.registered false)).1 = .ok true) : s.client.Enrolled t s.journal := by
  obtain ⟨h, sound⟩ := Scene.sound_of_reachable new honest reachable
  have marked : h.value Account.registered.key = some (.bool true) := by
    have read : Ensures (Holdings.contract fun _ => True) (getOr Account.registered false)
        (fun answer _ => answer = true → h.value Account.registered.key = some (.bool true)) (fun _ _ => True) h := by
      refine ensures_bind.2 (ensures_get? (by decide) trivial (fun o found => ensures_pure ?_) fun _ _ => trivial)
      intro true_
      obtain rfl : o = some true := by
        cases o with
        | none => cases true_
        | some answer => exact congrArg some true_
      exact Slot.interpret_flag_eq_true.1 found
    obtain ⟨_, held, -⟩ := sound.shown.run admits read
    rw [registered] at held
    exact held rfl
  obtain ⟨honest, m, serves, rfl⟩ := sound.shown
  exact Holdings.Shown.enrolled ⟨honest, m, serves, rfl⟩ admits (sound.consistent marked) rfl

/-- A first attempt that nothing interrupts leaves the account registered, in memory. -/
theorem registered_enrolled_after_attempt :
    let c := Installation.rehearsed Installation.rehearsedKeys .empty
    let done := (c.run ⟨0, none⟩ (register .rehearsed)).2
    (done.run ⟨0, none⟩ (getOr Account.registered false)).1 = .ok true ∧
      done.Enrolled ⟨0, none⟩ (c.journal ⟨0, none⟩ (register .rehearsed)) := by
  have admits : (Installation.rehearsed Installation.rehearsedKeys .empty).store.Admits ⟨0, none⟩ := trivial
  have registered : (((Installation.rehearsed Installation.rehearsedKeys .empty).run ⟨0, none⟩ (register .rehearsed)).2.run
      ⟨0, none⟩ (getOr Account.registered false)).1 = .ok true := by decide +kernel
  refine ⟨registered, ?_⟩
  exact registered_enrolled (c := Installation.rehearsed Installation.rehearsedKeys .empty) rfl
    Rehearsal.KeyScript.factory_honest (Scene.Reachable.start.attempts rfl admits .rehearsed)
    (admits_run admits _) registered

theorem Installation.not_enrolled_of_absent {c : Installation κ σ} {t : Thread} {space : Namespace} {l : PreKeyLedger}
    {id : PreKeyId} (ledger : (c.run t (preKeys space)).1 = .ok l) (inUse : l.activeSigned = some id)
    (absent : (c.run t (Activity.store (.signedPreKey space id))).1 = .ok none) (j : Journal) : ¬ c.Enrolled t j := by
  intro enrolled
  obtain ⟨identity, key, spare, -, loaded, -, counted, -⟩ := enrolled.published space
  rw [ledger, Except.ok.injEq] at counted
  subst counted
  obtain rfl : key.id = id := Option.some.inj inUse
  rw [absent] at loaded
  cases loaded

/-- Where a source of keys gives other ids to its prekeys than it is asked for, an account is registered and no
prekey is stored under the id that is in use. -/
theorem registered_not_enrolled_of_misnaming :
    ∃ s, Installation.misnamed.store.Serves .empty ∧ Scene.Reachable .misnamed s ∧ s.client.store.Admits ⟨0, none⟩ ∧
      (s.client.run ⟨0, none⟩ (getOr Account.registered false)).1 = .ok true ∧
      ¬ s.client.Enrolled ⟨0, none⟩ s.journal := by
  have admits : Installation.misnamed.store.Admits ⟨0, none⟩ := trivial
  have reachable := Scene.Reachable.start.attempts rfl admits .rehearsed
  have registered : ((Installation.misnamed.run ⟨0, none⟩ (register .rehearsed)).2.run ⟨0, none⟩
      (getOr Account.registered false)).1 = .ok true := by decide +kernel
  have ledger : ((Installation.misnamed.run ⟨0, none⟩ (register .rehearsed)).2.run ⟨0, none⟩ (preKeys .aci)).1 =
      .ok ⟨some ⟨1⟩, some ⟨16777215⟩, some ⟨2⟩, some ⟨1⟩, true⟩ := by decide +kernel
  have absent : ((Installation.misnamed.run ⟨0, none⟩ (register .rehearsed)).2.run ⟨0, none⟩
      (Activity.store (.signedPreKey .aci ⟨16777215⟩))).1 = .ok none := by decide +kernel
  refine ⟨_, rfl, reachable, admits_run admits _, registered, ?_⟩
  exact Installation.not_enrolled_of_absent ledger rfl absent _

end Enrolment.Client
