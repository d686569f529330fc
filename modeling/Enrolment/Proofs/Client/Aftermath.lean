import Enrolment.Proofs.Client.Contents
import Enrolment.Proofs.Client.Stages
import Enrolment.Proofs.Store.Entries
/-!
What a failed attempt leaves behind. The error tells it, whatever the store held before, and however
the account service and the source of keys behaved (`register_error_tells`): an attempt that did not
get past verification leaves everything as it was; one that stopped later does not count as registered
and touched nothing of what follows an enrolment; only where that follow-up work stopped does it count.
-/
namespace Enrolment.Client

open Store Activity

variable {κ σ ε α : Type} {c c' : Installation κ σ} {t : Thread}

/-! ## What stays as it is -/

def SparesKey (key : String) : Effect → Prop
  | .store op => op.IsFaithful ∧ op.edited? ≠ some key
  | _ => True

theorem sparesKey_of_within {reads writes : List String} {other : Effect → Prop} {a : Activity ε α}
    (calls : Calls (Within reads writes other) a) (others : ∀ op, other (.store op) → op.edited? = none) {key : String}
    (unwritten : key ∉ writes) : Calls (SparesKey key) a := by
  have none_ne : none ≠ some key := (Option.some_ne_none key).symm
  apply calls.mono
  intro e within
  cases within with
  | read member => exact ⟨trivial, none_ne⟩
  | write member plain => exact ⟨plain, fun same => unwritten (Option.some.inj same ▸ member)⟩
  | erase member => exact ⟨trivial, fun same => unwritten (Option.some.inj same ▸ member)⟩
  | other is =>
    cases e with
    | store op =>
      have quiet := others op is
      cases op with
      | write edited value | erase edited => cases quiet
      | _ => exact ⟨trivial, none_ne⟩
    | _ => trivial

private theorem quiet_of_rekeys {op : Operation} (is : Rekeys (.store op)) : op.edited? = none := by
  rcases is with is | is <;> cases op <;> first | rfl | exact is.elim

private theorem quiet_of_linksRecipient {op : Operation} (is : LinksRecipient (.store op)) : op.edited? = none := by
  cases op <;> first | rfl | exact is.elim

theorem sparesKey_bindIdentity (aci : Aci) (pni : Pni) {key : String} (unwritten : key ∉ boundKeys) :
    Calls (SparesKey key) (bindIdentity aci pni) :=
  sparesKey_of_within (reach_bindIdentity aci pni) (fun _ is => quiet_of_rekeys (Or.inl is)) unwritten

theorem sparesKey_rekeying (p : Prepared) (aci : Aci) (pni : Pni) {key : String} (unwritten : key ∉ boundKeys) :
    Calls (SparesKey key) (rekeying p aci pni) :=
  sparesKey_of_within (reach_rekeying p aci pni) (fun _ => quiet_of_rekeys) unwritten

theorem sparesKey_commitment (a : Application) (p : Prepared) (aci : Aci) (pni : Pni) {key : String}
    (unwritten : key ∉ Account.profileKey.key :: Account.registered.key :: committedKeys) :
    Calls (SparesKey key) (commitment a p aci pni) :=
  sparesKey_of_within (reach_commitment a p aci pni) (fun _ => quiet_of_linksRecipient) unwritten

theorem stored?_run {a : Activity ε α} {key : String} (calls : Calls (SparesKey key) a) (u : Thread) :
    (c.run t a).2.store.stored? u key = c.store.stored? u key := by
  apply Plan.Calls.run_same (fun c : Installation κ σ => c.store.stored? u key) _ calls
  intro call c spares
  cases call with
  | store op => exact DataStore.stored?_perform spares.2
  | _ => rfl

theorem store_verification (a : Application) : (c.run t (verification a)).2.store = c.store := by
  apply Plan.Calls.run_same (fun c : Installation κ σ => c.store) _ (reach_verification a)
  intro call c within
  cases within with
  | read member => exact DataStore.perform_read
  | write member | erase member => cases member
  | other is =>
    cases call with
    | store op => exact is.elim
    | _ => rfl

theorem uploads_verification (a : Application) (space : Namespace) :
    (c.journal t (verification a)).uploads space = [] := by
  apply List.filterMap_eq_nil_iff.2
  intro exchange member
  have within := (reach_verification a).of_mem_trace member
  obtain ⟨call, answer⟩ := exchange
  cases within with
  | read member | write member | erase member => rfl
  | other is =>
    cases call with
    | service request => cases request <;> first | rfl | exact is.elim
    | _ => rfl

/-! ## What is read -/

abbrev Readings := String → Except Fault (Option Json)

def Installation.readings (c : Installation κ σ) (t : Thread) : Readings := fun key => (c.store.perform t (.read key)).1

theorem readings_run {a : Activity ε α} {key : String} (calls : Calls (SparesKey key) a) :
    (c.run t a).2.readings t key = c.readings t key := by
  apply Plan.Calls.run_same (fun c : Installation κ σ => c.readings t key) _ calls
  intro call c spares
  cases call with
  | store op => exact DataStore.read_perform spares.2
  | _ => rfl

def Readings.set (r : Readings) (key : String) (value : Option Json) : Readings := fun k => if key = k then .ok value else r k

/-- Whatever is edited is edited or left, and everything else is left. -/
def rereading : Plan.Contract effects Readings where
  allowed call _ := call.IsFaithful
  answered
    | .store (.write key value), r, answer, r' =>
      answer = .ok () ∧ r' = r.set key (some value) ∨ (∃ e, answer = .error e) ∧ r' = r
    | .store (.erase key), r, answer, r' =>
      answer = .ok () ∧ r' = r.set key none ∨ (∃ e, answer = .error e) ∧ r' = r
    | _, r, _, r' => r' = r

private theorem readings_perform (c : Installation κ σ) (op : Operation) (value : Option Json) {key : String}
    (others : ∀ k, key ≠ k → op.edited? ≠ some k)
    (read : ((c.store.perform t op).2.perform t (.read key)).1 = .ok value) :
    Installation.readings { c with store := (c.store.perform t op).2 } t = (c.readings t).set key value := by
  funext k
  by_cases same : key = k
  · subst same
    exact read.trans (if_pos rfl).symm
  · exact (DataStore.read_perform (others k same)).trans (if_neg same).symm

theorem honours_rereading :
    Plan.Honours (Installation.handle (κ := κ) (σ := σ) t) rereading fun c r => c.readings t = r := by
  rintro call c _ rfl faithful
  have undone {op : Operation} {e : Fault} (failed : c.store.perform t op = (.error e, c.store)) :
      Installation.readings { c with store := (c.store.perform t op).2 } t = c.readings t := by
    rw [failed]
  have only {edited : String} : ∀ k, edited ≠ k → some edited ≠ some k := fun k different same =>
    different (Option.some.inj same)
  cases call with
  | store op =>
    cases op with
    | write key value =>
      rcases c.store.perform_write t key faithful with ⟨done, read⟩ | ⟨e, failed⟩
      · exact ⟨_, Or.inl ⟨done, rfl⟩, readings_perform c _ _ only read⟩
      · exact ⟨_, Or.inr ⟨⟨e, congrArg Prod.fst failed⟩, rfl⟩, undone failed⟩
    | erase key =>
      rcases c.store.perform_erase t key with ⟨done, read⟩ | ⟨e, failed⟩
      · exact ⟨_, Or.inl ⟨done, rfl⟩, readings_perform c _ _ only read⟩
      · exact ⟨_, Or.inr ⟨⟨e, congrArg Prod.fst failed⟩, rfl⟩, undone failed⟩
    | _ => exact ⟨_, rfl, funext fun k => DataStore.read_perform (Option.some_ne_none k).symm⟩
  | _ => exact ⟨_, rfl, rfl⟩

private theorem rereading_put {slot : Slot α} [slot.Lawful] {x : α} {r : Readings} {good : Unit → Readings → Prop}
    {bad : Fault → Readings → Prop} (stored : good () (r.set slot.key (some (slot.encode x)))) (failed : ∀ e, bad e r) :
    Ensures rereading (put slot x) good bad r := by
  apply ensures_store (slot.isPlain_encode x)
  intro answer r' answered
  rcases answered with ⟨rfl, rfl⟩ | ⟨⟨e, rfl⟩, rfl⟩
  · exact stored
  · exact failed e

private theorem rereading_remove {slot : Slot α} {r : Readings} {good : Unit → Readings → Prop}
    {bad : Fault → Readings → Prop} (stored : good () (r.set slot.key none)) (failed : ∀ e, bad e r) :
    Ensures rereading (remove slot) good bad r := by
  apply ensures_store trivial
  intro answer r' answered
  rcases answered with ⟨rfl, rfl⟩ | ⟨⟨e, rfl⟩, rfl⟩
  · exact stored
  · exact failed e

private theorem rereading_setPushToken {token : Option String} {r : Readings} {good : Unit → Readings → Prop}
    {bad : Fault → Readings → Prop}
    (stored : good () (r.set Account.pushToken.key (token.map Account.pushToken.encode))) (failed : ∀ e, bad e r) :
    Ensures rereading (setPushToken token) good bad r := by
  cases token with
  | some token => exact rereading_put stored failed
  | none => exact rereading_remove stored failed

def committedRows (a : Application) (p : Prepared) : List (String × Option Json) :=
  [(Account.number.key, some (Account.number.encode a.number)),
    (Account.pushToken.key, a.pushToken.map Account.pushToken.encode),
    (Account.servicePassword.key, some (Account.servicePassword.encode p.password)),
    ((Account.registrationId .aci).key, some ((Account.registrationId .aci).encode p.aciRegistrationId)),
    ((Account.registrationId .pni).key, some ((Account.registrationId .pni).encode p.pniRegistrationId)),
    (Account.deviceId.key, some (Account.deviceId.encode .primary)),
    (Account.registered.key, some (Account.registered.encode true))]

private theorem commitLocalState_rereads (a : Application) (p : Prepared) (r : Readings) :
    Ensures rereading (commitLocalState a p) (fun _ r' => ∀ row ∈ committedRows a p, r' row.1 = .ok row.2)
      (fun _ r' => r' Account.registered.key = r Account.registered.key) r := by
  refine ensures_bind.2 (rereading_put ?_ fun _ => rfl)
  refine ensures_bind.2 (rereading_setPushToken ?_ fun _ => rfl)
  refine ensures_bind.2 (rereading_put ?_ fun _ => rfl)
  refine ensures_bind.2 (rereading_put ?_ fun _ => rfl)
  refine ensures_bind.2 (rereading_put ?_ fun _ => rfl)
  refine ensures_bind.2 (rereading_put ?_ fun _ => rfl)
  refine ensures_during.2 (rereading_put ?_ fun _ => rfl)
  intro row member
  simp only [committedRows, List.mem_cons, List.not_mem_nil, or_false] at member
  rcases member with rfl | rfl | rfl | rfl | rfl | rfl | rfl <;> rfl

theorem rereading_spares {key : String} {call : Effect} (spares : SparesKey key call) {r r' : Readings} {answer : call.Answer}
    (answered : rereading.answered call r answer r') : r' key = r key := by
  cases call with
  | store op =>
    obtain ⟨-, other⟩ := spares
    have elsewhere {edited : String} (value : Option Json) (different : some edited ≠ some key) :
        (r.set edited value) key = r key := if_neg fun same => different (congrArg some same)
    cases op with
    | write edited value =>
      rcases answered with ⟨-, rfl⟩ | ⟨-, rfl⟩
      · exact elsewhere _ other
      · rfl
    | erase edited =>
      rcases answered with ⟨-, rfl⟩ | ⟨-, rfl⟩
      · exact elsewhere _ other
      · rfl
    | _ => exact congrFun answered key
  | _ => exact congrFun answered key

private theorem kept_of_calls {a : Activity ε α} {key : String} (calls : Calls (SparesKey key) a) (r : Readings) :
    Ensures rereading a (fun _ r' => r' key = r key) (fun _ r' => r' key = r key) r := by
  refine calls.ensures (fun call r' spares (kept : r' key = r key) => ⟨?_, ?_⟩) (rfl : r key = r key)
  · cases call with
    | store op => exact spares.1
    | _ => trivial
  · exact fun _ _ answered => (rereading_spares spares answered).trans kept

private theorem run_rereads {a : Activity ε α} {good : α → Readings → Prop} {bad : ε → Readings → Prop}
    (ensures : Ensures rereading a good bad (c.readings t)) :
    either good bad (c.run t a).1 ((c.run t a).2.readings t) := by
  obtain ⟨_, held, rfl⟩ := Plan.Meets.run honours_rereading ensures (t := c) rfl
  exact held

/-! ## The registered flag -/

/-- If the flag can be written at all, it is down when the keys are done, however far they got. -/
theorem rekeying_lowers (p : Prepared) (aci : Aci) (pni : Pni)
    (writable : (c.store.perform t (.write Account.registered.key (.bool false))).1 = .ok ()) :
    (c.run t (rekeying p aci pni)).2.readings t Account.registered.key = .ok (some (.bool false)) := by
  let lowered : Installation κ σ := { c with store := (c.store.perform t (.write Account.registered.key (.bool false))).2 }
  have low : lowered.readings t Account.registered.key = .ok (some (.bool false)) := by
    have plain : (Json.bool false).isPlain = true := rfl
    rcases c.store.perform_write t Account.registered.key plain with ⟨-, read⟩ | ⟨e, failed⟩
    · exact read
    · rw [failed] at writable
      cases writable
  have bound : c.run t (bindIdentity aci pni) = lowered.run t (rebinding aci pni) := by
    have cleared : c.run t (during .clearingRegistered (put Account.registered false)) = (.ok (), lowered) := by
      rw [Installation.run_during, Installation.run_put, show Account.registered.encode false = .bool false from rfl, writable]
      rfl
    rw [bindIdentity_eq, Installation.run_bind, cleared]
  have rebound : (c.run t (bindIdentity aci pni)).2.readings t Account.registered.key = .ok (some (.bool false)) := by
    have spared : Calls (SparesKey Account.registered.key) (rebinding aci pni) :=
      sparesKey_of_within (reach_rebinding aci pni) (fun _ is => quiet_of_rekeys (Or.inl is)) (by decide)
    rw [bound, readings_run spared, low]
  have published (credentials : Service.Credentials) :
      Calls (SparesKey Account.registered.key) (provisionAll credentials Namespace.all) :=
    sparesKey_of_within (reach_provisionAll _ _) (fun _ is => quiet_of_rekeys (Or.inr is)) (by decide)
  rcases c.run_bind_cases t (mapError (RegistrationError.stopped .identityBinding) (bindIdentity aci pni)) _ with
    ⟨e, -, same, -⟩ | ⟨_, -, same, -⟩
  · rw [rekeying, same, Installation.run_mapError]
    exact rebound
  · rw [rekeying, same, readings_run ((published _).mapError _), Installation.run_mapError]
    exact rebound

private theorem commitment_rereads (a : Application) (p : Prepared) (aci : Aci) (pni : Pni) (r : Readings) :
    Ensures rereading (commitment a p aci pni) (fun _ r' => ∀ row ∈ committedRows a p, r' row.1 = .ok row.2)
      (fun _ r' => r' Account.registered.key = r Account.registered.key) r := by
  have linked : Calls (SparesKey Account.registered.key) (linkRecipient aci pni a.number p.profileKey) :=
    sparesKey_of_within (reach_linkRecipient _ _ _ _) (fun _ => quiet_of_linksRecipient) (by decide)
  apply Ensures.bind (ensures_mapError.2 (kept_of_calls linked r))
  intro recipientId r' kept
  refine Ensures.bind (ensures_mapError.2 ((commitLocalState_rereads a p r').mono (fun _ _ rows => rows) ?_))
    fun _ _ rows => ensures_pure rows
  intro _ _ left
  exact left.trans kept

/-! ## What the error tells -/

/-- Nothing happened, apart from what the service was asked to verify. -/
structure Untouched (c c' : Installation κ σ) (j : Journal) : Prop where
  store : c'.store = c.store
  queue : c'.queue = c.queue
  unpublished : ∀ space, j.uploads space = []

/-- The account is not registered, if that could be noted, and nothing of what follows an enrolment was
touched, in the eyes of any thread. -/
structure Incomplete (c c' : Installation κ σ) (t : Thread) : Prop where
  unregistered : (c.store.perform t (.write Account.registered.key (.bool false))).1 = .ok () →
    (c'.run t (getOr Account.registered false)).1 = .ok false
  queue : c'.queue = c.queue
  entries : ∀ key ∈ Account.profileName.key :: followUpKeys, ∀ u, c'.store.stored? u key = c.store.stored? u key

/-- The account is registered, with what the application brought and what was prepared for it. -/
structure Committed (c : Installation κ σ) (t : Thread) (a : Application) (p : Prepared) : Prop where
  registered : (c.run t (getOr Account.registered false)).1 = .ok true
  number : (c.run t (get? Account.number)).1 = .ok (some a.number)
  pushToken : (c.run t (get? Account.pushToken)).1 = .ok a.pushToken
  servicePassword : (c.run t (get? Account.servicePassword)).1 = .ok (some p.password)
  aciRegistrationId : (c.run t (get? (Account.registrationId .aci))).1 = .ok (some p.aciRegistrationId)
  pniRegistrationId : (c.run t (get? (Account.registrationId .pni))).1 = .ok (some p.pniRegistrationId)
  deviceId : (c.run t (get? Account.deviceId)).1 = .ok (some .primary)

/-- What an error says of the client that an attempt leaves behind. -/
def Tells (c c' : Installation κ σ) (t : Thread) (a : Application) (j : Journal) (e : RegistrationError) : Prop :=
  match e.step? with
  | none => Untouched c c' j
  | some .followUpScheduling => ∃ p, (c.run t (prepare a)).1 = .ok p ∧ Committed c' t a p
  | some _ => Incomplete c c' t

theorem run_getOr_eq (c : Installation κ σ) (t : Thread) (slot : Slot α) (default : α) :
    (c.run t (getOr slot default)).1 = ((c.readings t slot.key).bind slot.interpret).map (·.getD default) := by
  rw [Installation.run_getOr, Installation.run_get?]
  rfl

theorem get?_of_reading {slot : Slot α} [slot.Lawful] {x : α} (read : c.readings t slot.key = .ok (some (slot.encode x))) :
    (c.run t (get? slot)).1 = .ok (some x) := by
  rw [Installation.run_get?, show (c.store.perform t (.read slot.key)).1 = _ from read]
  exact slot.interpret_encode x

private theorem reads_committed {a : Application} {p : Prepared}
    (rows : ∀ row ∈ committedRows a p, c.readings t row.1 = .ok row.2) {slot : Slot α} [slot.Lawful] {value : Option α}
    (row : (slot.key, value.map slot.encode) ∈ committedRows a p) : (c.run t (get? slot)).1 = .ok value := by
  cases value with
  | none =>
    rw [Installation.run_get?, show (c.store.perform t (.read slot.key)).1 = _ from rows _ row]
    rfl
  | some x => exact get?_of_reading (rows _ row)

private theorem committed_of_rows {a : Application} {p : Prepared}
    (rows : ∀ row ∈ committedRows a p, c.readings t row.1 = .ok row.2) : Committed c t a p where
  registered := by
    rw [run_getOr_eq, rows (_, some (Account.registered.encode true)) (by simp [committedRows])]
    rfl
  number := reads_committed rows (by simp [committedRows])
  pushToken := reads_committed rows (by simp [committedRows])
  servicePassword := reads_committed rows (by simp [committedRows])
  aciRegistrationId := reads_committed rows (by simp [committedRows])
  pniRegistrationId := reads_committed rows (by simp [committedRows])
  deviceId := reads_committed rows (by simp [committedRows])

private theorem untouched_verification (a : Application) :
    Untouched c (c.run t (verification a)).2 (c.journal t (verification a)) :=
  ⟨store_verification a, queue_run (sparesQueue_verification a), uploads_verification a⟩

private theorem followUp_apart : ∀ key ∈ Account.profileName.key :: followUpKeys,
    key ∉ boundKeys ∧ key ∉ Account.profileKey.key :: Account.registered.key :: committedKeys := by decide

private theorem incomplete_rekeying (p : Prepared) (aci : Aci) (pni : Pni) :
    Incomplete c (c.run t (rekeying p aci pni)).2 t where
  unregistered writable := by
    rw [run_getOr_eq, rekeying_lowers p aci pni writable]
    rfl
  queue := queue_run (sparesQueue_rekeying p aci pni)
  entries key late := stored?_run (sparesKey_rekeying p aci pni (followUp_apart key late).1)

private theorem Incomplete.verified {j : Journal} {c₁ : Installation κ σ} (incomplete : Incomplete c₁ c' t)
    (untouched : Untouched c c₁ j) : Incomplete c c' t where
  unregistered writable := incomplete.unregistered (untouched.store ▸ writable)
  queue := incomplete.queue.trans untouched.queue
  entries key late u := untouched.store ▸ incomplete.entries key late u

private theorem Incomplete.commitment (incomplete : Incomplete c c' t) {a : Application} {p : Prepared} {aci : Aci} {pni : Pni}
    {e : RegistrationError} (failed : (c'.run t (commitment a p aci pni)).1 = .error e) :
    Incomplete c (c'.run t (Client.commitment a p aci pni)).2 t where
  unregistered writable := by
    have kept := run_rereads (commitment_rereads a p aci pni (c'.readings t))
    rw [failed] at kept
    have before := incomplete.unregistered writable
    rw [run_getOr_eq] at before ⊢
    rwa [show (c'.run t (Client.commitment a p aci pni)).2.readings t Account.registered.key = _ from kept]
  queue := (queue_run (sparesQueue_commitment a p aci pni)).trans incomplete.queue
  entries key late u := (stored?_run (sparesKey_commitment a p aci pni (followUp_apart key late).2) u).trans
    (incomplete.entries key late u)

private theorem committed_commitment {a : Application} {p : Prepared} {aci : Aci} {pni : Pni} {recipientId : RecipientId}
    (done : (c.run t (commitment a p aci pni)).1 = .ok recipientId) :
    ∀ row ∈ committedRows a p, (c.run t (commitment a p aci pni)).2.readings t row.1 = .ok row.2 := by
  have rows := run_rereads (commitment_rereads a p aci pni (c.readings t))
  rwa [done] at rows

private theorem committed_followUp {a : Application} {p : Prepared} {recipientId : RecipientId}
    (rows : ∀ row ∈ committedRows a p, c.readings t row.1 = .ok row.2) :
    Committed (c.run t (followUp a recipientId)).2 t a p := by
  have apart : ∀ key ∈ committedKeys ++ [Account.registered.key], key ∉ followUpKeys := by decide
  apply committed_of_rows
  intro row member
  have named : row.1 ∈ committedKeys ++ [Account.registered.key] := List.mem_map_of_mem (f := (·.1)) member
  have spared : Calls (SparesKey row.1) (followUp a recipientId) :=
    sparesKey_of_within (reach_followUp a recipientId) (fun _ is => is.elim) (apart _ named)
  rw [readings_run spared]
  exact rows row member

theorem committed_conclusion {a : Application} {p : Prepared} {aci : Aci} {pni : Pni} {ended : RecipientId × Bool}
    (done : (c.run t (conclusion a p aci pni)).1 = .ok ended) : Committed (c.run t (conclusion a p aci pni)).2 t a p := by
  rcases c.run_bind_cases t (commitment a p aci pni) (followUp a) with ⟨e, -, same, -⟩ | ⟨recipientId, linked, same, -⟩
  · cases (congrArg Prod.fst same).symm.trans done
  · rw [conclusion, same]
    exact committed_followUp (committed_commitment linked)

private theorem tells_conclusion (incomplete : Incomplete c c' t) {a : Application} {p : Prepared} {aci : Aci} {pni : Pni}
    (prepared : (c.run t (prepare a)).1 = .ok p) {e : RegistrationError} (j : Journal)
    (failed : (c'.run t (conclusion a p aci pni)).1 = .error e) :
    Tells c (c'.run t (conclusion a p aci pni)).2 t a j e := by
  unfold Tells
  rcases c'.run_bind_cases t (commitment a p aci pni) (followUp a) with ⟨e', stopped, same, -⟩ | ⟨recipientId, done, same, -⟩
  · rw [conclusion, same] at failed ⊢
    obtain rfl := Except.error.inj failed
    rcases step?_of_commitment stopped with step | step <;> rw [step] <;> exact incomplete.commitment stopped
  · rw [conclusion, same] at failed ⊢
    rw [step?_of_followUp failed]
    exact ⟨p, prepared, committed_followUp (committed_commitment done)⟩

/-- Whatever went wrong, the error of an attempt tells what it did to the client. -/
theorem register_error_tells {a : Application} {e : RegistrationError} (failed : (c.run t (register a)).1 = .error e) :
    Tells c (c.run t (register a)).2 t a (c.journal t (register a)) e := by
  have course := attempted c t a
  generalize c.run t (register a) = outcome, c.journal t (register a) = j at course failed ⊢
  have untouched := untouched_verification (c := c) (t := t) a
  cases course with
  | unverified first =>
    obtain rfl := Except.error.inj failed
    rw [first] at untouched
    rwa [Tells, step?_of_verification (congrArg Prod.fst first)]
  | @unkeyed p verified _ c₁ c₂ first second =>
    obtain rfl := Except.error.inj failed
    rw [first] at untouched
    have incomplete := (incomplete_rekeying (c := c₁) (t := t) p verified.aci verified.pni).verified untouched
    rw [second] at incomplete
    rcases step?_of_rekeying (congrArg Prod.fst second) with step | step <;> rwa [Tells, step]
  | @keyed p verified provisioned c₁ c₂ c₃ result first second third =>
    obtain rfl : result = .error e := by
      cases result with
      | error e' => exact congrArg Except.error (Except.error.inj failed)
      | ok x => cases failed
    rw [first] at untouched
    have incomplete := (incomplete_rekeying (c := c₁) (t := t) p verified.aci verified.pni).verified untouched
    rw [second] at incomplete
    obtain rfl : (c₂.run t (conclusion a p verified.aci verified.pni)).2 = c₃ := congrArg Prod.snd third
    exact tells_conclusion incomplete (prepare_of_verification (congrArg Prod.fst first)) _ (congrArg Prod.fst third)

open Rehearsal in
/-- A registered client with a session that nobody can read. -/
private def damaged : Installation KeyScript ServiceScript :=
  { Installation.rehearsed Installation.rehearsedKeys .empty with
    store := .database (.new { Tables.empty with
      values := [("account.registered", .text "true")], sessions := [((.aci, "somebody"), .integer 7)] } false) }

/-- New identifiers cannot be bound where a session cannot be archived, and the account does not count as registered
any more. -/
theorem register_error_tells_of_damaged_session :
    (damaged.run ⟨0, none⟩ (getOr Account.registered false)).1 = .ok true ∧
      Incomplete damaged (damaged.run ⟨0, none⟩ (register .rehearsed)).2 ⟨0, none⟩ ∧
      ((damaged.run ⟨0, none⟩ (register .rehearsed)).2.run ⟨0, none⟩ (getOr Account.registered false)).1 = .ok false := by
  have failed : (damaged.run ⟨0, none⟩ (register .rehearsed)).1 =
      .error (.stopped .identityBinding ⟨[.archivingSessions .aci], .medium .sql⟩) := by decide +kernel
  have writable : (damaged.store.perform ⟨0, none⟩ (.write Account.registered.key (.bool false))).1 = .ok () := by
    decide +kernel
  have incomplete : Incomplete damaged (damaged.run ⟨0, none⟩ (register .rehearsed)).2 ⟨0, none⟩ :=
    register_error_tells failed
  exact ⟨by decide +kernel, incomplete, incomplete.unregistered writable⟩

end Enrolment.Client
