import Enrolment.Proofs.Client.Contents
import Enrolment.Proofs.Client.Stages
/-!
What an attempt to enrol an account makes of everything but the account's keys. The stages up to the
keys change nothing that a later attempt does not put right when it binds identifiers itself
(`settled_alike`); the stage after them goes the same way wherever that is so (`conclusion_alike`).
-/
namespace Enrolment.Client

open Store Activity

/-! ## Archived sessions -/

def dormant (sessions : Table (Namespace × PeerAddress) Session) : Table (Namespace × PeerAddress) Session :=
  sessions.map fun row => (row.1, row.2.archive)

theorem dormant_archive (space : Namespace) (sessions : Table (Namespace × PeerAddress) Session) :
    dormant (Memory.archive space sessions) = dormant sessions := by
  rw [dormant, Memory.archive, List.map_map]
  apply List.map_congr_left
  intro row _
  simp only [Function.comp]
  split <;> rfl

theorem dormant_dormant (sessions : Table (Namespace × PeerAddress) Session) :
    dormant (dormant sessions) = dormant sessions := by
  rw [dormant, dormant, List.map_map]
  rfl

theorem archive_archive (sessions : Table (Namespace × PeerAddress) Session) :
    Memory.archive .pni (Memory.archive .aci sessions) = dormant sessions := by
  rw [dormant, Memory.archive, Memory.archive, List.map_map]
  apply List.map_congr_left
  intro row _
  obtain ⟨⟨space, address⟩, session⟩ := row
  cases space <;> rfl

/-! ## Contents that are alike -/

/-- The same but for what is set when identifiers are bound, and for the account's keys. -/
structure Pending (m n : Memory) : Prop where
  value : ∀ key, key ∉ boundKeys → m.values.get? key = n.values.get? key
  sessions : dormant m.sessions = dormant n.sessions
  recipientCount : m.recipientCount = n.recipientCount
  recipients : m.recipients = n.recipients
  groups : m.groups = n.groups

/-- The same but for the prekey ledgers and the account's keys. -/
structure Alike (m n : Memory) : Prop where
  value : ∀ key, key ∉ ledgerKeys → m.values.get? key = n.values.get? key
  sessions : m.sessions = n.sessions
  senderKeys : m.senderKeys = n.senderKeys
  recipientCount : m.recipientCount = n.recipientCount
  recipients : m.recipients = n.recipients
  groups : m.groups = n.groups

/-- Identifiers are bound, and nothing is left of what belonged to those before. -/
structure Settled (aci : Aci) (pni : Pni) (m : Memory) : Prop where
  registered : m.values.get? Account.registered.key = some (Account.registered.encode false)
  aci : m.values.get? Account.aci.key = some (Account.aci.encode aci)
  pni : m.values.get? Account.pni.key = some (Account.pni.encode pni)
  sessions : dormant m.sessions = m.sessions
  senderKeys : m.senderKeys = []

theorem Pending.refl (m : Memory) : Pending m m := ⟨fun _ _ => rfl, rfl, rfl, rfl, rfl⟩

theorem Pending.symm {m n : Memory} (pending : Pending m n) : Pending n m where
  value key other := (pending.value key other).symm
  sessions := pending.sessions.symm
  recipientCount := pending.recipientCount.symm
  recipients := pending.recipients.symm
  groups := pending.groups.symm

theorem Pending.trans {m n k : Memory} (first : Pending m n) (second : Pending n k) : Pending m k where
  value key other := (first.value key other).trans (second.value key other)
  sessions := first.sessions.trans second.sessions
  recipientCount := first.recipientCount.trans second.recipientCount
  recipients := first.recipients.trans second.recipients
  groups := first.groups.trans second.groups

theorem settled_alike {aci : Aci} {pni : Pni} {m n : Memory} (pending : Pending m n) (settled : Settled aci pni m)
    (settled' : Settled aci pni n) : Alike m n where
  value key other := by
    by_cases bound : key ∈ boundKeys
    · simp only [boundKeys, reboundKeys, List.mem_cons, other, or_false] at bound
      rcases bound with rfl | rfl | rfl
      · rw [settled.registered, settled'.registered]
      · rw [settled.aci, settled'.aci]
      · rw [settled.pni, settled'.pni]
    · exact pending.value key bound
  sessions := by rw [← settled.sessions, pending.sessions, settled'.sessions]
  senderKeys := by rw [settled.senderKeys, settled'.senderKeys]
  recipientCount := pending.recipientCount
  recipients := pending.recipients
  groups := pending.groups

/-! ## Up to the keys -/

variable {κ σ : Type} {c : Installation κ σ} {t : Thread} {m : Memory}

/-- What neither a write of some keys nor certain other calls make a difference to, an activity of such
calls keeps. -/
private theorem keeps_of_within {reads writes : List String} {other : Effect → Prop} {held : Memory → Prop} {ε α : Type}
    {a : Activity ε α} (calls : Calls (Within reads writes other) a)
    (written : ∀ key ∈ writes, ∀ m values, (∀ other, other ≠ key → values.get? other = m.values.get? other) → held m →
      held { m with values := values })
    (others : ∀ call m, other call → held m → call.IsFaithful ∧ ∀ answer m', Answers call m answer m' → held m')
    (start : held m) : Ensures exactly a (fun _ => held) (fun _ => held) m := by
  refine calls.ensures ?_ start
  intro call k within start
  cases within with
  | read =>
    refine ⟨trivial, ?_⟩
    rintro _ _ ⟨-, rfl⟩
    exact start
  | @write key value member plain =>
    refine ⟨plain, ?_⟩
    rintro _ _ ⟨-, rfl⟩
    exact written key member k _ (fun other apart => (Table.get?_put _ key other value).trans (if_neg apart.symm)) start
  | @erase key member =>
    refine ⟨trivial, ?_⟩
    rintro _ _ ⟨-, rfl⟩
    exact written key member k _ (fun other apart => (Table.get?_erase _ key other).trans (if_neg apart.symm)) start
  | other is => exact others call k is start

theorem verification_idle (a : Application) :
    Ensures exactly (verification a) (fun _ m' => m' = m) (fun _ m' => m' = m) m := by
  refine keeps_of_within (reach_verification a) (by simp) ?_ rfl
  intro call k is same
  subst same
  cases call with
  | keys request => exact ⟨trivial, fun _ _ answers => answers.2⟩
  | service request => exact ⟨trivial, fun _ _ answers => answers⟩
  | _ => exact is.elim

theorem rekeying_pending (p : Prepared) (aci : Aci) (pni : Pni) :
    Ensures exactly (rekeying p aci pni) (fun _ => Pending m) (fun _ => Pending m) m := by
  refine keeps_of_within (reach_rekeying p aci pni) (fun key member k values same pending => ?_)
    (fun call k is pending => ?_) (Pending.refl m)
  · refine { pending with value := fun other apart => (pending.value other apart).trans (same other ?_).symm }
    rintro rfl
    exact apart member
  cases call with
  | store op =>
    refine ⟨by cases op <;> first | trivial | exact (is.elim id id).elim, ?_⟩
    rintro _ _ ⟨-, rfl⟩
    cases op with
    | archiveSessions space =>
      exact { pending with sessions := pending.sessions.trans (dormant_archive space k.sessions).symm }
    | clearSenderKeys => exact { pending with }
    | identityKeys space => exact pending
    | putIdentityKeys space keys => exact { pending with }
    | putSignedPreKey space key => exact { pending with }
    | putLastResortPreKey space key => exact { pending with }
    | _ => exact (is.elim id id).elim
  | keys request => exact ⟨trivial, fun _ _ answers => answers.2 ▸ pending⟩
  | service request => exact ⟨trivial, fun _ _ answers => answers ▸ pending⟩
  | _ => exact (is.elim id id).elim

private theorem ensures_performed {op : Operation} {good : op.Result → Memory → Prop} {bad : Fault → Memory → Prop}
    (faithful : op.IsFaithful) (told : op.told (m.perform op).1 = (m.perform op).1)
    (held : either good bad (m.perform op).1 (m.perform op).2) : Ensures exactly (store op) good bad m := by
  apply ensures_store faithful
  rintro answer m' ⟨answers, rfl⟩
  rwa [answers.eq told]

private def written (m : Memory) (key : String) (value : Json) : Memory := { m with values := m.values.put key value }

private theorem get?_written (m : Memory) (key other : String) (value : Json) :
    (written m key value).values.get? other = if key = other then some value else m.values.get? other :=
  Table.get?_put _ key other value

private theorem ensures_written {α : Type} {slot : Slot α} [slot.Lawful] {a : α} {good : Unit → Memory → Prop}
    {bad : Fault → Memory → Prop} (held : good () (written m slot.key (slot.encode a))) :
    Ensures exactly (put slot a) good bad m :=
  ensures_performed (slot.isPlain_encode a) rfl held

private theorem ensures_ledgerWritten (space : Namespace) (edit : PreKeyLedger → PreKeyLedger) :
    Ensures exactly (updatePreKeys space edit) (fun _ m' => ∃ value, m' = written m (Account.preKeys space).key value)
      (fun _ _ => True) m := by
  have read : Calls (Within [(Account.preKeys space).key] [] fun _ => False) (preKeys space) := within_getOr (by simp)
  have same : Ensures exactly (preKeys space) (fun _ m' => m' = m) (fun _ m' => m' = m) m :=
    keeps_of_within read (by simp) (fun _ _ => False.elim) rfl
  refine Ensures.bind (same.mono (fun _ _ => id) fun _ _ _ => trivial) ?_
  rintro ledger _ rfl
  exact ensures_bind.2 (ensures_written (ensures_pure ⟨_, rfl⟩))

private structure Identified (aci : Aci) (pni : Pni) (sessions : Table (Namespace × PeerAddress) Session) (m : Memory) :
    Prop where
  registered : m.values.get? Account.registered.key = some (Account.registered.encode false)
  aci : m.values.get? Account.aci.key = some (Account.aci.encode aci)
  pni : m.values.get? Account.pni.key = some (Account.pni.encode pni)
  sessions : m.sessions = sessions

private theorem Identified.of_ledgers {aci : Aci} {pni : Pni} {sessions : Table (Namespace × PeerAddress) Session}
    (bound : Identified aci pni sessions m) {k : Memory} (value : ∀ key, key ∉ ledgerKeys → k.values.get? key = m.values.get? key)
    (same : k.sessions = m.sessions) : Identified aci pni sessions k where
  registered := (value _ (by decide)).trans bound.registered
  aci := (value _ (by decide)).trans bound.aci
  pni := (value _ (by decide)).trans bound.pni
  sessions := same.trans bound.sessions

private theorem bindIdentity_bound (aci : Aci) (pni : Pni) :
    Ensures exactly (bindIdentity aci pni) (fun _ m' => Identified aci pni (dormant m.sessions) m' ∧ m'.senderKeys = [])
      (fun _ _ => True) m := by
  refine ensures_bind.2 (ensures_during.2 (ensures_written ?_))
  refine ensures_bind.2 (ensures_during.2 (ensures_written ?_))
  refine ensures_bind.2 (ensures_during.2 (ensures_written ?_))
  have bound : Identified aci pni m.sessions (written (written (written m Account.registered.key
      (Account.registered.encode false)) Account.aci.key (Account.aci.encode aci)) Account.pni.key
      (Account.pni.encode pni)) :=
    ⟨by simp [get?_written, Account.registered, Account.aci, Account.pni, Slot.flag],
      by simp [get?_written, Account.aci, Account.pni], by simp [get?_written], rfl⟩
  generalize written (written (written m _ _) _ _) _ _ = k at bound
  have turn (space : Namespace) {sessions : Table (Namespace × PeerAddress) Session} {k : Memory}
      (bound : Identified aci pni sessions k) :
      Ensures exactly (do
          let _ ← during (.archivingSessions space) (store (.archiveSessions space))
          let _ ← updatePreKeys space fun ledger => { ledger with signedRegistered := false }
          return ForInStep.yield PUnit.unit)
        (fun step k' => step = .yield .unit ∧ Identified aci pni (Memory.archive space sessions) k') (fun _ _ => True) k := by
    refine ensures_bind.2 (ensures_during.2 (ensures_performed (by trivial) rfl ?_))
    apply Ensures.bind (ensures_ledgerWritten space _)
    rintro _ _ ⟨value, rfl⟩
    refine ensures_pure ⟨rfl, ?_⟩
    have archived : Identified aci pni (Memory.archive space sessions)
        { k with sessions := Memory.archive space k.sessions } :=
      { bound with sessions := congrArg _ bound.sessions }
    refine archived.of_ledgers ?_ rfl
    intro key apart
    have different : (Account.preKeys space).key ≠ key := fun same => apart (same ▸ preKeys_mem_ledgerKeys space)
    rw [get?_written, if_neg different]
    rfl
  rw [show Namespace.all = [.aci, .pni] from rfl, List.forIn_cons]
  refine ensures_bind.2 (Ensures.bind (turn .aci bound) ?_)
  rintro _ k ⟨rfl, bound⟩
  apply Ensures.bind (turn .pni bound)
  rintro _ k ⟨rfl, bound⟩
  rw [archive_archive] at bound
  refine ensures_pure (ensures_bind.2 (ensures_during.2 (ensures_performed (by trivial) rfl ?_)))
  exact ensures_pure ⟨{ bound with }, rfl⟩

private theorem Settled.of_ledgers {aci : Aci} {pni : Pni} {key : String} (member : key ∈ ledgerKeys) (m : Memory)
    (values : Table String Json) (same : ∀ other, other ≠ key → values.get? other = m.values.get? other)
    (settled : Settled aci pni m) : Settled aci pni { m with values := values } := by
  have apart : ∀ key ∈ ledgerKeys, Account.registered.key ≠ key ∧ Account.aci.key ≠ key ∧ Account.pni.key ≠ key := by
    decide
  obtain ⟨registered, aci, pni⟩ := apart key member
  exact { settled with
    registered := (same _ registered).trans settled.registered
    aci := (same _ aci).trans settled.aci
    pni := (same _ pni).trans settled.pni }

private theorem Settled.of_makesKeys {aci : Aci} {pni : Pni} {call : Effect} {m : Memory} (makes : MakesKeys call)
    (settled : Settled aci pni m) :
    call.IsFaithful ∧ ∀ answer m', Answers call m answer m' → Settled aci pni m' := by
  cases call with
  | store op =>
    refine ⟨by cases op <;> trivial, ?_⟩
    rintro _ _ ⟨-, rfl⟩
    cases op with
    | identityKeys space => exact settled
    | putIdentityKeys space keys => exact { settled with }
    | putSignedPreKey space key => exact { settled with }
    | putLastResortPreKey space key => exact { settled with }
    | _ => exact makes.elim
  | keys request => exact ⟨trivial, fun _ _ answers => answers.2 ▸ settled⟩
  | service request => exact ⟨trivial, fun _ _ answers => answers ▸ settled⟩
  | _ => exact makes.elim

theorem rekeying_settled (p : Prepared) (aci : Aci) (pni : Pni) :
    Ensures exactly (rekeying p aci pni) (fun _ => Settled aci pni) (fun _ _ => True) m := by
  apply Ensures.bind (ensures_mapError.2 (bindIdentity_bound aci pni))
  rintro _ k ⟨bound, cleared⟩
  have settled : Settled aci pni k :=
    ⟨bound.registered, bound.aci, bound.pni, by rw [bound.sessions, dormant_dormant], cleared⟩
  have kept (credentials : Service.Credentials) :
      Ensures exactly (provisionAll credentials Namespace.all) (fun _ => Settled aci pni) (fun _ => Settled aci pni) k :=
    keeps_of_within (reach_provisionAll credentials _) (fun _ => Settled.of_ledgers) (fun _ _ => Settled.of_makesKeys) settled
  exact ensures_mapError.2 ((kept _).mono (fun _ _ => id) fun _ _ _ => trivial)

/-! ## After the keys -/

theorem alike_perform {m n : Memory} (alike : Alike m n) {op : Operation}
    (within : Within gateReads concludedKeys Concludes (.store op)) :
    (m.perform op).1 = (n.perform op).1 ∧ Alike (m.perform op).2 (n.perform op).2 := by
  cases within with
  | @read key member =>
    have apart : ∀ key ∈ gateReads, key ∉ ledgerKeys := by decide
    exact ⟨congrArg Except.ok (alike.value key (apart key member)), alike⟩
  | @write key value member plain =>
    refine ⟨rfl, { alike with value := fun other apart => ?_ }⟩
    simp only [Memory.perform, Table.get?_put, alike.value other apart]
  | @erase key member =>
    refine ⟨rfl, { alike with value := fun other apart => ?_ }⟩
    simp only [Memory.perform, Table.get?_erase, alike.value other apart]
  | other is =>
    have updated (id : RecipientId) (f : Recipient → Recipient) :
        (m.updateRecipient id f).1 = (n.updateRecipient id f).1 ∧
          Alike (m.updateRecipient id f).2 (n.updateRecipient id f).2 := by
      unfold Memory.updateRecipient
      rw [alike.recipients]
      cases n.recipients.get? id with
      | none => exact ⟨rfl, alike⟩
      | some r => exact ⟨rfl, { alike with recipients := rfl }⟩
    cases op with
    | selfRecipient aci pni number =>
      simp only [Memory.perform, Memory.selfRecipient, alike.recipients, alike.recipientCount]
      cases Memory.findSelf? n.recipients aci pni number with
      | none => exact ⟨rfl, { alike with recipients := rfl, recipientCount := rfl }⟩
      | some id => exact ⟨rfl, { alike with recipients := rfl, recipientCount := rfl }⟩
    | markRegistered id => exact updated id _
    | setProfileSharing id enabled => exact updated id _
    | setProfileKey id key => exact updated id _
    | _ => exact (is.elim id id).elim

private structure Twins {κ' σ' : Type} (t u : Thread) (m n : Memory) (s : Installation κ σ × Journal)
    (s' : Installation κ' σ' × Journal) : Prop where
  turn : Turn s.1 t (Journal.replay m s.2)
  turn' : Turn s'.1 u (Journal.replay n s'.2)
  alike : Alike (Journal.replay m s.2) (Journal.replay n s'.2)
  queue : s.1.queue = s'.1.queue

private theorem Twins.handle {κ' σ' : Type} {u : Thread} {n : Memory} {s : Installation κ σ × Journal}
    {s' : Installation κ' σ' × Journal} (twins : Twins t u m n s s') {call : Effect}
    (within : Within gateReads concludedKeys Concludes call) :
    (Plan.noting (Installation.handle t) call s).1 = (Plan.noting (Installation.handle u) call s').1 ∧
      Twins t u m n (Plan.noting (Installation.handle t) call s).2 (Plan.noting (Installation.handle u) call s').2 := by
  have faithful : call.IsFaithful := by
    cases within with
    | read => trivial
    | write member plain => exact plain
    | erase => trivial
    | other is =>
      cases call with
      | store op => cases op <;> first | trivial | exact (is.elim id id).elim
      | _ => trivial
  obtain ⟨answers, turn⟩ := twins.turn.handle faithful
  obtain ⟨answers', turn'⟩ := twins.turn'.handle faithful
  rw [← Journal.replay_append] at turn turn'
  have unchanged (call : Effect) (elsewhere : ∀ op, call ≠ .store op) (answer answer' : call.Answer) :
      Alike (Journal.replay m (s.2 ++ [⟨call, answer⟩])) (Journal.replay n (s'.2 ++ [⟨call, answer'⟩])) := by
    rw [Journal.replay_append, Journal.replay_append]
    cases call with
    | store op => exact absurd rfl (elsewhere op)
    | _ => exact twins.alike
  cases call with
  | store op =>
    have told (given : Except Fault op.Result) : op.told given = given := by
      cases within with
      | read | write | erase => rfl
      | other is => cases op <;> first | rfl | exact (is.elim id id).elim
    obtain ⟨same, alike⟩ := alike_perform twins.alike within
    refine ⟨(answers.1.eq (told _)).trans (same.trans (answers'.1.eq (told _)).symm), turn, turn', ?_, twins.queue⟩
    show Alike (Journal.replay m (s.2 ++ _)) (Journal.replay n (s'.2 ++ _))
    rw [Journal.replay_append, Journal.replay_append]
    exact alike
  | enqueue job =>
    refine ⟨rfl, turn, turn', unchanged (.enqueue job) (by simp) _ _, ?_⟩
    exact congrArg (JobQueue.enqueue · job) twins.queue
  | enqueueChain jobs =>
    refine ⟨rfl, turn, turn', unchanged (.enqueueChain jobs) (by simp) _ _, ?_⟩
    exact congrArg (JobQueue.enqueueChain · jobs) twins.queue
  | clearBackoff =>
    refine ⟨rfl, turn, turn', unchanged .clearBackoff (by simp) _ _, ?_⟩
    exact congrArg (JobQueue.update · _) twins.queue
  | enterGate => exact ⟨rfl, turn, turn', unchanged (.enterGate) (by simp) _ _, twins.queue⟩
  | leaveGate => exact ⟨rfl, turn, turn', unchanged (.leaveGate) (by simp) _ _, twins.queue⟩
  | _ =>
    cases within with
    | other is => exact (is.elim id id).elim

theorem conclusion_alike {κ' σ' : Type} {d : Installation κ' σ'} {u : Thread} {n : Memory} (turn : Turn c t m)
    (turn' : Turn d u n) (alike : Alike m n) (queue : c.queue = d.queue) (a : Application) (p : Prepared) (aci : Aci)
    (pni : Pni) :
    (c.run t (conclusion a p aci pni)).1 = (d.run u (conclusion a p aci pni)).1 ∧
      (c.run t (conclusion a p aci pni)).2.queue = (d.run u (conclusion a p aci pni)).2.queue ∧
      Alike (Journal.replay m (c.journal t (conclusion a p aci pni)))
        (Journal.replay n (d.journal u (conclusion a p aci pni))) := by
  have start : Twins t u m n (c, []) (d, []) := ⟨turn, turn', alike, queue⟩
  obtain ⟨same, twins⟩ := Plan.Calls.run_alike (fun call _ _ within twins => Twins.handle twins within)
    (reach_conclusion a p aci pni) start
  rw [Plan.run_noting, Plan.run_noting] at same twins
  exact ⟨same, twins.queue, twins.alike⟩

end Enrolment.Client
