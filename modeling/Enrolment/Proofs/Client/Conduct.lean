import Enrolment.Client.Account
import Enrolment.Proofs.Client.Holdings
import Enrolment.Proofs.Client.Run
/-!
What the common steps of activities ensure of the holdings: reading and writing values of the account,
editing a ledger, and work that does not touch the holdings at all.
-/
namespace Enrolment.Client

open Store Activity Holdings

variable {always : Holdings → Prop} {ε α : Type} {h : Holdings}

/-! ## Harmless work -/

def Harmless (call : Effect) : Prop := call.IsFaithful ∧ ∀ answer h, after call answer h = h

theorem ensures_of_harmless {a : Activity ε α} (calls : Calls Harmless a) (held : always h)
    {good : α → Holdings → Prop} {bad : ε → Holdings → Prop} (returned : ∀ x, good x h) (failed : ∀ e, bad e h) :
    Ensures (contract always) a good bad h := by
  have kept : Ensures (contract always) a (fun _ k => k = h) (fun _ k => k = h) h := by
    refine calls.ensures ?_ rfl
    rintro call k ⟨faithful, same⟩ rfl
    exact ⟨⟨faithful, held⟩, fun answer k' answered => answered.2.trans (same answer k)⟩
  apply kept.mono
  · rintro x k rfl
    exact returned x
  · rintro e k rfl
    exact failed e

theorem harmless_store {op : Operation} (faithful : op.IsFaithful) (same : ∀ answer h, after (.store op) answer h = h) :
    Calls Harmless (store op) :=
  calls_store ⟨faithful, same⟩

/-! ## Values -/

variable {slot : Slot α}

theorem ensures_get? {good : Option α → Holdings → Prop} {bad : Fault → Holdings → Prop} (steady : slot.key ∈ steadyKeys)
    (held : always h) (found : ∀ o, slot.interpret (h.value slot.key) = .ok o → good o h)
    (failed : ∀ e, slot.interpret (h.value slot.key) = .error e → bad e h) :
    Ensures (contract always) (get? slot) good bad h := by
  refine ensures_bind.2 (ensures_store ⟨trivial, held⟩ ?_)
  rintro answer h' ⟨foretold, same⟩
  obtain rfl : h = h' := same.symm
  rw [foretold steady]
  show either good bad (slot.interpret (h.value slot.key)) h
  cases read : slot.interpret (h.value slot.key) with
  | ok o => exact found o read
  | error e => exact failed e read

theorem ensures_done {op : Operation} {x : op.Result} {good : op.Result → Holdings → Prop}
    {bad : Fault → Holdings → Prop} (faithful : op.IsFaithful) (held : always h)
    (sure : ∀ answer, Foretells (.store op) h answer → answer = .ok x) (done : good x (after (.store op) (.ok x) h)) :
    Ensures (contract always) (store op) good bad h := by
  refine ensures_store ⟨faithful, held⟩ ?_
  rintro answer h' ⟨foretold, same⟩
  rw [sure answer foretold] at same ⊢
  rw [same]
  exact done

theorem ensures_put [slot.Lawful] {good : Unit → Holdings → Prop} {bad : Fault → Holdings → Prop} {a : α}
    (own : slot.key ∈ ownKeys) (held : always h) (written : good () (h.write slot.key (some (slot.encode a)))) :
    Ensures (contract always) (put slot a) good bad h := by
  refine ensures_done (slot.isPlain_encode a) held (fun _ sure => sure) ?_
  show good () (if slot.key ∈ ownKeys then h.write slot.key (some (slot.encode a)) else h)
  rwa [if_pos own]

theorem ensures_made {request : KeyRequest} {good : request.Result → Holdings → Prop} {bad : Fault → Holdings → Prop}
    (quiet : ∀ answer, after (.keys request) answer h = h) (held : always h)
    (made : ∀ a, request.IsKept a → good a h) (failed : ∀ e, bad e h) :
    Ensures (contract always) (keys request) good bad h := by
  refine ensures_keys ⟨trivial, held⟩ ?_
  rintro answer h' ⟨asked, same⟩
  obtain rfl : h = h' := (same.trans (quiet answer)).symm
  cases answer with
  | ok a => exact made a (asked a rfl)
  | error e => exact failed e

/-! ## Prekey ledgers -/

theorem preKeys_mem_steadyKeys (space : Namespace) : (Account.preKeys space).key ∈ steadyKeys := by
  cases space <;> decide

def Holdings.ledger? (h : Holdings) (space : Namespace) : Except Fault PreKeyLedger :=
  ((Account.preKeys space).interpret (h.value (Account.preKeys space).key)).map (·.getD .initial)

theorem ensures_preKeys {space : Namespace} {good : PreKeyLedger → Holdings → Prop} {bad : Fault → Holdings → Prop}
    (held : always h) (found : ∀ ledger, h.ledger? space = .ok ledger → good ledger h)
    (failed : ∀ e, h.ledger? space = .error e → bad e h) : Ensures (contract always) (preKeys space) good bad h := by
  refine ensures_bind.2 (ensures_get? (preKeys_mem_steadyKeys space) held ?_ ?_)
  · intro o read
    exact ensures_pure (found _ (by rw [Holdings.ledger?, read]; rfl))
  · intro e read
    exact failed e (by rw [Holdings.ledger?, read]; rfl)

def Holdings.setLedger (h : Holdings) (space : Namespace) (ledger : PreKeyLedger) : Holdings :=
  h.write (Account.preKeys space).key (some ledger.toJson)

theorem setLedger_setLedger (h : Holdings) (space : Namespace) (first second : PreKeyLedger) :
    (h.setLedger space first).setLedger space second = h.setLedger space second := by
  refine Holdings.ext (funext ?_) rfl rfl rfl rfl rfl
  intro key
  simp only [Holdings.setLedger, Holdings.write]
  split <;> rfl

theorem ledger?_setLedger (h : Holdings) (space : Namespace) (ledger : PreKeyLedger) :
    (h.setLedger space ledger).ledger? space = .ok ledger := by
  have read := (Account.preKeys space).interpret_encode ledger
  simp only [Holdings.ledger?, Holdings.setLedger, Holdings.write, if_true]
  rw [show ledger.toJson = (Account.preKeys space).encode ledger from rfl, read]
  rfl

theorem ensures_updatePreKeys {space : Namespace} {edit : PreKeyLedger → PreKeyLedger}
    {good : PreKeyLedger → Holdings → Prop} {bad : Fault → Holdings → Prop} (held : always h)
    (edited : ∀ ledger, h.ledger? space = .ok ledger → good (edit ledger) (h.setLedger space (edit ledger)))
    (failed : ∀ e, h.ledger? space = .error e → bad e h) :
    Ensures (contract always) (updatePreKeys space edit) good bad h := by
  refine ensures_bind.2 (ensures_preKeys held ?_ failed)
  intro ledger found
  exact ensures_bind.2 (ensures_put (List.mem_cons_of_mem _ (preKeys_mem_steadyKeys space)) held (ensures_pure (edited ledger found)))

/-- What binding does for each namespace: afterwards none of its prekeys counts as published. -/
theorem ensures_unmarked {space : Namespace} {state : PUnit} {good : ForInStep PUnit → Holdings → Prop}
    {bad : Fault → Holdings → Prop} (held : always h)
    (unmarked : ∀ ledger, h.ledger? space = .ok ledger →
      good (.yield state) (h.setLedger space { ledger with signedRegistered := false }))
    (failed : ∀ e, bad e h) :
    Ensures (contract always) (do
        let _ ← during (.archivingSessions space) (store (.archiveSessions space))
        let _ ← updatePreKeys space fun ledger => { ledger with signedRegistered := false }
        return ForInStep.yield state) good bad h := by
  refine ensures_bind.2 (ensures_during.2 ?_)
  refine ensures_of_harmless (harmless_store (by trivial) fun _ _ => rfl) held ?_ fun e => failed _
  intro _
  refine ensures_bind.2 (ensures_updatePreKeys held ?_ fun e _ => failed e)
  intro ledger found
  exact ensures_pure (unmarked ledger found)

/-! ## What a run is seen to return -/

namespace Holdings

variable {κ σ : Type} {c : Installation κ σ} {t : Thread} {j : Journal}

theorem Shown.returns (shown : Shown c j h) (admits : c.store.Admits t) {a : Activity Fault α} {x : α}
    (ensures : Ensures (contract fun _ => True) a (fun y _ => y = x) (fun _ _ => False) h) : (c.run t a).1 = .ok x := by
  obtain ⟨h', held, -⟩ := shown.run admits ensures
  cases result : (c.run t a).1 with
  | ok y =>
    rw [result] at held
    exact congrArg Except.ok held
  | error e =>
    rw [result] at held
    exact held.elim

theorem Shown.returnsStored (shown : Shown c j h) (admits : c.store.Admits t) {op : Operation} (faithful : op.IsFaithful)
    {x : op.Result} (sure : ∀ answer, Foretells (.store op) h answer → answer = .ok x) :
    (c.run t (store op)).1 = .ok x :=
  shown.returns admits (ensures_done faithful trivial sure rfl)

theorem Shown.reads (shown : Shown c j h) (admits : c.store.Admits t) {slot : Slot α} [slot.Lawful]
    (own : slot.key ∈ ownKeys) {a : α} (there : h.value slot.key = some (slot.encode a)) :
    (c.run t (get? slot)).1 = .ok (some a) := by
  obtain ⟨-, m, serves, rfl⟩ := shown
  have answered := (serves.perform admits (show Operation.IsFaithful (.read slot.key) from trivial)).1.eq rfl
  have found : m.values.get? slot.key = some (slot.encode a) := (if_pos own).symm.trans there
  rw [Installation.run_get?, answered]
  show slot.interpret (m.values.get? slot.key) = _
  rw [found, slot.interpret_encode]

theorem Shown.preKeys (shown : Shown c j h) (admits : c.store.Admits t) (space : Namespace) :
    (c.run t (Client.preKeys space)).1 = h.ledger? space := by
  have found : Ensures (contract fun _ => True) (Client.preKeys space) (fun ledger _ => h.ledger? space = .ok ledger)
      (fun e _ => h.ledger? space = .error e) h :=
    ensures_preKeys trivial (fun _ => id) fun _ => id
  obtain ⟨_, held, -⟩ := shown.run admits found
  cases result : (c.run t (Client.preKeys space)).1 <;> rw [result] at held <;> exact held.symm

end Holdings
end Enrolment.Client
