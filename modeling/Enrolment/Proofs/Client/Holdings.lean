import Enrolment.Proofs.Client.Contents
import Enrolment.Proofs.Store.Slot
/-!
The part of a client's state that belongs to the account itself: its values, its keys, and what the
service was sent of them. Other work of a client leaves this part alone, so that what is shown of it
holds however that work is mixed in.
-/
namespace Enrolment.Client

open Store

def steadyKeys : List String :=
  [Account.aci.key, Account.pni.key, Account.number.key, Account.servicePassword.key, Account.deviceId.key,
    Account.registered.key, (Account.registrationId .aci).key, (Account.registrationId .pni).key,
    (Account.preKeys .aci).key, (Account.preKeys .pni).key]

/-- The keys of the values that an enrolment is made of. The profile key may change at any time. -/
def ownKeys : List String := Account.profileKey.key :: steadyKeys

@[ext]
structure Holdings where
  value : String → Option Json
  identity : Namespace → Option IdentityKeys
  signed : Namespace → PreKeyId → Option SignedPreKey
  lastResort : Namespace → PreKeyId → Option LastResortPreKey
  uploads : Namespace → List Upload
  drawn : List PreKeyId

namespace Holdings

def of (m : Memory) (j : Journal) : Holdings where
  value key := if key ∈ ownKeys then m.values.get? key else none
  identity space := m.identities.get? space
  signed space id := m.signed.get? (space, id)
  lastResort space id := m.lastResort.get? (space, id)
  uploads := j.uploads
  drawn := j.drawn

def write (h : Holdings) (key : String) (value : Option Json) : Holdings :=
  { h with value := fun k => if key = k then value else h.value k }

@[simp] theorem value_write (h : Holdings) (key k : String) (value : Option Json) :
    (h.write key value).value k = if key = k then value else h.value k := rfl

def after : (call : Effect) → call.Answer → Holdings → Holdings
  | .store (.write key value), _, h => if key ∈ ownKeys then h.write key (some value) else h
  | .store (.erase key), _, h => if key ∈ ownKeys then h.write key none else h
  | .store (.putIdentityKeys space keys), _, h =>
    { h with identity := fun other => if space = other then some keys else h.identity other }
  | .store (.putSignedPreKey space key), _, h =>
    { h with signed := fun other id => if (space, key.id) = (other, id) then some key else h.signed other id }
  | .store (.putLastResortPreKey space key), _, h =>
    { h with lastResort := fun other id => if (space, key.key.id) = (other, id) then some key else h.lastResort other id }
  | .keys .preKeyId, .ok id, h => { h with drawn := h.drawn ++ [id] }
  | .service (.publish space content _), answer, h =>
    { h with uploads := fun other =>
        if space = other then h.uploads other ++ [⟨content, answer.toOption.isSome⟩] else h.uploads other }
  | _, _, h => h

def Foretells : (call : Effect) → Holdings → call.Answer → Prop
  | .store (.read key), h, answer => key ∈ steadyKeys → answer = .ok (h.value key)
  | .store (.write _ _), _, answer => answer = .ok ()
  | .store (.identityKeys space), h, answer => answer = .ok (h.identity space)
  | .store (.signedPreKey space id), h, answer =>
    answer.map (·.map SignedPreKey.civil) = .ok ((h.signed space id).map SignedPreKey.civil)
  | .store (.lastResortPreKey space id), h, answer =>
    answer.map (·.map LastResortPreKey.civil) = .ok ((h.lastResort space id).map LastResortPreKey.civil)
  | .store (.putIdentityKeys _ _), _, answer => answer = .ok ()
  | .store (.putSignedPreKey _ _), _, answer => answer = .ok ()
  | .store (.putLastResortPreKey _ _), _, answer => answer = .ok ()
  | .keys request, _, answer => ∀ made, answer = .ok made → request.IsKept made
  | _, _, _ => True

private theorem of_append_quiet (m : Memory) (j : Journal) (exchange : Plan.Exchange effects)
    (silent : ∀ space, Journal.upload? space exchange = none) (undrawn : Journal.drawn? exchange = none) :
    of m (j ++ [exchange]) = of m j := by
  have uploads : Journal.uploads (j ++ [exchange]) = j.uploads := by
    funext space
    simp [Journal.uploads_append, Journal.uploads_singleton, silent]
  have drawn : Journal.drawn (j ++ [exchange]) = j.drawn := by
    simp [Journal.drawn_append, Journal.drawn_singleton, undrawn]
  unfold of
  rw [uploads, drawn]

theorem of_perform (m : Memory) (j : Journal) {op : Operation} {answer : Except Fault op.Result}
    (answers : op.Matches answer (m.perform op).1) :
    Foretells (.store op) (of m j) answer ∧
      of (m.perform op).2 (j ++ [⟨.store op, answer⟩]) = after (.store op) answer (of m j) := by
  rw [of_append_quiet _ j ⟨.store op, answer⟩ (fun _ => rfl) rfl]
  cases op with
  | read key =>
    refine ⟨fun steady => ?_, rfl⟩
    rw [answers.eq rfl]
    simp [of, Memory.perform, ownKeys, steady]
  | write key value =>
    refine ⟨answers.eq rfl, ?_⟩
    by_cases own : key ∈ ownKeys <;> ext k <;> simp [of, Memory.perform, after, write, own, Table.get?_put] <;> grind
  | erase key =>
    refine ⟨trivial, ?_⟩
    by_cases own : key ∈ ownKeys <;> ext k <;> simp [of, Memory.perform, after, write, own, Table.get?_erase] <;> grind
  | putIdentityKeys space keys => exact ⟨answers.eq rfl, by simp [of, Memory.perform, after, Table.get?_put]⟩
  | putSignedPreKey space key => exact ⟨answers.eq rfl, by simp [of, Memory.perform, after, Table.get?_put]⟩
  | putLastResortPreKey space key => exact ⟨answers.eq rfl, by simp [of, Memory.perform, after, Table.get?_put]⟩
  | identityKeys space => exact ⟨answers.eq rfl, rfl⟩
  | signedPreKey space id => exact ⟨answers.told_eq, rfl⟩
  | lastResortPreKey space id => exact ⟨answers.told_eq, rfl⟩
  | selfRecipient aci pni number =>
    refine ⟨trivial, ?_⟩
    simp only [Memory.perform, Memory.selfRecipient, after]
    split <;> rfl
  | markRegistered id =>
    refine ⟨trivial, ?_⟩
    simp only [Memory.perform, Memory.updateRecipient, after]
    split <;> rfl
  | setProfileSharing id =>
    refine ⟨trivial, ?_⟩
    simp only [Memory.perform, Memory.updateRecipient, after]
    split <;> rfl
  | setProfileKey id =>
    refine ⟨trivial, ?_⟩
    simp only [Memory.perform, Memory.updateRecipient, after]
    split <;> rfl
  | _ => exact ⟨trivial, rfl⟩

theorem of_answers {m m' : Memory} (j : Journal) {call : Effect} {answer : call.Answer}
    (answers : Answers call m answer m') :
    Foretells call (of m j) answer ∧ of m' (j ++ [⟨call, answer⟩]) = after call answer (of m j) := by
  cases call with
  | store op =>
    obtain ⟨matches_, rfl⟩ := answers
    exact of_perform m j matches_
  | keys request =>
    obtain ⟨kept, rfl⟩ := answers
    refine ⟨kept, ?_⟩
    cases request with
    | preKeyId =>
      cases answer with
      | error e => exact of_append_quiet _ j _ (fun _ => rfl) rfl
      | ok id =>
        refine Holdings.ext rfl rfl rfl rfl (funext ?_) ?_
        · intro space
          exact (Journal.uploads_append j _ space).trans (List.append_nil _)
        · exact Journal.drawn_append j _
    | _ => exact of_append_quiet _ j _ (fun _ => rfl) rfl
  | service request =>
    obtain rfl : m' = m := answers
    refine ⟨trivial, ?_⟩
    cases request with
    | verify request credentials => exact of_append_quiet _ j _ (fun _ => rfl) rfl
    | publish space content credentials =>
      refine Holdings.ext rfl rfl rfl rfl (funext ?_) ?_
      · intro other
        simp only [of, after, Journal.uploads_append, Journal.uploads_singleton, Journal.upload?]
        split <;> simp
      · exact (Journal.drawn_append j _).trans (List.append_nil _)
  | _ =>
    obtain rfl : m' = m := answers
    exact ⟨trivial, of_append_quiet _ j _ (fun _ => rfl) rfl⟩

/-! ## What an activity may rely on -/

/-- Calls and answers as they are foretold; `always` has to hold whenever a call is made. -/
def contract (always : Holdings → Prop) : Plan.Contract effects Holdings where
  allowed call h := call.IsFaithful ∧ always h
  answered call h answer h' := Foretells call h answer ∧ h' = after call answer h

/-- A client whose threads take turns, and what it holds. -/
structure Shown {κ σ : Type} (c : Installation κ σ) (j : Journal) (h : Holdings) : Prop where
  honest : c.keyFactory.Honest
  served : ∃ m, c.store.Serves m ∧ of m j = h

variable {κ σ : Type} {c : Installation κ σ} {t : Thread} {j : Journal} {h : Holdings}

theorem Shown.handle (shown : Shown c j h) (admits : c.store.Admits t) {call : Effect} (faithful : call.IsFaithful) :
    Foretells call h (c.handle t call).1 ∧
      Shown (c.handle t call).2 (j ++ [⟨call, (c.handle t call).1⟩]) (after call (c.handle t call).1 h) := by
  obtain ⟨honest, m, serves, rfl⟩ := shown
  obtain ⟨answers, turn⟩ := Turn.handle ⟨honest, serves, admits⟩ faithful
  obtain ⟨foretold, same⟩ := of_answers j answers
  exact ⟨foretold, turn.honest, _, turn.serves, same⟩

theorem Shown.openScope (shown : Shown c j h) (admits : c.store.Admits t) :
    Shown { c with store := (c.store.openScope t).2 } j h := by
  obtain ⟨honest, m, serves, rfl⟩ := shown
  obtain ⟨m', serves', same⟩ := serves.openScope admits
  refine ⟨honest, m', serves', ?_⟩
  rw [← same]
  rfl

theorem Shown.commitScope (shown : Shown c j h) (admits : c.store.Admits t) :
    Shown { c with store := (c.store.closeScope t true).2 } j h := by
  obtain ⟨honest, m, serves, rfl⟩ := shown
  obtain ⟨m', serves', same⟩ := serves.commitScope admits
  refine ⟨honest, m', serves', ?_⟩
  rw [← same]
  rfl

theorem holds_of_ensures {m : Memory} (turn : Turn c t m) (j : Journal) {always : Holdings → Prop} {ε α : Type}
    {a : Activity ε α} {good : α → Holdings → Prop} {bad : ε → Holdings → Prop}
    (ensures : Activity.Ensures (contract always) a good bad (of m j)) :
    Activity.either good bad (c.run t a).1 (of (Journal.replay m (c.journal t a)) (j ++ c.journal t a)) ∧
      Turn (c.run t a).2 t (Journal.replay m (c.journal t a)) := by
  have foresees (call : Effect) (m : Memory) (j : Journal) (allowed : (contract always).allowed call (of m j)) :
      call.IsFaithful ∧ ∀ answer m', Answers call m answer m' →
        (contract always).answered call (of m j) answer (of m' (j ++ [⟨call, answer⟩])) :=
    ⟨allowed.1, fun _ _ answers => of_answers j answers⟩
  exact turn.meets foresees ensures

/-- Whatever an activity ensures of the holdings, a run of it by a thread in its turn ensures. -/
theorem Shown.run (shown : Shown c j h) (admits : c.store.Admits t) {always : Holdings → Prop} {ε α : Type}
    {a : Activity ε α} {good : α → Holdings → Prop} {bad : ε → Holdings → Prop}
    (ensures : Activity.Ensures (contract always) a good bad h) :
    ∃ h', Activity.either good bad (c.run t a).1 h' ∧ Shown (c.run t a).2 (j ++ c.journal t a) h' ∧
      (c.run t a).2.store.Admits t := by
  obtain ⟨honest, m, serves, rfl⟩ := shown
  obtain ⟨held, turn⟩ := holds_of_ensures ⟨honest, serves, admits⟩ j ensures
  exact ⟨_, held, ⟨turn.honest, _, turn.serves, rfl⟩, turn.admits⟩

end Holdings
end Enrolment.Client
