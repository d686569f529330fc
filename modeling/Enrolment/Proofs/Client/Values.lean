import Enrolment.Proofs.Client.Run
import Enrolment.Proofs.Store.OwnRow
import Enrolment.Proofs.Store.Slot
/-!
The values of the account lie apart from each other. What is set is read back as it was set, and all that is
read of other values is what was read before, whether it can be understood or not. Main result: `values_apart`.
-/
namespace Enrolment.Client

open Activity Store

inductive Entry
  | aci
  | pni
  | number
  | servicePassword
  | pushToken
  | deviceId
  | registered
  | profileKey
  | registrationId (space : Namespace)
  | preKeys (space : Namespace)
  | complete
  | profileName
  | pinSet
  | pinOptedOut
  | recoveryPassword
  | registrationLock
  | discoverability
  deriving DecidableEq

namespace Entry

@[reducible] def Content : Entry → Type
  | aci => Aci
  | pni => Pni
  | number => PhoneNumber
  | servicePassword | pushToken | profileName | recoveryPassword => String
  | deviceId => DeviceId
  | registered | complete | pinSet | pinOptedOut | registrationLock => Bool
  | profileKey => ProfileKey
  | registrationId _ => RegistrationId
  | preKeys _ => PreKeyLedger
  | discoverability => Discoverability

def slot : (e : Entry) → Slot e.Content
  | aci => Account.aci
  | pni => Account.pni
  | number => Account.number
  | servicePassword => Account.servicePassword
  | pushToken => Account.pushToken
  | deviceId => Account.deviceId
  | registered => Account.registered
  | profileKey => Account.profileKey
  | registrationId space => Account.registrationId space
  | preKeys space => Account.preKeys space
  | complete => Account.complete
  | profileName => Account.profileName
  | pinSet => Account.pinSet
  | pinOptedOut => Account.pinOptedOut
  | recoveryPassword => Account.recoveryPassword
  | registrationLock => Account.registrationLock
  | discoverability => Account.discoverability

instance (e : Entry) : e.slot.Lawful := by
  cases e <;> simp only [slot] <;> infer_instance

def all : List Entry :=
  [aci, pni, number, servicePassword, pushToken, deviceId, registered, profileKey, registrationId .aci, registrationId .pni,
    preKeys .aci, preKeys .pni, complete, profileName, pinSet, pinOptedOut, recoveryPassword, registrationLock, discoverability]

theorem mem_all (e : Entry) : e ∈ all := by
  cases e with
  | registrationId space | preKeys space => cases space <;> decide
  | _ => decide

theorem distinct_keys : (all.map (·.slot.key)).Nodup := by decide

theorem key_injective {e e' : Entry} (same : e.slot.key = e'.slot.key) : e = e' :=
  List.inj_on_of_nodup_map distinct_keys e.mem_all e'.mem_all same

end Entry

/-- What is asked for: a value, if there is one, or a value with a default (as flags, prekeys and the
discoverability are), or whether the profile has a name. -/
inductive Getter
  | given (e : Entry)
  | orDefault (e : Entry) (default : e.Content)
  | profileNameSet

namespace Getter

@[reducible] def Answer : Getter → Type
  | given e => Option e.Content
  | orDefault e _ => e.Content
  | profileNameSet => Bool

@[reducible] def entry : Getter → Entry
  | given e | orDefault e _ => e
  | profileNameSet => .profileName

def activity : (g : Getter) → Activity Fault g.Answer
  | given e => get? e.slot
  | orDefault e default => getOr e.slot default
  | profileNameSet => isProfileNameSet

def answer : (g : Getter) → Option g.entry.Content → g.Answer
  | given _, content => content
  | orDefault _ default, content => content.getD default
  | profileNameSet, content => content.any fun name => !Text.allBlank name

end Getter

inductive Setting
  | put (e : Entry) (a : e.Content)
  | pushToken (token : Option String)
  | pinEstablished
  | optOut

namespace Setting

def activity : Setting → Activity Fault Unit
  | put e a => Activity.put e.slot a
  | pushToken token => setPushToken token
  | pinEstablished => setPinEstablished
  | optOut => optOutOfPin

/-- What a setting leaves in a value that it sets. -/
inductive Leaves : Setting → (e : Entry) → Option e.Content → Prop
  | put (e : Entry) (a : e.Content) : Leaves (put e a) e (some a)
  | pushToken (token : Option String) : Leaves (pushToken token) .pushToken token
  | pinSet : Leaves pinEstablished .pinSet (some true)
  | notOptedOut : Leaves pinEstablished .pinOptedOut (some false)
  | optedOut : Leaves optOut .pinOptedOut (some true)
  | noPin : Leaves optOut .pinSet (some false)

end Setting

namespace Installation

variable {κ σ : Type}

/-- On a thread, what a setting set is answered for from now on, and everything else is answered as before. -/
def Took (s : Setting) (t : Thread) (before after : Installation κ σ) : Prop :=
  ∀ g : Getter, (∀ content, s.Leaves g.entry content → (after.run t g.activity).1 = .ok (g.answer content)) ∧
    ((∀ content, ¬ s.Leaves g.entry content) → (after.run t g.activity).1 = (before.run t g.activity).1)

variable (c : Installation κ σ) (t : Thread)

theorem run_getter (g : Getter) : (c.run t g.activity).1 = (c.run t (get? g.entry.slot)).1.map g.answer := by
  cases g with
  | given e =>
    show (c.run t (get? e.slot)).1 = (c.run t (get? e.slot)).1.map id
    cases (c.run t (get? e.slot)).1 <;> rfl
  | orDefault e default => exact run_getOr c t e.slot default
  | profileNameSet => exact congrArg Prod.fst (run_map c t _ (get? Account.profileName))

theorem ok_of_ready {key : String} {op : Operation} (ready : c.store.Ready t (c.store.stock t)) (edits : op.edited? = some key) :
    ∃ answer, (c.store.perform t op).1 = .ok answer := by
  rw [(DataStore.perform_of_ready ready op).1]
  cases op with
  | write key value => exact ⟨(), congrArg Prod.fst (Stock.perform_write _ key value)⟩
  | erase key => exact ⟨(), by cases c.store.stock t <;> rfl⟩
  | _ => cases edits

/-- On a thread, one value is now read as what it was to be, and all others as before. -/
structure Turned (e : Entry) (content : Option e.Content) (t : Thread) (before after : Installation κ σ) : Prop where
  here : (after.run t (get? e.slot)).1 = .ok content
  others : ∀ e' ≠ e, (after.run t (get? e'.slot)).1 = (before.run t (get? e'.slot)).1

theorem run_get?_of_edited {e e' : Entry} (other : e' ≠ e) {op : Operation} (edits : op.edited? = some e.slot.key) :
    ((c.run t (Activity.store op)).2.run t (get? e'.slot)).1 = (c.run t (get? e'.slot)).1 := by
  have apart : op.edited? ≠ some e'.slot.key := by
    rw [edits]
    intro same
    exact other (Entry.key_injective (Option.some.inj same)).symm
  rw [run_get?, run_get?, run_store]
  exact congrArg (·.bind e'.slot.interpret) (DataStore.read_perform apart)

theorem run_put_cases (e : Entry) (a : e.Content) :
    ((c.run t (put e.slot a)).1 = .ok () ∧ Turned e (some a) t c (c.run t (put e.slot a)).2) ∨
      ¬ c.store.Ready t (c.store.stock t) ∧ ∃ f, c.run t (put e.slot a) = (.error f, c) := by
  obtain ⟨done, read⟩ | ⟨f, failed⟩ := c.store.perform_write t e.slot.key (e.slot.isPlain_encode a)
  · refine .inl ⟨done, ?_, fun e' other => c.run_get?_of_edited t other rfl⟩
    rw [run_get?, run_put, read]
    exact e.slot.interpret_encode a
  · refine .inr ⟨fun ready => ?_, f, by rw [run_put, failed]⟩
    have edits : (Operation.write e.slot.key (e.slot.encode a)).edited? = some e.slot.key := rfl
    obtain ⟨_, done⟩ := c.ok_of_ready t ready edits
    rw [failed] at done
    cases done

theorem run_remove_cases (e : Entry) :
    ((c.run t (remove e.slot)).1 = .ok () ∧ Turned e none t c (c.run t (remove e.slot)).2) ∨
      ¬ c.store.Ready t (c.store.stock t) ∧ ∃ f, c.run t (remove e.slot) = (.error f, c) := by
  obtain ⟨done, read⟩ | ⟨f, failed⟩ := c.store.perform_erase t e.slot.key
  · refine .inl ⟨done, ?_, fun e' other => c.run_get?_of_edited t other rfl⟩
    rw [run_get?, remove, run_store, read]
    rfl
  · refine .inr ⟨fun ready => ?_, f, by rw [remove, run_store, failed]⟩
    have edits : (Operation.erase e.slot.key).edited? = some e.slot.key := rfl
    obtain ⟨_, done⟩ := c.ok_of_ready t ready edits
    rw [failed] at done
    cases done

theorem run_put_put (e e' : Entry) (a : e.Content) (a' : e'.Content) :
    let both := put e.slot a >>= fun _ => put e'.slot a'
    ((c.run t both).1 = .ok () ∧
        ∃ between, Turned e (some a) t c between ∧ Turned e' (some a') t between (c.run t both).2) ∨
      ¬ c.store.Ready t (c.store.stock t) ∧ ∃ f, c.run t both = (.error f, c) := by
  intro both
  obtain ⟨done, turned⟩ | ⟨busy, f, failed⟩ := c.run_put_cases t e a
  · have onward : c.run t both = (c.run t (put e.slot a)).2.run t (put e'.slot a') :=
      run_bind_of_ok (Prod.ext done rfl) fun _ => put e'.slot a'
    have again : ((c.run t (put e.slot a)).2.run t (put e'.slot a')).1 = .ok () := DataStore.perform_write_again done
    rw [onward]
    obtain ⟨-, turned'⟩ | ⟨-, f, failed⟩ := (c.run t (put e.slot a)).2.run_put_cases t e' a'
    · exact .inl ⟨again, _, turned, turned'⟩
    · rw [failed] at again
      cases again
  · exact .inr ⟨busy, f, run_bind_of_error failed _⟩

theorem run_preKeys_snd (space : Namespace) : (c.run t (preKeys space)).2 = c := by
  have read : (c.run t (get? (Account.preKeys space))).2 = c := by
    rw [run_get?]
    exact congrArg (fun store => { c with store }) DataStore.perform_read
  rw [preKeys, getOr, run_bind]
  generalize c.run t (get? (Account.preKeys space)) = outcome at read
  obtain ⟨_ | _, _⟩ := outcome <;> exact read

theorem run_updatePreKeys (space : Namespace) (edit : PreKeyLedger → PreKeyLedger) :
    (∀ f, (c.run t (preKeys space)).1 = .error f → c.run t (updatePreKeys space edit) = (.error f, c)) ∧
    ∀ ledger, (c.run t (preKeys space)).1 = .ok ledger →
      ((c.run t (updatePreKeys space edit)).1 = .ok (edit ledger) ∧
          Turned (.preKeys space) (some (edit ledger)) t c (c.run t (updatePreKeys space edit)).2) ∨
        ¬ c.store.Ready t (c.store.stock t) ∧ ∃ f, c.run t (updatePreKeys space edit) = (.error f, c) := by
  have kept := c.run_preKeys_snd t space
  constructor
  · intro f unread
    exact run_bind_of_error (Prod.ext unread kept) _
  · intro ledger read
    have update : c.run t (updatePreKeys space edit) =
        c.run t (put (Account.preKeys space) (edit ledger) >>= fun _ => pure (edit ledger)) :=
      run_bind_of_ok (Prod.ext read kept) _
    rw [update]
    obtain ⟨done, turned⟩ | ⟨busy, f, failed⟩ := c.run_put_cases t (.preKeys space) (edit ledger)
    · have last := run_bind_of_ok (Prod.ext done rfl) fun _ => (pure (edit ledger) : Activity Fault PreKeyLedger)
      have same : put (Account.preKeys space) (edit ledger) = put (Entry.preKeys space).slot (edit ledger) := rfl
      rw [same, last]
      exact .inl ⟨rfl, turned⟩
    · exact .inr ⟨busy, f, run_bind_of_error failed _⟩

variable {c t} {after : Installation κ σ}

theorem took_of_entries {s : Setting}
    (set : ∀ e content, s.Leaves e content → (after.run t (get? e.slot)).1 = .ok content)
    (spared : ∀ e, (∀ content, ¬ s.Leaves e content) → (after.run t (get? e.slot)).1 = (c.run t (get? e.slot)).1) :
    Took s t c after := by
  intro g
  constructor
  · intro content leaves
    rw [run_getter, set _ content leaves]
    rfl
  · intro untouched
    rw [run_getter, run_getter, spared _ untouched]

abbrev Left := (e : Entry) × Option e.Content

theorem Turned.took {s : Setting} {e : Entry} {content : Option e.Content} (turned : Turned e content t c after)
    (sets : s.Leaves e content) (only : ∀ e' left, s.Leaves e' left → (⟨e', left⟩ : Left) = ⟨e, content⟩) :
    Took s t c after := by
  apply took_of_entries
  · intro e' left leaves
    cases only e' left leaves
    exact turned.here
  · intro e' untouched
    apply turned.others
    rintro rfl
    exact untouched _ sets

theorem Turned.took_two {s : Setting} {e e' : Entry} {content : Option e.Content} {content' : Option e'.Content}
    {between : Installation κ σ} (first : Turned e content t c between) (second : Turned e' content' t between after)
    (apart : e ≠ e') (sets : s.Leaves e content) (sets' : s.Leaves e' content')
    (only : ∀ x left, s.Leaves x left → (⟨x, left⟩ : Left) = ⟨e, content⟩ ∨ (⟨x, left⟩ : Left) = ⟨e', content'⟩) :
    Took s t c after := by
  apply took_of_entries
  · intro x left leaves
    obtain same | same := only x left leaves
    · cases same
      rw [second.others _ apart]
      exact first.here
    · cases same
      exact second.here
  · intro x untouched
    rw [second.others x, first.others x]
    · rintro rfl
      exact untouched _ sets
    · rintro rfl
      exact untouched _ sets'

end Installation

/-- On every client, whatever its store holds, a setting is made as a whole or not at all, the latter only where the
thread cannot write. Once it is made, every getter of a value that it sets answers with just what was set, and
every other one answers as it did before, be it with an error. An update of the prekeys of a namespace sets what
it makes of them and answers with that; where they cannot be read, it fails as reading them does and changes
nothing. -/
theorem values_apart {κ σ : Type} (c : Installation κ σ) (t : Thread) :
    (∀ s : Setting, ((c.run t s.activity).1 = .ok () ∧ Installation.Took s t c (c.run t s.activity).2) ∨
      ¬ c.store.Ready t (c.store.stock t) ∧ ∃ f, c.run t s.activity = (.error f, c)) ∧
    ∀ space edit,
      (∀ f, (c.run t (preKeys space)).1 = .error f → c.run t (updatePreKeys space edit) = (.error f, c)) ∧
      ∀ ledger, (c.run t (preKeys space)).1 = .ok ledger →
        ((c.run t (updatePreKeys space edit)).1 = .ok (edit ledger) ∧
            Installation.Took (.put (.preKeys space) (edit ledger)) t c (c.run t (updatePreKeys space edit)).2) ∨
          ¬ c.store.Ready t (c.store.stock t) ∧ ∃ f, c.run t (updatePreKeys space edit) = (.error f, c) := by
  constructor
  · intro s
    cases s with
    | put e a =>
      refine (c.run_put_cases t e a).imp_left ?_
      rintro ⟨done, turned⟩
      exact ⟨done, turned.took (.put e a) (by rintro _ _ ⟨⟩; rfl)⟩
    | pushToken token =>
      cases token with
      | some token =>
        refine (c.run_put_cases t .pushToken token).imp_left ?_
        rintro ⟨done, turned⟩
        exact ⟨done, turned.took (.pushToken (some token)) (by rintro _ _ ⟨⟩; rfl)⟩
      | none =>
        refine (c.run_remove_cases t .pushToken).imp_left ?_
        rintro ⟨done, turned⟩
        exact ⟨done, turned.took (.pushToken none) (by rintro _ _ ⟨⟩; rfl)⟩
    | pinEstablished =>
      refine (c.run_put_put t .pinSet .pinOptedOut true false).imp_left ?_
      rintro ⟨done, between, first, second⟩
      refine ⟨done, first.took_two second (by decide) .pinSet .notOptedOut ?_⟩
      rintro _ _ ⟨⟩
      · exact .inl rfl
      · exact .inr rfl
    | optOut =>
      refine (c.run_put_put t .pinOptedOut .pinSet true false).imp_left ?_
      rintro ⟨done, between, first, second⟩
      refine ⟨done, first.took_two second (by decide) .optedOut .noPin ?_⟩
      rintro _ _ ⟨⟩
      · exact .inl rfl
      · exact .inr rfl
  · intro space edit
    obtain ⟨unread, read⟩ := c.run_updatePreKeys t space edit
    refine ⟨unread, fun ledger found => (read ledger found).imp_left ?_⟩
    rintro ⟨done, turned⟩
    exact ⟨done, turned.took (.put _ _) (by rintro _ _ ⟨⟩; rfl)⟩

end Enrolment.Client
