import Enrolment.Proofs.Client.Contents
import Enrolment.Proofs.Client.Run
/-!
Identity keys and registration ids, as they are stored and as the service is sent them. A call may take
nothing of this back; where no call does, what is stored stays and is what the service is sent
(`Tenure.Allows.lasts`).
-/
namespace Enrolment

def Service.VerifyRequest.registrationId (request : Service.VerifyRequest) : Namespace → RegistrationId
  | .aci => request.attributes.registrationId
  | .pni => request.attributes.pniRegistrationId

namespace Client

open Store Activity

namespace Journal

def verification? : Plan.Exchange effects → Option Service.VerifyRequest
  | ⟨.service (.verify request _), _⟩ => some request
  | _ => none

def verifications (j : Journal) : List Service.VerifyRequest := j.filterMap verification?

theorem verifications_append (j k : Journal) : verifications (j ++ k) = j.verifications ++ k.verifications :=
  List.filterMap_append

end Journal

/-- The identity keys and registration ids that are stored, and what the service was sent of them. -/
@[ext]
structure Tenure where
  identity : Namespace → Option IdentityKeys
  registrationId : Namespace → Except Fault (Option RegistrationId)
  uploads : Namespace → List Upload
  asked : List Service.VerifyRequest

namespace Tenure

def of (m : Memory) (j : Journal) : Tenure where
  identity space := m.identities.get? space
  registrationId space := (Account.registrationId space).interpret (m.values.get? (Account.registrationId space).key)
  uploads := j.uploads
  asked := j.verifications

def write (v : Tenure) (key : String) (value : Option Json) : Tenure :=
  { v with registrationId := fun space =>
      if key = (Account.registrationId space).key then (Account.registrationId space).interpret value
      else v.registrationId space }

def after : (call : Effect) → call.Answer → Tenure → Tenure
  | .store (.write key value), _, v => v.write key (some value)
  | .store (.erase key), _, v => v.write key none
  | .store (.putIdentityKeys space keys), _, v =>
    { v with identity := fun other => if space = other then some keys else v.identity other }
  | .service (.publish space content _), answer, v =>
    { v with uploads := fun other =>
        if space = other then v.uploads other ++ [⟨content, answer.toOption.isSome⟩] else v.uploads other }
  | .service (.verify request _), _, v => { v with asked := v.asked ++ [request] }
  | _, _, v => v

def Foretells : (call : Effect) → Tenure → call.Answer → Prop
  | .store (.read key), v, answer =>
    ∀ space, key = (Account.registrationId space).key →
      answer.bind (Account.registrationId space).interpret = v.registrationId space
  | .store (.write _ _), _, answer => answer = .ok ()
  | .store (.erase _), _, answer => answer = .ok ()
  | .store (.identityKeys space), v, answer => answer = .ok (v.identity space)
  | .store (.putIdentityKeys _ _), _, answer => answer = .ok ()
  | _, _, _ => True

def Fits (v : Tenure) (space : Namespace) (id : RegistrationId) : Prop :=
  ∀ there, v.registrationId space = .ok (some there) → id = there

/-- A call that takes nothing back: what is stored is not changed, and the service is sent nothing else. -/
def Allows (v : Tenure) : Effect → Prop
  | .store (.write key value) =>
    ∀ space id, key = (Account.registrationId space).key → v.registrationId space = .ok (some id) →
      (Account.registrationId space).interpret (some value) = .ok (some id)
  | .store (.erase key) => ∀ space, key ≠ (Account.registrationId space).key
  | .store (.putIdentityKeys space _) => v.identity space = none
  | .service (.publish space content _) =>
    ∃ identity, v.identity space = some identity ∧ content.identityKey = Text.base64 identity.publicKey
  | .service (.verify request _) => ∀ space, v.Fits space (request.registrationId space)
  | _ => True

end Tenure

def permanent : Plan.Contract effects Tenure where
  allowed call v := call.IsFaithful ∧ v.Allows call
  answered call v answer v' := Tenure.Foretells call v answer ∧ v' = Tenure.after call answer v

/-! ## Where nothing is taken back -/

namespace Tenure

variable {v v' v'' : Tenure}

def Carried (v : Tenure) : Prop :=
  ∀ space, ∀ u ∈ v.uploads space, ∃ identity, v.identity space = some identity ∧
    u.content.identityKey = Text.base64 identity.publicKey

/-- What is stored stayed as it was, and was what the service was sent since. -/
structure Lasts (v v' : Tenure) : Prop where
  identity : ∀ space keys, v.identity space = some keys → v'.identity space = some keys
  registrationId : ∀ space id, v.registrationId space = .ok (some id) → v'.registrationId space = .ok (some id)
  asked : ∃ later, v'.asked = v.asked ++ later ∧
    ∀ request ∈ later, ∀ space, v.Fits space (request.registrationId space)

theorem Lasts.refl (v : Tenure) : Lasts v v :=
  ⟨fun _ _ => id, fun _ _ => id, [], (List.append_nil _).symm, nofun⟩

theorem Lasts.trans (first : Lasts v v') (second : Lasts v' v'') : Lasts v v'' := by
  refine ⟨fun space keys => second.identity space keys ∘ first.identity space keys,
    fun space id => second.registrationId space id ∘ first.registrationId space id, ?_⟩
  obtain ⟨sooner, asked, agree⟩ := first.asked
  obtain ⟨later, asked', agree'⟩ := second.asked
  refine ⟨sooner ++ later, by rw [asked', asked, List.append_assoc], ?_⟩
  intro request member space id there
  rcases List.mem_append.1 member with member | member
  · exact agree request member space id there
  · exact agree' request member space id (first.registrationId space id there)

theorem Allows.lasts {call : Effect} (allowed : v.Allows call) (answer : call.Answer) :
    Lasts v (after call answer v) := by
  have same := Lasts.refl v
  cases call with
  | store op =>
    cases op with
    | write key value =>
      refine { same with registrationId := fun space id there => ?_ }
      by_cases this : key = (Account.registrationId space).key
      · exact (if_pos this).trans (allowed space id this there)
      · exact (if_neg this).trans there
    | erase key => exact { same with registrationId := fun space id there => (if_neg (allowed space)).trans there }
    | putIdentityKeys space keys =>
      refine { same with identity := fun other before there => (if_neg ?_).trans there }
      rintro rfl
      cases (show v.identity space = none from allowed).symm.trans there
    | _ => exact same
  | service request =>
    cases request with
    | verify request credentials =>
      refine { same with asked := ⟨[request], rfl, fun other member => ?_⟩ }
      rw [List.mem_singleton.1 member]
      exact allowed
    | publish space content credentials => exact ⟨same.identity, same.registrationId, same.asked⟩
  | _ => exact same

theorem Allows.carried {call : Effect} (allowed : v.Allows call) (answer : call.Answer) (carried : v.Carried) :
    (after call answer v).Carried := by
  intro space u member
  have kept := (allowed.lasts answer).identity
  have before (member : u ∈ v.uploads space) : ∃ identity, (after call answer v).identity space = some identity ∧
      u.content.identityKey = Text.base64 identity.publicKey := by
    obtain ⟨identity, there, under⟩ := carried space u member
    exact ⟨identity, kept space identity there, under⟩
  cases call with
  | store op => cases op <;> exact before member
  | service request =>
    cases request with
    | verify request credentials => exact before member
    | publish target content credentials =>
      simp only [after] at member
      split at member
      · rename_i same
        subst same
        rcases List.mem_append.1 member with member | member
        · exact before member
        · rw [List.mem_singleton.1 member]
          exact allowed
      · exact before member
  | _ => exact before member

/-! ## How a client shows it -/

private theorem of_quiet (m : Memory) (j : Journal) {exchange : Plan.Exchange effects}
    (silent : ∀ space, Journal.upload? space exchange = none) (unasked : Journal.verification? exchange = none) :
    of m (j ++ [exchange]) = of m j := by
  refine Tenure.ext rfl rfl (funext fun space => ?_) ?_
  · simp [of, Journal.uploads_append, Journal.uploads_singleton, silent]
  · simp [of, Journal.verifications, unasked]

private theorem of_perform (m : Memory) (j : Journal) {op : Operation} {answer : Except Fault op.Result}
    (answers : op.Matches answer (m.perform op).1) :
    Foretells (.store op) (of m j) answer ∧
      of (m.perform op).2 (j ++ [⟨.store op, answer⟩]) = after (.store op) answer (of m j) := by
  rw [of_quiet _ j (fun _ => rfl) rfl]
  cases op with
  | read key => exact ⟨fun space same => by rw [answers.eq rfl, same]; rfl, rfl⟩
  | write key value =>
    refine ⟨answers.eq rfl, Tenure.ext rfl (funext fun space => ?_) rfl rfl⟩
    simp only [of, Memory.perform, after, write, Table.get?_put]
    split <;> rfl
  | erase key =>
    refine ⟨answers.eq rfl, Tenure.ext rfl (funext fun space => ?_) rfl rfl⟩
    simp only [of, Memory.perform, after, write, Table.get?_erase]
    split <;> rfl
  | putIdentityKeys space keys => exact ⟨answers.eq rfl, by simp [of, Memory.perform, after, Table.get?_put]⟩
  | identityKeys space => exact ⟨answers.eq rfl, rfl⟩
  | selfRecipient | markRegistered | setProfileSharing | setProfileKey =>
    refine ⟨trivial, ?_⟩
    simp only [Memory.perform, Memory.selfRecipient, Memory.updateRecipient, after]
    split <;> rfl
  | _ => exact ⟨trivial, rfl⟩

/-- A client has these things stored, for whoever is admitted, and its journal tells of the others. -/
def Shown {κ σ : Type} (c : Installation κ σ) (j : Journal) (v : Tenure) : Prop := ∃ m, c.store.Serves m ∧ of m j = v

variable {κ σ : Type} {c : Installation κ σ} {t : Thread} {j : Journal}

theorem Shown.handle (shown : Shown c j v) (admits : c.store.Admits t) {call : Effect} (faithful : call.IsFaithful) :
    Foretells call v (c.handle t call).1 ∧
      Shown (c.handle t call).2 (j ++ [⟨call, (c.handle t call).1⟩]) (after call (c.handle t call).1 v) := by
  obtain ⟨m, serves, rfl⟩ := shown
  cases call with
  | store op =>
    obtain ⟨answers, served⟩ := serves.perform admits faithful
    obtain ⟨foretold, same⟩ := of_perform m j answers
    exact ⟨foretold, _, served, same⟩
  | service request =>
    refine ⟨trivial, m, serves, ?_⟩
    cases request with
    | verify request credentials =>
      refine Tenure.ext rfl rfl (funext fun space => ?_) (Journal.verifications_append j _)
      exact (Journal.uploads_append j _ space).trans (List.append_nil _)
    | publish space content credentials =>
      refine Tenure.ext rfl rfl (funext fun other => ?_) ((Journal.verifications_append j _).trans (List.append_nil _))
      simp only [of, after, Journal.uploads_append, Journal.uploads_singleton, Journal.upload?]
      split <;> simp
  | _ => exact ⟨trivial, m, serves, of_quiet m j (fun _ => rfl) rfl⟩

theorem Shown.openScope (shown : Shown c j v) (admits : c.store.Admits t) :
    Shown { c with store := (c.store.openScope t).2 } j v := by
  obtain ⟨m, serves, rfl⟩ := shown
  obtain ⟨m', serves', same⟩ := serves.openScope admits
  refine ⟨m', serves', ?_⟩
  rw [← same]
  rfl

theorem Shown.commitScope (shown : Shown c j v) (admits : c.store.Admits t) :
    Shown { c with store := (c.store.closeScope t true).2 } j v := by
  obtain ⟨m, serves, rfl⟩ := shown
  obtain ⟨m', serves', same⟩ := serves.commitScope admits
  refine ⟨m', serves', ?_⟩
  rw [← same]
  rfl

theorem Shown.run {α : Type} {p : Plan effects α} {post : α → Tenure → Prop} (shown : Shown c j v)
    (admits : c.store.Admits t) (meets : Plan.Meets permanent post p v) :
    ∃ v', post (p.run (Installation.handle t) c).1 v' ∧
      Shown (p.run (Installation.handle t) c).2 (j ++ p.trace (Installation.handle t) c) v' := by
  induction p generalizing c j v with
  | done a => exact ⟨v, meets, by rwa [Plan.trace, List.append_nil]⟩
  | ask call next ih =>
    obtain ⟨⟨faithful, -⟩, rest⟩ := meets
    obtain ⟨foretold, shown'⟩ := shown.handle admits faithful
    obtain ⟨v', held, last⟩ := ih _ shown' (admits_handle admits call) (rest _ _ ⟨foretold, rfl⟩)
    rw [List.append_assoc] at last
    exact ⟨v', held, last⟩

theorem Shown.uploads (shown : Shown c j v) : v.uploads = j.uploads := by
  obtain ⟨m, -, rfl⟩ := shown
  rfl

theorem Shown.asked (shown : Shown c j v) : v.asked = j.verifications := by
  obtain ⟨m, -, rfl⟩ := shown
  rfl

theorem Shown.read_registrationId (shown : Shown c j v) (admits : c.store.Admits t) (space : Namespace) :
    (c.run t (get? (Account.registrationId space))).1 = v.registrationId space := by
  obtain ⟨m, serves, rfl⟩ := shown
  have answered := (serves.perform admits
    (show Operation.IsFaithful (.read (Account.registrationId space).key) from trivial)).1.eq rfl
  rw [Installation.run_get?, answered]
  rfl

theorem Shown.read_identity (shown : Shown c j v) (admits : c.store.Admits t) (space : Namespace) :
    (c.run t (Activity.store (.identityKeys space))).1 = .ok (v.identity space) := by
  obtain ⟨m, serves, rfl⟩ := shown
  exact (serves.perform admits (show Operation.IsFaithful (.identityKeys space) from trivial)).1.eq rfl

end Tenure

end Client
end Enrolment
