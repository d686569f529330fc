import Enrolment.Proofs.Client.Reach
import Enrolment.Proofs.Client.Run
/-!
The stages of an attempt to enrol an account. The attempt goes through one after another, and where it
stopped tells how far it came.
-/
namespace Enrolment.Client

open Store Activity

def presentation (a : Application) (p : Prepared) :
    Activity RegistrationError (Prepared × Service.VerifyResponse) := do
  let verified ← mapError RegistrationError.network
    (service (.verify (verifyRequest a p) ⟨a.number.text, p.password⟩))
  return (p, verified)

def verification (a : Application) : Activity RegistrationError (Prepared × Service.VerifyResponse) := do
  if a.sessionId.isNone && a.recoveryPassword.isNone then throw .unproven
  let p ← mapError RegistrationError.preparation (prepare a)
  presentation a p

def rekeying (p : Prepared) (aci : Aci) (pni : Pni) : Activity RegistrationError (List Provisioned) := do
  mapError (RegistrationError.stopped .identityBinding) (bindIdentity aci pni)
  let username := aci.uuid.toText ++ "." ++ Text.decimalText DeviceId.primary.value.toNat
  mapError (RegistrationError.stopped .keyProvisioning) (provisionAll ⟨username, p.password⟩ Namespace.all)

def commitment (a : Application) (p : Prepared) (aci : Aci) (pni : Pni) : Activity RegistrationError RecipientId := do
  let recipientId ← mapError (RegistrationError.stopped .recipientLinking)
    (linkRecipient aci pni a.number p.profileKey)
  mapError (RegistrationError.stopped .localStateCommit) (commitLocalState a p)
  return recipientId

def followUp (a : Application) (recipientId : RecipientId) : Activity RegistrationError (RecipientId × Bool) := do
  let completed ← mapError (RegistrationError.stopped .followUpScheduling) (scheduleFollowUps a)
  return (recipientId, completed)

def conclusion (a : Application) (p : Prepared) (aci : Aci) (pni : Pni) :
    Activity RegistrationError (RecipientId × Bool) := do
  let recipientId ← commitment a p aci pni
  followUp a recipientId

theorem register_eq (a : Application) :
    register a = verification a >>= fun (p, verified) => rekeying p verified.aci verified.pni >>= fun provisioned =>
      (fun (recipientId, completed) => ⟨verified.aci, verified.pni, recipientId, provisioned, verified.reregistration,
        completed⟩) <$> conclusion a p verified.aci verified.pni := by
  unfold register verification
  by_cases unproven : (a.sessionId.isNone && a.recoveryPassword.isNone) = true
  · rw [if_pos unproven, if_pos unproven]
    rfl
  · rw [if_neg unproven, if_neg unproven]
    simp only [presentation, rekeying, conclusion, commitment, followUp, bind_assoc, pure_bind, map_eq_pure_bind]

/-! ## How far the stages reach -/

def AsksProof : Effect → Prop
  | .service (.verify _ _) => True
  | e => AsksKeys e

theorem reach_verification (a : Application) : Calls (Within preparedKeys [] AsksProof) (verification a) := by
  have prepared : Calls (Within preparedKeys [] AsksProof) (prepare a) := by
    apply Calls.widen (reach_prepare a) (List.Subset.refl _) (List.Subset.refl _)
    intro e asks
    cases e with
    | keys request => exact asks
    | _ => exact asks.elim
  unfold verification
  split
  · exact calls_throw _
  apply Calls.bind (prepared.mapError _)
  intro p
  exact Calls.bind ((calls_service (.other trivial)).mapError _) fun verified => calls_pure _

def Rekeys (e : Effect) : Prop := DropsSessions e ∨ MakesKeys e

theorem reach_rekeying (p : Prepared) (aci : Aci) (pni : Pni) :
    Calls (Within ledgerKeys boundKeys Rekeys) (rekeying p aci pni) := by
  refine Calls.bind (Calls.mapError ?_ _) fun _ => Calls.mapError ?_ _
  · exact Calls.widen (reach_bindIdentity _ _) (List.Subset.refl _) (List.Subset.refl _) fun _ => Or.inl
  · exact Calls.widen (reach_provisionAll _ _) (List.Subset.refl _) ledgerKeys_subset_boundKeys fun _ => Or.inr

theorem reach_commitment (a : Application) (p : Prepared) (aci : Aci) (pni : Pni) :
    Calls (Within [] (Account.profileKey.key :: Account.registered.key :: committedKeys) LinksRecipient)
      (commitment a p aci pni) := by
  refine Calls.bind (Calls.mapError ?_ _) fun _ => Calls.bind (Calls.mapError ?_ _) fun _ => calls_pure _
  · exact Calls.widen (reach_linkRecipient _ _ _ _) (List.Subset.refl _) (by simp) fun _ => id
  · exact Calls.widen (reach_commitLocalState a p) (List.Subset.refl _) (List.subset_cons_self _ _) fun _ => False.elim

def Concludes (e : Effect) : Prop := LinksRecipient e ∨ AsksQueue e

def concludedKeys : List String := Account.profileKey.key :: Account.registered.key :: committedKeys ++ followUpKeys

theorem reach_followUp (a : Application) (recipientId : RecipientId) :
    Calls (Within gateReads followUpKeys AsksQueue) (followUp a recipientId) :=
  ((reach_scheduleFollowUps a).mapError _).bind fun _ => calls_pure _

theorem reach_conclusion (a : Application) (p : Prepared) (aci : Aci) (pni : Pni) :
    Calls (Within gateReads concludedKeys Concludes) (conclusion a p aci pni) := by
  apply Calls.bind
  · exact Calls.widen (reach_commitment a p aci pni) (List.nil_subset _) (List.subset_append_left _ _) fun _ => Or.inl
  · intro recipientId
    exact Calls.widen (reach_followUp a recipientId) (List.Subset.refl _) (List.subset_append_right _ _) fun _ => Or.inr

variable {κ σ : Type} {c : Installation κ σ} {t : Thread} {e : RegistrationError}

/-! ## The queue -/

def SparesQueue : Effect → Prop
  | .enqueue _ | .enqueueChain _ | .clearBackoff => False
  | _ => True

theorem queue_run {ε α : Type} {a : Activity ε α} (calls : Calls SparesQueue a) : (c.run t a).2.queue = c.queue := by
  refine Plan.Calls.run_same (fun c : Installation κ σ => c.queue) ?_ calls c
  intro call c spares
  cases call <;> first | rfl | exact spares.elim

theorem sparesQueue_of_within {reads writes : List String} {other : Effect → Prop} {ε α : Type} {a : Activity ε α}
    (calls : Calls (Within reads writes other) a) (others : ∀ e, other e → SparesQueue e) : Calls SparesQueue a := by
  apply calls.mono
  intro e within
  cases within with
  | other is => exact others _ is
  | _ => trivial

theorem sparesQueue_verification (a : Application) : Calls SparesQueue (verification a) :=
  sparesQueue_of_within (reach_verification a) fun e is => by cases e <;> trivial

theorem sparesQueue_rekeying (p : Prepared) (aci : Aci) (pni : Pni) : Calls SparesQueue (rekeying p aci pni) :=
  sparesQueue_of_within (reach_rekeying p aci pni) fun e is => by cases e <;> first | trivial | exact is.elim id id

theorem sparesQueue_commitment (a : Application) (p : Prepared) (aci : Aci) (pni : Pni) :
    Calls SparesQueue (commitment a p aci pni) :=
  sparesQueue_of_within (reach_commitment a p aci pni) fun e is => by cases e <;> trivial

/-! ## Where an attempt stopped -/

theorem step?_of_verification {a : Application} (failed : (c.run t (verification a)).1 = .error e) : e.step? = none := by
  refine c.error_of_ensures t (P := fun e => e.step? = none) ?_ failed
  unfold verification
  split
  · exact ensures_throw rfl
  refine ensures_bind.2 (ensures_mapError.2 (ensures_anything ?_ fun _ => rfl))
  intro p
  exact ensures_bind.2 (ensures_mapError.2 (ensures_anything (fun _ => trivial) fun _ => rfl))

theorem step?_of_rekeying {p : Prepared} {aci : Aci} {pni : Pni}
    (failed : (c.run t (rekeying p aci pni)).1 = .error e) :
    e.step? = some .identityBinding ∨ e.step? = some .keyProvisioning := by
  refine c.error_of_ensures t (P := fun e => e.step? = some .identityBinding ∨ e.step? = some .keyProvisioning) ?_ failed
  refine ensures_bind.2 (ensures_mapError.2 (ensures_anything ?_ fun _ => Or.inl rfl))
  intro _
  exact ensures_mapError.2 (ensures_anything (fun _ => trivial) fun _ => Or.inr rfl)

theorem step?_of_commitment {a : Application} {p : Prepared} {aci : Aci} {pni : Pni}
    (failed : (c.run t (commitment a p aci pni)).1 = .error e) :
    e.step? = some .recipientLinking ∨ e.step? = some .localStateCommit := by
  refine c.error_of_ensures t (P := fun e => e.step? = some .recipientLinking ∨ e.step? = some .localStateCommit) ?_ failed
  refine ensures_bind.2 (ensures_mapError.2 (ensures_anything ?_ fun _ => Or.inl rfl))
  intro _
  exact ensures_bind.2 (ensures_mapError.2 (ensures_anything (fun _ => trivial) fun _ => Or.inr rfl))

theorem step?_of_followUp {a : Application} {recipientId : RecipientId}
    (failed : (c.run t (followUp a recipientId)).1 = .error e) : e.step? = some .followUpScheduling := by
  refine c.error_of_ensures t (P := fun e => e.step? = some .followUpScheduling) ?_ failed
  exact ensures_bind.2 (ensures_mapError.2 (ensures_anything (fun _ => trivial) fun _ => rfl))

theorem step?_of_conclusion {a : Application} {p : Prepared} {aci : Aci} {pni : Pni}
    (failed : (c.run t (conclusion a p aci pni)).1 = .error e) :
    e.step? = some .recipientLinking ∨ e.step? = some .localStateCommit ∨ e.step? = some .followUpScheduling := by
  rcases c.run_bind_cases t (commitment a p aci pni) (followUp a) with ⟨e', stopped, same, -⟩ | ⟨recipientId, -, same, -⟩
  · rw [conclusion, same] at failed
    obtain rfl := Except.error.inj failed
    exact (step?_of_commitment stopped).imp_right Or.inl
  · rw [conclusion, same] at failed
    exact Or.inr (Or.inr (step?_of_followUp failed))

/-! ## The course of an attempt -/

/-- How an attempt can end, in which state, and what the journal then holds. -/
inductive Attempted (c : Installation κ σ) (t : Thread) (a : Application) :
    Except RegistrationError Enrolled × Installation κ σ → Journal → Prop
  | unverified {e : RegistrationError} {c₁ : Installation κ σ} :
    c.run t (verification a) = (.error e, c₁) → Attempted c t a (.error e, c₁) (c.journal t (verification a))
  | unkeyed {p : Prepared} {verified : Service.VerifyResponse} {e : RegistrationError} {c₁ c₂ : Installation κ σ} :
    c.run t (verification a) = (.ok (p, verified), c₁) →
    c₁.run t (rekeying p verified.aci verified.pni) = (.error e, c₂) →
    Attempted c t a (.error e, c₂)
      (c.journal t (verification a) ++ c₁.journal t (rekeying p verified.aci verified.pni))
  | keyed {p : Prepared} {verified : Service.VerifyResponse} {provisioned : List Provisioned}
    {c₁ c₂ c₃ : Installation κ σ} {result : Except RegistrationError (RecipientId × Bool)} :
    c.run t (verification a) = (.ok (p, verified), c₁) →
    c₁.run t (rekeying p verified.aci verified.pni) = (.ok provisioned, c₂) →
    c₂.run t (conclusion a p verified.aci verified.pni) = (result, c₃) →
    Attempted c t a
      (result.map fun (recipientId, completed) =>
        ⟨verified.aci, verified.pni, recipientId, provisioned, verified.reregistration, completed⟩, c₃)
      (c.journal t (verification a) ++ (c₁.journal t (rekeying p verified.aci verified.pni) ++
        c₂.journal t (conclusion a p verified.aci verified.pni)))

theorem attempted (c : Installation κ σ) (t : Thread) (a : Application) :
    Attempted c t a (c.run t (register a)) (c.journal t (register a)) := by
  rw [register_eq, Installation.run_bind, Installation.journal_bind]
  rcases first : c.run t (verification a) with ⟨e | ⟨p, verified⟩, c₁⟩
  · rw [List.append_nil]
    exact .unverified first
  dsimp only
  rw [Installation.run_bind, Installation.journal_bind]
  rcases second : c₁.run t (rekeying p verified.aci verified.pni) with ⟨e | provisioned, c₂⟩
  · rw [List.append_nil]
    exact .unkeyed first second
  dsimp only
  rw [Installation.run_map, Installation.journal_map]
  exact .keyed first second rfl

theorem stages_of_ok {a : Application} {enrolled : Enrolled} (done : (c.run t (register a)).1 = .ok enrolled) :
    ∃ p verified c₁ c₂, c.run t (verification a) = (.ok (p, verified), c₁) ∧
      c₁.run t (rekeying p verified.aci verified.pni) = (.ok enrolled.provisioned, c₂) ∧
      c₂.run t (conclusion a p verified.aci verified.pni) =
        (.ok (enrolled.recipientId, enrolled.completed), (c.run t (register a)).2) ∧
      verified.aci = enrolled.aci ∧ verified.pni = enrolled.pni ∧
      c.journal t (register a) = c.journal t (verification a) ++ (c₁.journal t (rekeying p verified.aci verified.pni) ++
        c₂.journal t (conclusion a p verified.aci verified.pni)) := by
  have course := attempted c t a
  generalize c.run t (register a) = outcome, c.journal t (register a) = j at course done ⊢
  cases course with
  | unverified | unkeyed => cases done
  | @keyed p verified provisioned c₁ c₂ c₃ result first second third =>
    obtain _ | ⟨recipientId, completed⟩ := result
    · cases done
    obtain rfl := Except.ok.inj done
    exact ⟨p, verified, c₁, c₂, first, second, third, rfl, rfl, rfl⟩

theorem prepare_of_verification {a : Application} {p : Prepared} {verified : Service.VerifyResponse}
    (done : (c.run t (verification a)).1 = .ok (p, verified)) : (c.run t (prepare a)).1 = .ok p := by
  unfold verification at done
  split at done
  · cases done
  rcases c.run_bind_cases t (mapError RegistrationError.preparation (prepare a)) (presentation a) with
    ⟨e, -, same, -⟩ | ⟨p', prepared, same, -⟩
  · cases (congrArg Prod.fst same).symm.trans done
  have presented := (congrArg Prod.fst same).symm.trans done
  rw [presentation, Installation.run_bind] at presented
  split at presented
  · obtain ⟨rfl, -⟩ := Prod.mk.inj (Except.ok.inj presented)
    exact c.ok_of_mapError t prepared
  · cases presented

end Enrolment.Client
