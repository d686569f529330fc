import Enrolment.Proofs.Client.Stages
import Enrolment.Proofs.Client.Stand
/-!
The way through the completion gate. Main statement: an evaluation keeps to the order of calls at the
gate. It tells that it passed exactly where it left the gate with the work queued, and then it read
before that all was there (`evaluate_passage`). So does an attempt to enrol, which ends with an
evaluation (`register_passage`).
-/
namespace Enrolment.Client

open Store Activity

/-! ## What an evaluation reads -/

def Journal.Read (j : Journal) (key : String) (value : Option Json) : Prop :=
  (⟨.store (.read key), .ok value⟩ : Plan.Exchange effects) ∈ j

/-- What was read is as some inputs say. -/
structure Journal.Bears (j : Journal) (i : CompletionInputs) : Prop where
  registered : i.registered = true → j.Read Account.registered.key (some (.bool true))
  named : i.profileNameSet = true →
    ∃ name, Text.allBlank name = false ∧ j.Read Account.profileName.key (some (.str name))
  pin : i.hasPin = true → j.Read Account.pinSet.key (some (.bool true))
  optedOut : i.optedOut = true → j.Read Account.pinOptedOut.key (some (.bool true))
  unrecorded : i.alreadyComplete = false →
    j.Read Account.complete.key none ∨ j.Read Account.complete.key (some (.bool false))

/-- All that makes an enrolment complete was read to be there, and no completion to be recorded. -/
structure Journal.Clears (j : Journal) : Prop where
  registered : j.Read Account.registered.key (some (.bool true))
  named : ∃ name, Text.allBlank name = false ∧ j.Read Account.profileName.key (some (.str name))
  pin : j.Read Account.pinSet.key (some (.bool true)) ∨ j.Read Account.pinOptedOut.key (some (.bool true))
  unrecorded : j.Read Account.complete.key none ∨ j.Read Account.complete.key (some (.bool false))

namespace Journal

variable {j k : Journal} {key : String} {value : Option Json} {i : CompletionInputs}

theorem Read.later (read : j.Read key value) (later : j <+: k) : k.Read key value := later.subset read

theorem Clears.later (clears : j.Clears) (later : j <+: k) : k.Clears where
  registered := clears.registered.later later
  named := clears.named.imp fun _ => And.imp_right fun read => read.later later
  pin := clears.pin.imp (fun read => read.later later) fun read => read.later later
  unrecorded := clears.unrecorded.imp (fun read => read.later later) fun read => read.later later

theorem Bears.clears (bears : j.Bears i) (complete : i.shouldComplete = true) : j.Clears := by
  simp only [CompletionInputs.shouldComplete, Bool.and_eq_true, Bool.or_eq_true, Bool.not_eq_true'] at complete
  obtain ⟨⟨⟨unrecorded, registered⟩, named⟩, pin⟩ := complete
  exact ⟨bears.registered registered, bears.named named, pin.imp bears.pin bears.optedOut, bears.unrecorded unrecorded⟩

end Journal

section

variable {α : Type} {said : Journal} {bad : Fault → Progress → Prop}

private theorem read_last {said : Journal} {key : String} {answer : Except Fault (Option Json)} {value : Option Json}
    (is : answer = .ok value) : Journal.Read (said ++ [⟨.store (.read key), answer⟩]) key value := by
  subst is
  exact List.mem_append_right said (List.mem_singleton_self _)

private theorem passage_get? {slot : Slot α} {good : Option α → Progress → Prop} (other : slot.key ≠ Account.complete.key)
    (failed : ∀ e j, bad e ⟨.inside, j⟩)
    (found : ∀ o (j : Journal), said <+: j → (∀ a, o = some a → ∃ value, slot.interpret value = .ok (some a) ∧ j.Read slot.key value) →
      good o ⟨.inside, j⟩) :
    Ensures passage (get? slot) good bad ⟨.inside, said⟩ := by
  refine ensures_read ⟨rfl, nofun, nofun⟩ ?_
  rintro answer _ rfl
  have stays : Stand.afterRead slot.key answer .inside = .inside := if_neg fun both => other both.1
  show either good bad _ ⟨Stand.afterRead slot.key answer .inside, _⟩
  rw [stays]
  cases answer with
  | error e => exact failed e _
  | ok value =>
    show either good bad (slot.interpret value) _
    cases read : slot.interpret value with
    | error e => exact failed e _
    | ok o =>
      refine found o _ (List.prefix_append said _) ?_
      rintro a rfl
      exact ⟨value, read, read_last rfl⟩

private theorem passage_flag {key : String} {good : Bool → Progress → Prop} (other : key ≠ Account.complete.key)
    (failed : ∀ e j, bad e ⟨.inside, j⟩)
    (found : ∀ a (j : Journal), said <+: j → (a = true → j.Read key (some (.bool true))) → good a ⟨.inside, j⟩) :
    Ensures passage (getOr (.flag key) false) good bad ⟨.inside, said⟩ := by
  refine ensures_bind.2 (passage_get? other failed ?_)
  intro o j later read
  refine ensures_pure (found _ j later ?_)
  intro true_
  cases o with
  | none => cases true_
  | some a =>
    obtain rfl : a = true := true_
    obtain ⟨value, is, there⟩ := read true rfl
    rwa [Slot.interpret_flag_eq_true.1 is] at there

private theorem passage_name {good : Bool → Progress → Prop} (failed : ∀ e j, bad e ⟨.inside, j⟩)
    (found : ∀ a (j : Journal), said <+: j →
      (a = true → ∃ name, Text.allBlank name = false ∧ j.Read Account.profileName.key (some (.str name))) →
      good a ⟨.inside, j⟩) :
    Ensures passage isProfileNameSet good bad ⟨.inside, said⟩ := by
  refine ensures_bind.2 (passage_get? (by decide) failed ?_)
  intro o j later read
  refine ensures_pure (found _ j later ?_)
  intro named
  cases o with
  | none => cases named
  | some name =>
    obtain ⟨value, is, there⟩ := read name rfl
    rw [Slot.interpret_text_eq_some.1 is] at there
    exact ⟨name, by simpa using named, there⟩

private theorem passage_record {good : Bool → Progress → Prop} (failed : ∀ e j, bad e ⟨.inside, j⟩)
    (found : ∀ a (j : Journal), said <+: j →
      (a = false → j.Read Account.complete.key none ∨ j.Read Account.complete.key (some (.bool false))) →
      good a ⟨if a then .inside else .clear, j⟩) :
    Ensures passage (getOr Account.complete false) good bad ⟨.inside, said⟩ := by
  refine ensures_readOr ⟨rfl, nofun, nofun⟩ ?_
  rintro answer _ rfl
  show either good bad _ ⟨Stand.afterRead Account.complete.key answer .inside, _⟩
  have later := List.prefix_append said [(⟨.store (.read Account.complete.key), answer⟩ : Plan.Exchange effects)]
  cases read : Account.complete.valueOr false answer with
  | error e =>
    have stays : Stand.afterRead Account.complete.key answer .inside = .inside :=
      if_neg fun both => by cases read.symm.trans both.2
    rw [stays]
    exact failed e _
  | ok complete =>
    have moves : Stand.afterRead Account.complete.key answer .inside = (if complete then .inside else .clear) := by
      simp only [Stand.afterRead, read]
      cases complete <;> rfl
    rw [moves]
    refine found complete _ later ?_
    rintro rfl
    exact (Slot.valueOr_flag_eq_false.1 read).imp read_last read_last

end

theorem readCompletionInputs_passage (said : Journal) :
    Ensures passage readCompletionInputs
      (fun i p => p.stand = (if i.alreadyComplete then .inside else .clear) ∧ p.said.Bears i)
      (fun _ p => p.stand = .inside) ⟨.inside, said⟩ := by
  refine ensures_bind.2 (passage_flag (by decide) (fun _ _ => rfl) ?_)
  intro registered j₁ _ isRegistered
  refine ensures_bind.2 (passage_name (fun _ _ => rfl) ?_)
  intro named j₂ later₂ isNamed
  refine ensures_bind.2 (passage_flag (by decide) (fun _ _ => rfl) ?_)
  intro hasPin j₃ later₃ isPin
  refine ensures_bind.2 (passage_flag (by decide) (fun _ _ => rfl) ?_)
  intro optedOut j₄ later₄ isOut
  refine ensures_bind.2 (passage_record (fun _ _ => rfl) ?_)
  intro complete j₅ later₅ isComplete
  have later₄₅ := later₄.trans later₅
  have later₃₅ := later₃.trans later₄₅
  refine ensures_pure ⟨rfl, ?_⟩
  exact {
    registered := fun set => (isRegistered set).later (later₂.trans later₃₅)
    named := fun set => (isNamed set).imp fun _ => And.imp_right fun read => read.later later₃₅
    pin := fun set => (isPin set).later later₄₅
    optedOut := fun set => (isOut set).later later₅
    unrecorded := isComplete }

/-! ## An evaluation -/

def finishing : Activity Fault Bool := do
  if (← getOr Account.discoverability .undecided) = .undecided then
    put Account.discoverability .discoverable
  call (.enqueueChain completionJobs)
  return true

theorem evaluateGuarded_eq :
    evaluateGuarded = readCompletionInputs >>= fun inputs =>
      if inputs.shouldComplete then put Account.complete true >>= fun _ => finishing else pure false := rfl

section

variable {said : Journal}

private theorem queues_passage (clears : said.Clears) :
    Ensures passage (call (.enqueueChain completionJobs) >>= fun _ => pure true : Activity Fault Bool)
      (fun passed p => passed = true ∧ p.stand = .queued ∧ p.said.Clears)
      (fun _ p => p.stand.isInside = true ∧ p.stand ≠ .queued) ⟨.recorded, said⟩ := by
  refine ⟨⟨rfl, rfl⟩, ?_⟩
  rintro _ _ rfl
  exact ⟨rfl, rfl, clears.later (List.prefix_append said _)⟩

private theorem finishing_passage (clears : said.Clears) :
    Ensures passage finishing
      (fun passed p => passed = true ∧ p.stand = .queued ∧ p.said.Clears)
      (fun _ p => p.stand.isInside = true ∧ p.stand ≠ .queued) ⟨.recorded, said⟩ := by
  refine ensures_bind.2 (ensures_readOr ⟨rfl, nofun, nofun⟩ ?_)
  rintro answer _ rfl
  have clears' (e : Plan.Exchange effects) : Journal.Clears (said ++ [e]) := clears.later (List.prefix_append said _)
  show either _ _ _ (⟨Stand.afterRead Account.discoverability.key answer .recorded, _⟩ : Progress)
  cases read : Account.discoverability.valueOr .undecided answer with
  | error e =>
    have stays : Stand.afterRead Account.discoverability.key answer .recorded = .recorded :=
      if_neg fun both => by cases read.symm.trans both.2
    rw [stays]
    exact ⟨rfl, nofun⟩
  | ok d =>
    by_cases undecided : d = .undecided
    · subst undecided
      have moves : Stand.afterRead Account.discoverability.key answer .recorded = .defaulting := if_pos ⟨rfl, read⟩
      rw [moves]
      show Ensures passage (if Discoverability.undecided = .undecided then _ else _) _ _ _
      rw [if_pos rfl]
      refine ensures_bind.2 (ensures_store
        ⟨rfl, fun same => absurd (Option.some.inj same) (by decide), fun _ => ⟨Or.inr rfl, _, by decide, rfl⟩⟩ ?_)
      rintro written _ rfl
      cases written with
      | error e => exact ⟨rfl, nofun⟩
      | ok _ => exact queues_passage (clears' _ |>.later (List.prefix_append _ _))
    · have stays : Stand.afterRead Account.discoverability.key answer .recorded = .recorded :=
        if_neg fun both => undecided (Except.ok.inj (read.symm.trans both.2))
      rw [stays]
      show Ensures passage (if d = .undecided then _ else _) _ _ _
      rw [if_neg undecided]
      exact queues_passage (clears' _)

/-- Inside the gate an evaluation gets to where the work is queued, or it tells that it did not. -/
theorem evaluateGuarded_passage (said : Journal) :
    Ensures passage evaluateGuarded
      (fun passed p => if passed then p.stand = .queued ∧ p.said.Clears else p.stand = .inside ∨ p.stand = .clear)
      (fun _ p => p.stand.isInside = true ∧ p.stand ≠ .queued) ⟨.inside, said⟩ := by
  rw [evaluateGuarded_eq]
  refine ensures_bind.2 ((readCompletionInputs_passage said).mono ?_ ?_)
  · rintro inputs ⟨stand, said⟩ ⟨rfl : stand = _, bears⟩
    by_cases complete : inputs.shouldComplete = true
    · have unrecorded : inputs.alreadyComplete = false := by
        simp only [CompletionInputs.shouldComplete, Bool.and_eq_true, Bool.not_eq_true'] at complete
        exact complete.1.1.1
      rw [if_pos complete, if_neg (by simp [unrecorded])]
      refine ensures_bind.2 (ensures_store
        ⟨rfl, fun _ => ⟨rfl, rfl⟩, fun same => absurd (Option.some.inj same) (by decide)⟩ ?_)
      rintro written _ rfl
      cases written with
      | error e => exact ⟨rfl, nofun⟩
      | ok _ =>
        refine (finishing_passage (bears.clears complete |>.later (List.prefix_append said _))).mono ?_ fun _ _ => id
        rintro passed p ⟨rfl, queued, clears⟩
        exact ⟨queued, clears⟩
    · rw [if_neg complete]
      cases inputs.alreadyComplete with
      | true => exact ensures_pure (Or.inl rfl)
      | false => exact ensures_pure (Or.inr rfl)
  · rintro e ⟨stand, said⟩ (rfl : stand = .inside)
    exact ⟨rfl, nofun⟩

end

structure Progress.Ends (passed : Bool) (p : Progress) : Prop where
  told : passed = true ↔ p.stand = .passed
  clears : passed = true → p.said.Clears
  left : p.stand.isInside = false

/-- An evaluation tells that it passed exactly where it left the gate with the work queued, and then it
read before that all was there and that no completion was recorded. -/
theorem evaluate_passage (said : Journal) :
    Ensures passage evaluate Progress.Ends (fun _ => Progress.Ends false) ⟨.outside, said⟩ := by
  refine Plan.meets_bind.2 ⟨rfl, ?_⟩
  rintro _ _ rfl
  refine Plan.meets_bind.2 (Plan.Meets.mono ?_ (evaluateGuarded_passage []))
  rintro result ⟨stand, said⟩ ends
  cases result with
  | ok passed =>
    cases passed with
    | true =>
      obtain ⟨rfl : stand = .queued, clears⟩ := ends
      refine ⟨rfl, ?_⟩
      rintro _ _ rfl
      exact ⟨by simp [Progress.after, Stand.after, Stand.afterLeave], fun _ => clears.later (List.prefix_append said _), rfl⟩
    | false =>
      obtain rfl | rfl : stand = .inside ∨ stand = .clear := ends
      all_goals
        refine ⟨rfl, ?_⟩
        rintro _ _ rfl
        exact ⟨by simp [Progress.after, Stand.after, Stand.afterLeave], nofun, rfl⟩
  | error e =>
    obtain ⟨inside, unqueued⟩ : stand.isInside = true ∧ stand ≠ .queued := ends
    refine ⟨inside, ?_⟩
    rintro _ _ rfl
    refine ⟨⟨nofun, ?_⟩, nofun, ?_⟩
    · cases stand <;> simp_all [Progress.after, Stand.after, Stand.afterLeave, Stand.isInside]
    · cases stand <;> simp_all [Progress.after, Stand.after, Stand.afterLeave, Stand.isInside]

/-! ## Work outside the gate -/

/-- The keys of the values that only an evaluation, or a choice of discoverability, writes. -/
def guardedKeys : List String := [Account.complete.key, Account.discoverability.key]

def Aloof (call : Effect) : Prop := Stand.outside.Permits call ∧ ∀ answer, Stand.after call answer .outside = .outside

theorem aloof_store {op : Operation} (apart : ∀ key ∈ guardedKeys, op.edited? ≠ some key) : Aloof (.store op) := by
  refine ⟨⟨rfl, ?_, ?_⟩, ?_⟩
  · exact fun edits => absurd edits (apart _ (by decide))
  · exact fun edits => absurd edits (apart _ (by decide))
  · cases op <;> exact fun _ => rfl

section

variable {ε α : Type} {said : Journal}

theorem Within.aloof {reads writes : List String} {other : Effect → Prop} {e : Effect}
    (within : Within reads writes other e) (apart : ∀ key ∈ guardedKeys, key ∉ writes)
    (aloof : ∀ e, other e → Aloof e) : Aloof e := by
  cases within with
  | read => exact aloof_store fun _ _ => nofun
  | write member => exact aloof_store fun key guarded same => apart key guarded (Option.some.inj same ▸ member)
  | erase member => exact aloof_store fun key guarded same => apart key guarded (Option.some.inj same ▸ member)
  | other is => exact aloof _ is

theorem aloof_put {slot : Slot α} (apart : slot.key ∉ guardedKeys) (a : α) : Calls Aloof (put slot a) :=
  calls_put (aloof_store fun _ guarded same => apart (Option.some.inj same ▸ guarded))

theorem ensures_of_aloof {a : Activity ε α} (calls : Calls Aloof a) :
    Ensures passage a (fun _ p => p.stand = .outside) (fun _ p => p.stand = .outside) ⟨.outside, said⟩ := by
  refine calls.ensures ?_ rfl
  rintro call ⟨_, said⟩ ⟨permitted, stays⟩ rfl
  refine ⟨permitted, ?_⟩
  rintro answer _ rfl
  exact stays answer

theorem ends_of_outside {p : Progress} (outside : p.stand = .outside) : p.Ends false :=
  ⟨by simp [outside], nofun, by rw [outside]; rfl⟩

theorem Ensures.after_aloof {β : Type} {a : Activity ε α} {f : α → Activity ε β} {good : β → Progress → Prop}
    (calls : Calls Aloof a) (rest : ∀ x said, Ensures passage (f x) good (fun _ => Progress.Ends false) ⟨.outside, said⟩) :
    Ensures passage (a >>= f) good (fun _ => Progress.Ends false) ⟨.outside, said⟩ := by
  refine ensures_bind.2 ((ensures_of_aloof calls).mono ?_ fun _ _ => ends_of_outside)
  rintro x ⟨_, said⟩ rfl
  exact rest x said

end

theorem aloof_setPinEstablished : Calls Aloof setPinEstablished :=
  Calls.bind (aloof_put (by decide) true) fun _ => aloof_put (by decide) false

theorem scheduleFollowUps_passage (a : Application) (said : Journal) :
    Ensures passage (scheduleFollowUps a) Progress.Ends (fun _ => Progress.Ends false) ⟨.outside, said⟩ := by
  refine Ensures.after_aloof (calls_call ⟨rfl, fun _ => rfl⟩) ?_
  intro _ said
  refine Ensures.after_aloof (Calls.forIn fun job _ => Calls.bind (calls_call ⟨rfl, fun _ => rfl⟩) fun _ => calls_pure _) ?_
  intro _ said
  by_cases pin : a.establishesPin = true
  · rw [if_pos pin]
    refine Ensures.after_aloof aloof_setPinEstablished ?_
    intro _ said
    cases a.recoveryPassword with
    | some password =>
      refine Ensures.after_aloof (aloof_put (by decide) _) ?_
      intro _ said
      exact Ensures.after_aloof (aloof_put (by decide) _) fun _ => evaluate_passage
    | none => exact Ensures.after_aloof (aloof_put (by decide) _) fun _ => evaluate_passage
  · rw [if_neg pin]
    exact evaluate_passage said

theorem asksProof_aloof (e : Effect) (asks : AsksProof e) : Aloof e := by
  cases e with
  | keys | service => exact ⟨rfl, fun _ => rfl⟩
  | _ => exact asks.elim

theorem rekeys_aloof (e : Effect) (rekeys : Rekeys e) : Aloof e := by
  rcases rekeys with drops | makes
  · cases e with
    | store op =>
      cases op with
      | archiveSessions | clearSenderKeys => exact aloof_store fun _ _ => nofun
      | _ => exact drops.elim
    | _ => exact drops.elim
  · cases e with
    | store op =>
      cases op with
      | identityKeys | putIdentityKeys | putSignedPreKey | putLastResortPreKey => exact aloof_store fun _ _ => nofun
      | _ => exact makes.elim
    | keys | service => exact ⟨rfl, fun _ => rfl⟩
    | _ => exact makes.elim

theorem linksRecipient_aloof (e : Effect) (links : LinksRecipient e) : Aloof e := by
  cases e with
  | store op =>
    cases op with
    | selfRecipient | markRegistered | setProfileSharing | setProfileKey => exact aloof_store fun _ _ => nofun
    | _ => exact links.elim
  | _ => exact links.elim

theorem register_passage (a : Application) (said : Journal) :
    Ensures passage (register a) (fun e => Progress.Ends e.completed) (fun _ => Progress.Ends false) ⟨.outside, said⟩ := by
  have verifies : Calls Aloof (verification a) :=
    (reach_verification a).mono fun _ within => within.aloof (by decide) asksProof_aloof
  have rekeys (p : Prepared) (aci : Aci) (pni : Pni) : Calls Aloof (rekeying p aci pni) :=
    (reach_rekeying p aci pni).mono fun _ within => within.aloof (by decide) rekeys_aloof
  have commits (p : Prepared) (aci : Aci) (pni : Pni) : Calls Aloof (commitment a p aci pni) :=
    (reach_commitment a p aci pni).mono fun _ within => within.aloof (by decide) linksRecipient_aloof
  rw [register_eq]
  refine Ensures.after_aloof verifies ?_
  rintro ⟨p, verified⟩ said
  refine Ensures.after_aloof (rekeys _ _ _) ?_
  intro provisioned said
  refine ensures_map.2 (Ensures.after_aloof (commits _ _ _) ?_)
  intro recipientId said
  exact ensures_bind.2 (ensures_mapError.2 (scheduleFollowUps_passage a said))

end Enrolment.Client
