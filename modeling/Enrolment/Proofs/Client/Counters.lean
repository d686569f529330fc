import Enrolment.Proofs.Client.Enrolled
import Enrolment.Proofs.Client.Stages
import Enrolment.Proofs.Keys.Orbit
/-!
The ids under which prekeys are sent to the service. In each namespace they follow one another
without a gap, whether the service takes the prekeys or refuses them and whatever happens to the
other namespace, so that an id comes back only when all the others have been used
(`uploads_successive`).
-/
namespace Enrolment.Client

open Store Activity Holdings

def Upload.signedId (u : Upload) : PreKeyId := u.content.signedPreKey.keyId

def Upload.lastResortId (u : Upload) : PreKeyId := u.content.lastResortPreKey.keyId

structure Counter where
  next : Option PreKeyId
  active : Option PreKeyId

def signedCounter (ledger : PreKeyLedger) : Counter := ⟨ledger.nextSigned, ledger.activeSigned⟩

def lastResortCounter (ledger : PreKeyLedger) : Counter := ⟨ledger.nextLastResort, ledger.activeLastResort⟩

/-! ## Ids in sequence -/

/-- Ids were sent one after another, from where a counter stood or, if it stood nowhere, from an id
that was drawn; the last one is in use, and the counter has moved past it. -/
def Follows (start : Counter) (drawn sent : List PreKeyId) (counter : Counter) : Prop :=
  sent = [] ∧ counter = start ∨
    sent ≠ [] ∧ ∃ first, Due start.next drawn first ∧ sent = List.iterate PreKeyId.next first sent.length ∧
      counter = ⟨some (PreKeyId.next^[sent.length] first), sent.getLast?⟩

section

variable {start between counter : Counter} {drawn more sent later : List PreKeyId} {id : PreKeyId}

theorem Follows.refl (start : Counter) (drawn : List PreKeyId) : Follows start drawn [] start := Or.inl ⟨rfl, rfl⟩

theorem Follows.subset (follows : Follows start drawn sent counter) (subset : sent ≠ [] → drawn ⊆ more) :
    Follows start more sent counter := by
  obtain unsent | ⟨some_, first, due, is, stands⟩ := follows
  · exact Or.inl unsent
  · exact Or.inr ⟨some_, first, due.subset (subset some_), is, stands⟩

theorem Follows.trans (follows : Follows start drawn sent between) (next : Follows between more later counter) :
    Follows start (if sent = [] then more else drawn) (sent ++ later) counter := by
  obtain ⟨rfl, rfl⟩ | ⟨sentSome, first, due, is, rfl⟩ := follows
  · rwa [if_pos rfl]
  rw [if_neg sentSome]
  refine Or.inr ⟨List.append_ne_nil_of_left_ne_nil sentSome later, first, due, ?_⟩
  obtain ⟨rfl, rfl⟩ | ⟨laterSome, second, dueNext, isNext, rfl⟩ := next
  · rw [List.append_nil]
    exact ⟨is, rfl⟩
  obtain stands | ⟨absent, -⟩ := dueNext
  · obtain rfl := Option.some.inj stands
    rw [List.getLast?_append_of_ne_nil sent laterSome, List.length_append, List.iterate_add, ← is, ← isNext,
      Nat.add_comm, Function.iterate_add_apply]
    exact ⟨rfl, rfl⟩
  · cases absent

theorem Follows.send (follows : Follows start drawn sent between) (subset : drawn ⊆ more)
    (due : Due between.next more id) : Follows start more (sent ++ [id]) ⟨some id.next, some id⟩ := by
  have one : Follows between more [id] ⟨some id.next, some id⟩ := Or.inr ⟨List.cons_ne_nil _ _, id, due, rfl, rfl⟩
  apply (follows.trans one).subset
  intro _
  split
  · exact List.Subset.refl more
  · exact subset

end

namespace Holdings

variable {start h h' : Holdings} {space : Namespace}

/-- What became of the counters of a namespace since some start, when nothing had been sent yet. -/
structure Counted (start h : Holdings) (space : Namespace) : Prop where
  moved : ∀ ledger, start.ledger? space = .ok ledger → ∃ ledger', h.ledger? space = .ok ledger' ∧
    Follows (signedCounter ledger) h.drawn ((h.uploads space).map Upload.signedId) (signedCounter ledger') ∧
    Follows (lastResortCounter ledger) h.drawn ((h.uploads space).map Upload.lastResortId) (lastResortCounter ledger')
  stuck : ∀ e, start.ledger? space = .error e → h.ledger? space = .error e

structure Onward (start h : Holdings) : Prop where
  kept : ∀ space keys, start.identity space = some keys → h.identity space = some keys
  counted : ∀ space, Counted start h space

theorem Onward.refl (m : Memory) : Onward (.of m []) (.of m []) :=
  ⟨fun _ _ => id, fun _ => ⟨fun ledger found => ⟨ledger, found, .refl _ _, .refl _ _⟩, fun _ => id⟩⟩

theorem Onward.write (onward : Onward start h) {key : String} (apart : key ∉ ledgerKeys) (value : Option Json) :
    Onward start (h.write key value) := by
  refine ⟨onward.kept, fun space => ⟨?_, ?_⟩⟩
  · intro ledger found
    rw [ledger?_write apart]
    exact (onward.counted space).moved ledger found
  · intro e failed
    rw [ledger?_write apart]
    exact (onward.counted space).stuck e failed

private theorem Around.onward (around : Around space h h') (onward : Onward start h) (counted : Counted start h' space) :
    Onward start h' := by
  constructor
  · intro other keys found
    have before := onward.kept other keys found
    by_cases same : other = space
    · subst same
      exact around.kept keys before
    · rw [around.identity other same, before]
  · intro other
    by_cases same : other = space
    · subst same
      exact counted
    · constructor
      · intro ledger found
        obtain ⟨ledger', found', signed, lastResort⟩ := (onward.counted other).moved ledger found
        rw [around.ledger? same, around.uploads other same]
        exact ⟨ledger', found', signed.subset fun _ => around.drawn.subset, lastResort.subset fun _ => around.drawn.subset⟩
      · intro e failed
        rw [around.ledger? same]
        exact (onward.counted other).stuck e failed

theorem Unsent.onward (unsent : Unsent space h h') (onward : Onward start h) : Onward start h' := by
  refine unsent.toAround.onward onward ⟨?_, ?_⟩
  · intro ledger found
    obtain ⟨ledger', found', signed, lastResort⟩ := (onward.counted space).moved ledger found
    rw [unsent.ledger?, unsent.unsent]
    exact ⟨ledger', found', signed.subset fun _ => unsent.drawn.subset, lastResort.subset fun _ => unsent.drawn.subset⟩
  · intro e failed
    rw [unsent.ledger?]
    exact (onward.counted space).stuck e failed

theorem Sent.onward {key : SignedPreKey} {spare : LastResortPreKey} {accepted : Bool}
    (sent : Sent space key spare accepted h h') (onward : Onward start h) : Onward start h' := by
  obtain ⟨there, found'', due, dueSpare, moved⟩ := sent.counted
  refine sent.toAround.onward onward ⟨?_, ?_⟩
  · intro ledger found
    obtain ⟨ledger', found', signed, lastResort⟩ := (onward.counted space).moved ledger found
    obtain rfl := Except.ok.inj (found'.symm.trans found'')
    obtain ⟨identity, -, uploaded⟩ := sent.sent
    rw [uploaded, List.map_append, List.map_append]
    exact ⟨_, moved, signed.send sent.drawn.subset due, lastResort.send sent.drawn.subset dueSpare⟩
  · intro e failed
    cases found''.symm.trans ((onward.counted space).stuck e failed)

theorem Onward.setLedger (onward : Onward start h) {ledger : PreKeyLedger} (found : h.ledger? space = .ok ledger)
    (published : Bool) : Onward start (h.setLedger space { ledger with signedRegistered := published }) := by
  refine (around_setLedger space h _).onward onward ⟨?_, ?_⟩
  · intro before there
    obtain ⟨ledger', found', signed, lastResort⟩ := (onward.counted space).moved before there
    obtain rfl := Except.ok.inj (found'.symm.trans found)
    exact ⟨_, ledger?_setLedger h space _, signed, lastResort⟩
  · intro e failed
    cases found.symm.trans ((onward.counted space).stuck e failed)

end Holdings

/-! ## What attempts make of the counters -/

variable {start h : Holdings}

theorem asksProof_harmless (e : Effect) (asks : AsksProof e) : Harmless e := by
  cases e with
  | service request => cases request <;> first | exact ⟨trivial, fun _ _ => rfl⟩ | exact asks.elim
  | _ => exact asksKeys_harmless _ asks

theorem dropsSessions_harmless (e : Effect) (drops : DropsSessions e) : Harmless e := by
  cases e with
  | store op => cases op <;> first | exact ⟨trivial, fun _ _ => rfl⟩ | exact drops.elim
  | _ => exact drops.elim

theorem concludes_harmless (e : Effect) (concludes : Concludes e) : Harmless e := by
  rcases concludes with links | asks
  · exact linksRecipient_harmless e links
  · exact asksQueue_harmless e asks

theorem provisionKeys_onward (space : Namespace) (credentials : Service.Credentials) (onward : Onward start h) :
    Ensures (contract fun _ => True) (provisionKeys space credentials) (fun _ => Onward start) (fun _ => Onward start) h := by
  refine (provisionKeys_ensures space credentials fun _ _ => trivial).mono ?_ ?_
  · rintro _ h' ⟨key, spare, -, sent⟩
    exact sent.onward onward
  · rintro _ h' (unsent | ⟨key, spare, sent⟩)
    · exact unsent.onward onward
    · exact sent.onward onward

private theorem provisionAll_onward (credentials : Service.Credentials) (spaces : List Namespace)
    (onward : Onward start h) :
    Ensures (contract fun _ => True) (provisionAll credentials spaces) (fun _ => Onward start) (fun _ => Onward start) h := by
  induction spaces generalizing h with
  | nil => exact ensures_pure onward
  | cons space spaces ih =>
    apply Ensures.bind (provisionKeys_onward space credentials onward)
    intro _ h onward
    exact Ensures.bind (ih onward) fun _ h onward => ensures_pure onward

private theorem bindIdentity_onward (aci : Aci) (pni : Pni) (onward : Onward start h) :
    Ensures (contract fun _ => True) (bindIdentity aci pni) (fun _ => Onward start) (fun _ => Onward start) h := by
  refine ensures_bind.2 (ensures_during.2 (ensures_put (by decide) trivial ?_))
  refine ensures_bind.2 (ensures_during.2 (ensures_put (by decide) trivial ?_))
  refine ensures_bind.2 (ensures_during.2 (ensures_put (by decide) trivial ?_))
  refine Ensures.bind (Ensures.forIn (Onward start) ?_ ?_) ?_
  · intro space _ h onward
    exact ensures_unmarked trivial (fun _ found => onward.setLedger found false) fun _ => onward
  · exact ((onward.write (by decide) _).write (by decide) _).write (by decide) _
  · intro _ h onward
    refine ensures_bind.2 (ensures_during.2 ?_)
    exact ensures_of_harmless (harmless_store (by trivial) fun _ _ => rfl) trivial (fun _ => onward) fun _ => onward

theorem register_onward (a : Application) (onward : Onward start h) :
    Ensures (contract fun _ => True) (register a) (fun _ => Onward start) (fun _ => Onward start) h := by
  have written {key : String} (apart : key ∉ ledgerKeys) (value : Option Json) (h : Holdings) (onward : Onward start h) :
    Onward start (h.write key value) := onward.write apart value
  have verified := (reach_verification a).ensures (Within.keeps (by simp) asksProof_harmless) onward
  rw [register_eq]
  apply Ensures.bind verified
  rintro ⟨p, verified⟩ h onward
  have rekeyed : Ensures (contract fun _ => True) (rekeying p verified.aci verified.pni) (fun _ => Onward start)
      (fun _ => Onward start) h := by
    refine Ensures.bind (ensures_mapError.2 (bindIdentity_onward _ _ onward)) ?_
    intro _ h onward
    exact ensures_mapError.2 (provisionAll_onward _ _ onward)
  apply Ensures.bind rekeyed
  intro provisioned h onward
  have apart : ∀ key ∈ concludedKeys, key ∉ ledgerKeys := by decide
  exact ensures_map.2 ((reach_conclusion a p _ _).ensures
    (Within.keeps (fun key member => written (apart key member)) concludes_harmless) onward)

/-! ## Courses of attempts -/

/-- What a client can come to when attempts follow one another, each of them to its end, and what the
journal then holds. -/
inductive Course {κ σ : Type} (c : Installation κ σ) : Installation κ σ → Journal → Prop
  | start : Course c c []
  | registers {c' : Installation κ σ} {j : Journal} (t : Thread) (a : Application) :
    Course c c' j → c'.store.Admits t → Course c (c'.run t (register a)).2 (j ++ c'.journal t (register a))
  | provisions {c' : Installation κ σ} {j : Journal} (t : Thread) (space : Namespace) (credentials : Service.Credentials) :
    Course c c' j → c'.store.Admits t →
    Course c (c'.run t (provisionKeys space credentials)).2 (j ++ c'.journal t (provisionKeys space credentials))
  | opensScope {c' : Installation κ σ} {j : Journal} (t : Thread) :
    Course c c' j → c'.store.Admits t → Course c { c' with store := (c'.store.openScope t).2 } j
  | commitsScope {c' : Installation κ σ} {j : Journal} (t : Thread) :
    Course c c' j → c'.store.Admits t → Course c { c' with store := (c'.store.closeScope t true).2 } j

/-- Ids that were sent one after another. -/
structure Successive (drawn ids : List PreKeyId) : Prop where
  /-- Each id is the one that comes after the id before it, and the first one was drawn. -/
  follow : ids = [] ∨ ∃ first ∈ drawn, ids = List.iterate PreKeyId.next first ids.length
  inRange : ∀ id ∈ ids, id.InRange
  /-- No id comes twice among as many ids as there are. -/
  apart : ∀ start, ((ids.drop start).take PreKeyId.max).Nodup

section

variable {active : Option PreKeyId} {drawn sent : List PreKeyId} {counter : Counter}

private theorem Follows.successive (follows : Follows ⟨none, active⟩ drawn sent counter) (range : ∀ id ∈ drawn, id.InRange) :
    Successive drawn sent := by
  obtain ⟨rfl, -⟩ | ⟨-, first, absent | ⟨-, member⟩, is, -⟩ := follows
  · exact ⟨Or.inl rfl, nofun, fun start => by rw [List.drop_nil, List.take_nil]; exact List.nodup_nil⟩
  · cases absent
  · refine ⟨Or.inr ⟨first, member, is⟩, ?_, ?_⟩
    · intro id later
      rw [is] at later
      obtain ⟨n, -, rfl⟩ := List.mem_iterate.1 later
      exact PreKeyId.inRange_iterate_next (range first member) n
    · intro start
      rw [is]
      exact PreKeyId.nodup_window (range first member) _ start

private theorem Follows.next_eq (follows : Follows ⟨none, active⟩ drawn sent counter) :
    counter.next = sent.getLast?.map PreKeyId.next := by
  obtain ⟨rfl, rfl⟩ | ⟨some_, first, -, is, rfl⟩ := follows
  · rfl
  obtain ⟨n, length⟩ := Nat.exists_eq_succ_of_ne_zero (List.length_eq_zero_iff.not.2 some_)
  rw [length] at is ⊢
  rw [is, List.iterate_add _ _ n 1, Function.iterate_succ_apply']
  simp

end

variable {κ σ : Type}

private theorem onward_of_course {c c' : Installation κ σ} {j : Journal} (new : c.store.Serves .empty)
    (honest : c.keyFactory.Honest) (course : Course c c' j) : ∃ h, Shown c' j h ∧ Onward (.of .empty []) h := by
  induction course with
  | start => exact ⟨_, ⟨honest, _, new, rfl⟩, .refl _⟩
  | registers t a _ admits ih =>
    obtain ⟨h, shown, onward⟩ := ih
    obtain ⟨h', held, shown', -⟩ := shown.run admits (register_onward a onward)
    exact ⟨h', shown', either_same held⟩
  | provisions t space credentials _ admits ih =>
    obtain ⟨h, shown, onward⟩ := ih
    obtain ⟨h', held, shown', -⟩ := shown.run admits (provisionKeys_onward space credentials onward)
    exact ⟨h', shown', either_same held⟩
  | opensScope t _ admits ih =>
    obtain ⟨h, shown, onward⟩ := ih
    exact ⟨h, shown.openScope admits, onward⟩
  | commitsScope t _ admits ih =>
    obtain ⟨h, shown, onward⟩ := ih
    exact ⟨h, shown.commitScope admits, onward⟩

private theorem provisionKeys_apart {c : Installation κ σ} {j : Journal} {h : Holdings} (shown : Shown c j h) {t : Thread}
    (admits : c.store.Admits t) {space other : Namespace} (different : space ≠ other) (credentials : Service.Credentials) :
    (c.journal t (provisionKeys other credentials)).uploads space = [] ∧
      ((c.run t (provisionKeys other credentials)).2.run t (preKeys space)).1 = (c.run t (preKeys space)).1 := by
  have around : Ensures (contract fun _ => True) (provisionKeys other credentials) (fun _ => Around other h)
      (fun _ => Around other h) h := by
    refine (provisionKeys_ensures other credentials fun _ _ => trivial).mono ?_ ?_
    · rintro _ h' ⟨key, spare, -, sent⟩
      exact sent.toAround
    · rintro _ h' (unsent | ⟨key, spare, sent⟩)
      · exact unsent.toAround
      · exact sent.toAround
  obtain ⟨h', held, shown', admits'⟩ := shown.run admits around
  replace held : Around other h h' := either_same held
  rw [shown'.preKeys admits' space, shown.preKeys admits space, held.ledger? different]
  have same := held.uploads space different
  obtain ⟨-, m, -, rfl⟩ := shown
  obtain ⟨-, m', -, rfl⟩ := shown'
  replace same : Journal.uploads _ space = Journal.uploads _ space := same
  rw [Journal.uploads_append] at same
  exact ⟨List.append_right_eq_self.1 same, rfl⟩

/-- Whatever attempts there were on a new client, the ids that were sent for a namespace follow one another, and its
counters stand after the last of them. The source of keys is assumed to give a prekey the id that it was asked for
(`KeyFactory.Honest`), since what is sent is the id that the prekey has. -/
theorem uploads_successive {c c' : Installation κ σ} {j : Journal} (new : c.store.Serves .empty)
    (honest : c.keyFactory.Honest) (course : Course c c' j) (range : ∀ id ∈ j.drawn, id.InRange) (space : Namespace) :
    Successive j.drawn ((j.uploads space).map Upload.signedId) ∧
    Successive j.drawn ((j.uploads space).map Upload.lastResortId) ∧
    ∀ t, c'.store.Admits t →
      (∃ ledger, (c'.run t (preKeys space)).1 = .ok ledger ∧
        ledger.nextSigned = ((j.uploads space).map Upload.signedId).getLast?.map PreKeyId.next ∧
        ledger.nextLastResort = ((j.uploads space).map Upload.lastResortId).getLast?.map PreKeyId.next) ∧
      ∀ other credentials, space ≠ other →
        (c'.journal t (provisionKeys other credentials)).uploads space = [] ∧
        ((c'.run t (provisionKeys other credentials)).2.run t (preKeys space)).1 = (c'.run t (preKeys space)).1 := by
  obtain ⟨h, shown, onward⟩ := onward_of_course new honest course
  have initial : (Holdings.of .empty []).ledger? space = .ok .initial := by
    simp [ledger?, Holdings.of, Memory.empty, Table.get?_nil, Slot.interpret]
    rfl
  obtain ⟨ledger, found, signed, lastResort⟩ := (onward.counted space).moved _ initial
  have drawn : h.drawn = j.drawn ∧ h.uploads = j.uploads := by
    obtain ⟨-, m, -, rfl⟩ := shown
    exact ⟨rfl, rfl⟩
  rw [drawn.1, drawn.2] at signed lastResort
  refine ⟨signed.successive range, lastResort.successive range, fun t admits => ⟨?_, ?_⟩⟩
  · exact ⟨ledger, (shown.preKeys admits space).trans found, signed.next_eq, lastResort.next_eq⟩
  · intro other credentials different
    exact provisionKeys_apart shown admits different credentials

private def twoAttempts (c : Installation κ σ) : Installation κ σ × Journal :=
  let refused := (c.run ⟨0, none⟩ (register .rehearsed)).2
  ((refused.run ⟨0, none⟩ (register .rehearsed)).2,
    [] ++ c.journal ⟨0, none⟩ (register .rehearsed) ++ refused.journal ⟨0, none⟩ (register .rehearsed))

private theorem course_twoAttempts {c : Installation κ σ} (admits : c.store.Admits ⟨0, none⟩) :
    Course c (twoAttempts c).1 (twoAttempts c).2 :=
  (Course.start.registers ⟨0, none⟩ .rehearsed admits).registers ⟨0, none⟩ .rehearsed (admits_run admits _)

/-- The service refuses an upload under the largest id; the next attempt starts again from one. -/
theorem uploads_successive_after_refusal :
    let j := (twoAttempts (.rehearsed Installation.rehearsedKeys ⟨[], [.rejected 503 "later"], []⟩)).2
    (j.uploads .aci).map Upload.signedId = [⟨16777215⟩, ⟨1⟩] ∧
      Successive j.drawn ((j.uploads .aci).map Upload.signedId) := by
  have new : (Installation.rehearsed Installation.rehearsedKeys ⟨[], [.rejected 503 "later"], []⟩).store.Serves .empty := rfl
  refine ⟨by decide +kernel, ?_⟩
  exact (uploads_successive new Rehearsal.KeyScript.factory_honest (course_twoAttempts trivial) (by decide +kernel) .aci).1

end Enrolment.Client
