import Enrolment.Proofs.Client.Counters
import Mathlib.Logic.Relation
/-!
What it means that a namespace counts as published. Its ledger then names the prekeys that were sent to
the service last. The service took them, or they were sent by a provisioning that began when the
namespace counted as published already (`published_names_last`); such a provisioning moves the ledger
on and leaves the mark as it is when the service refuses.
-/
namespace Enrolment.Client

open Store Activity Holdings

/-- A ledger has the prekeys of an upload in use. -/
structure Names (ledger : PreKeyLedger) (u : Upload) : Prop where
  signed : ledger.activeSigned = some u.signedId
  lastResort : ledger.activeLastResort = some u.lastResortId

namespace Holdings

variable {h h' h'' : Holdings} {space : Namespace}

def Unpublished (h : Holdings) (space : Namespace) : Prop :=
  ∀ ledger, h.ledger? space = .ok ledger → ledger.signedRegistered = false

/-- If a namespace counts as published, the service took the prekeys that were sent to it last, and those
are in use. -/
def Vouches (h : Holdings) (space : Namespace) : Prop :=
  ∀ ledger, h.ledger? space = .ok ledger → ledger.signedRegistered = true →
    ∃ u, (h.uploads space).getLast? = some u ∧ u.accepted = true ∧ Names ledger u

theorem Unpublished.vouches (unpublished : h.Unpublished space) : h.Vouches space := by
  intro ledger found published
  cases (unpublished ledger found).symm.trans published

structure Rests (space : Namespace) (h h' : Holdings) : Prop where
  ledger : h'.ledger? space = h.ledger? space
  uploads : h'.uploads space = h.uploads space

theorem Rests.refl (space : Namespace) (h : Holdings) : Rests space h h := ⟨rfl, rfl⟩

theorem Rests.trans (first : Rests space h h') (second : Rests space h' h'') : Rests space h h'' :=
  ⟨second.ledger.trans first.ledger, second.uploads.trans first.uploads⟩

theorem Rests.vouches (rests : Rests space h h') (vouches : h.Vouches space) : h'.Vouches space := by
  unfold Vouches
  rw [rests.ledger, rests.uploads]
  exact vouches

theorem Rests.unpublished (rests : Rests space h h') (unpublished : h.Unpublished space) : h'.Unpublished space := by
  unfold Unpublished
  rw [rests.ledger]
  exact unpublished

theorem Unsent.rests (unsent : Unsent space h h') : Rests space h h' := ⟨unsent.ledger?, unsent.unsent⟩

theorem Around.rests (around : Around space h h') {other : Namespace} (different : other ≠ space) : Rests other h h' :=
  ⟨around.ledger? different, around.uploads other different⟩

theorem rests_write {key : String} (apart : key ∉ ledgerKeys) (value : Option Json) (space : Namespace) (h : Holdings) :
    Rests space h (h.write key value) :=
  ⟨ledger?_write apart value h space, rfl⟩

theorem Sent.names {key : SignedPreKey} {spare : LastResortPreKey} {accepted : Bool}
    (sent : Sent space key spare accepted h h') :
    ∃ u ledger ledger', h'.uploads space = h.uploads space ++ [u] ∧ u.accepted = accepted ∧
      h.ledger? space = .ok ledger ∧ h'.ledger? space = .ok ledger' ∧ Names ledger' u ∧
      ledger'.signedRegistered = (accepted || ledger.signedRegistered) := by
  obtain ⟨ledger, before, -, -, after⟩ := sent.counted
  obtain ⟨identity, -, uploaded⟩ := sent.sent
  exact ⟨_, ledger, _, uploaded, rfl, before, after, ⟨rfl, rfl⟩, rfl⟩

theorem Sent.vouches {key : SignedPreKey} {spare : LastResortPreKey} (sent : Sent space key spare true h h') :
    h'.Vouches space := by
  obtain ⟨u, ledger, ledger', uploaded, accepted, -, after, names, -⟩ := sent.names
  intro found there _
  obtain rfl := Except.ok.inj (after.symm.trans there)
  exact ⟨u, by rw [uploaded, List.getLast?_append, List.getLast?_singleton]; rfl, accepted, names⟩

theorem Sent.unpublished {key : SignedPreKey} {spare : LastResortPreKey} (sent : Sent space key spare false h h')
    (unpublished : h.Unpublished space) : h'.Unpublished space := by
  obtain ⟨u, ledger, ledger', -, -, before, after, -, same⟩ := sent.names
  intro found there
  obtain rfl := Except.ok.inj (after.symm.trans there)
  exact same.trans (unpublished ledger before)

theorem unpublished_setLedger (h : Holdings) (space : Namespace) (ledger : PreKeyLedger) :
    (h.setLedger space { ledger with signedRegistered := false }).Unpublished space := by
  intro found there
  rw [ledger?_setLedger] at there
  rw [← Except.ok.inj there]

/-- A namespace was left alone, or it is not marked in vain. -/
def Fares (start h : Holdings) : Prop := ∀ space, Rests space start h ∨ h.Vouches space

theorem Fares.refl (h : Holdings) : Fares h h := fun space => Or.inl (.refl space h)

theorem Fares.rests {start : Holdings} (fares : Fares start h) (rests : ∀ space, Rests space h h') : Fares start h' := by
  intro space
  rcases fares space with same | vouches
  · exact Or.inl (same.trans (rests space))
  · exact Or.inr ((rests space).vouches vouches)

theorem Fares.write {start : Holdings} (fares : Fares start h) {key : String} (apart : key ∉ ledgerKeys)
    (value : Option Json) : Fares start (h.write key value) :=
  fares.rests fun space => rests_write apart value space h

theorem Fares.around {start : Holdings} (fares : Fares start h) (around : Around space h h') (vouches : h'.Vouches space) :
    Fares start h' := by
  intro other
  by_cases same : other = space
  · subst same
    exact Or.inr vouches
  rcases fares other with rests | vouches
  · exact Or.inl (rests.trans (around.rests same))
  · exact Or.inr ((around.rests same).vouches vouches)

end Holdings

/-! ## What enrolments make of it -/

variable {start h : Holdings}

private def Cleared (start : Holdings) (which : Namespace → Prop) (h : Holdings) : Prop :=
  (∀ space, which space → h.Unpublished space) ∧ Fares start h

theorem provisionKeys_fares (space : Namespace) (credentials : Service.Credentials) (unpublished : h.Unpublished space)
    (fares : Fares start h) :
    Ensures (contract fun _ => True) (provisionKeys space credentials)
      (fun _ h' => Around space h h' ∧ Fares start h') (fun _ => Fares start) h := by
  refine (provisionKeys_ensures space credentials fun _ _ => trivial).mono ?_ ?_
  · rintro _ h' ⟨key, spare, -, sent⟩
    exact ⟨sent.toAround, fares.around sent.toAround sent.vouches⟩
  · rintro _ h' (unsent | ⟨key, spare, sent⟩)
    · exact fares.around unsent.toAround (unsent.rests.unpublished unpublished).vouches
    · exact fares.around sent.toAround (sent.unpublished unpublished).vouches

private theorem provisionAll_fares (credentials : Service.Credentials) {spaces : List Namespace} (distinct : spaces.Nodup)
    (cleared : Cleared start (· ∈ spaces) h) :
    Ensures (contract fun _ => True) (provisionAll credentials spaces) (fun _ => Fares start) (fun _ => Fares start) h := by
  induction spaces generalizing h with
  | nil => exact ensures_pure cleared.2
  | cons space spaces ih =>
    obtain ⟨outside, distinct⟩ := List.nodup_cons.1 distinct
    obtain ⟨unpublished, fares⟩ := cleared
    refine Ensures.bind (provisionKeys_fares space credentials (unpublished space List.mem_cons_self) fares) ?_
    rintro _ h' ⟨around, fares'⟩
    refine Ensures.bind (ih distinct ⟨?_, fares'⟩) fun _ h fares => ensures_pure fares
    intro other member
    have different : other ≠ space := fun same => outside (same ▸ member)
    exact (around.rests different).unpublished (unpublished other (List.mem_cons_of_mem _ member))

private theorem unmarked_cleared {space : Namespace} {rest : List Namespace} (cleared : Cleared start (· ∉ space :: rest) h)
    (ledger : PreKeyLedger) :
    Cleared start (· ∉ rest) (h.setLedger space { ledger with signedRegistered := false }) := by
  obtain ⟨unpublished, fares⟩ := cleared
  have around := around_setLedger space h { ledger with signedRegistered := false }
  have unmarked := unpublished_setLedger h space ledger
  refine ⟨?_, fares.around around unmarked.vouches⟩
  intro other done
  by_cases same : other = space
  · subst same
    exact unmarked
  · exact (around.rests same).unpublished (unpublished other (by simp [same, done]))

theorem bindIdentity_fares (aci : Aci) (pni : Pni) (fares : Fares start h) :
    Ensures (contract fun _ => True) (bindIdentity aci pni) (fun _ => Cleared start fun _ => True) (fun _ => Fares start) h := by
  refine ensures_bind.2 (ensures_during.2 (ensures_put (by decide) trivial ?_))
  refine ensures_bind.2 (ensures_during.2 (ensures_put (by decide) trivial ?_))
  refine ensures_bind.2 (ensures_during.2 (ensures_put (by decide) trivial ?_))
  refine Ensures.bind (Ensures.forIn_rest (fun rest => Cleared start (· ∉ rest)) ?_ ⟨?_, ?_⟩) ?_
  · intro space rest state h cleared
    exact ensures_unmarked trivial (fun ledger _ => ⟨state, rfl, unmarked_cleared cleared ledger⟩) fun _ => cleared.2
  · intro space outside
    exact absurd (by cases space <;> simp [Namespace.all]) outside
  · exact ((fares.write (by decide) _).write (by decide) _).write (by decide) _
  · rintro _ h ⟨unpublished, fares⟩
    refine ensures_bind.2 (ensures_during.2 ?_)
    refine ensures_of_harmless (harmless_store (by trivial) fun _ _ => rfl) trivial ?_ fun _ => fares
    exact fun _ => ⟨fun space _ => unpublished space List.not_mem_nil, fares⟩

theorem register_fares (a : Application) (fares : Fares start h) :
    Ensures (contract fun _ => True) (register a) (fun _ => Fares start) (fun _ => Fares start) h := by
  rw [register_eq]
  apply Ensures.bind ((reach_verification a).ensures (Within.keeps (by simp) asksProof_harmless) fares)
  rintro ⟨p, verified⟩ h fares
  have rekeyed : Ensures (contract fun _ => True) (rekeying p verified.aci verified.pni) (fun _ => Fares start)
      (fun _ => Fares start) h := by
    refine Ensures.bind (ensures_mapError.2 (bindIdentity_fares _ _ fares)) ?_
    rintro _ h ⟨unpublished, fares⟩
    exact ensures_mapError.2 (provisionAll_fares _ (by decide) ⟨fun space _ => unpublished space trivial, fares⟩)
  apply Ensures.bind rekeyed
  intro provisioned h fares
  have apart : ∀ key ∈ concludedKeys, key ∉ ledgerKeys := by decide
  exact ensures_map.2 ((reach_conclusion a p _ _).ensures
    (Within.keeps (fun key member value _ fares => fares.write (apart key member) value) concludes_harmless) fares)

/-! ## Undertakings one after another -/

variable {κ σ : Type}

/-- What is done for an account, each time to its end, and what the journal then holds. -/
inductive Undertaken : Installation κ σ × Journal → Installation κ σ × Journal → Prop
  | registers {c : Installation κ σ} {j : Journal} (t : Thread) (a : Application) : c.store.Admits t →
    Undertaken (c, j) ((c.run t (register a)).2, j ++ c.journal t (register a))
  | binds {c : Installation κ σ} {j : Journal} (t : Thread) (aci : Aci) (pni : Pni) : c.store.Admits t →
    Undertaken (c, j) ((c.run t (bindIdentity aci pni)).2, j ++ c.journal t (bindIdentity aci pni))
  | provisions {c : Installation κ σ} {j : Journal} (t : Thread) (space : Namespace) (credentials : Service.Credentials) :
    c.store.Admits t →
    Undertaken (c, j) ((c.run t (provisionKeys space credentials)).2, j ++ c.journal t (provisionKeys space credentials))
  | opensScope {c : Installation κ σ} {j : Journal} (t : Thread) : c.store.Admits t →
    Undertaken (c, j) ({ c with store := (c.store.openScope t).2 }, j)
  | commitsScope {c : Installation κ σ} {j : Journal} (t : Thread) : c.store.Admits t →
    Undertaken (c, j) ({ c with store := (c.store.closeScope t true).2 }, j)

abbrev Undertakings : Installation κ σ × Journal → Installation κ σ × Journal → Prop := Relation.ReflTransGen Undertaken

/-- The last upload for a namespace was made by a provisioning that began when the namespace counted as
published already. -/
def Renewed (start now : Installation κ σ × Journal) (space : Namespace) (u : Upload) : Prop :=
  ∃ (c : Installation κ σ) (j : Journal) (t : Thread) (credentials : Service.Credentials) (ledger : PreKeyLedger),
    Undertakings start (c, j) ∧ c.store.Admits t ∧
      (c.run t (preKeys space)).1 = .ok ledger ∧ ledger.signedRegistered = true ∧
      Undertakings ((c.run t (provisionKeys space credentials)).2, j ++ c.journal t (provisionKeys space credentials)) now ∧
      now.2.uploads space = j.uploads space ++ [u]

/-- If a namespace counts as published, then for a reason. -/
private def Accounted (start now : Installation κ σ × Journal) (h : Holdings) (space : Namespace) : Prop :=
  ∀ ledger, h.ledger? space = .ok ledger → ledger.signedRegistered = true →
    ∃ u, (h.uploads space).getLast? = some u ∧ Names ledger u ∧ (u.accepted = true ∨ Renewed start now space u)

section

variable {start now next : Installation κ σ × Journal} {h h' : Holdings} {space : Namespace}

private theorem Renewed.step {u : Upload} (renewed : Renewed start now space u) (step : Undertaken now next)
    (same : next.2.uploads space = now.2.uploads space) : Renewed start next space u := by
  obtain ⟨c, j, t, credentials, ledger, reached, admits, read, published, later, uploaded⟩ := renewed
  exact ⟨c, j, t, credentials, ledger, reached, admits, read, published, later.tail step, same.trans uploaded⟩

private theorem Holdings.Vouches.accounted (vouches : h.Vouches space) : Accounted start now h space := by
  intro ledger found published
  obtain ⟨u, last, accepted, names⟩ := vouches ledger found published
  exact ⟨u, last, names, Or.inl accepted⟩

private theorem Accounted.rests (accounted : Accounted start now h space) (step : Undertaken now next) (rests : Rests space h h')
    (uploads : h.uploads = now.2.uploads) (uploads' : h'.uploads = next.2.uploads) : Accounted start next h' space := by
  unfold Accounted
  rw [rests.ledger, rests.uploads]
  intro ledger found published
  obtain ⟨u, last, names, why⟩ := accounted ledger found published
  have same : next.2.uploads space = now.2.uploads space := by rw [← uploads, ← uploads', rests.uploads]
  exact ⟨u, last, names, why.imp_right fun renewed => renewed.step step same⟩

private theorem shown_uploads {c : Installation κ σ} {j : Journal} (shown : Shown c j h) : h.uploads = j.uploads := by
  obtain ⟨-, m, -, rfl⟩ := shown
  rfl

private theorem accounted_of_fares (accounted : ∀ space, Accounted start now h space) (step : Undertaken now next)
    (shown : Shown now.1 now.2 h) (shown' : Shown next.1 next.2 h') (fares : Fares h h') (space : Namespace) :
    Accounted start next h' space := by
  rcases fares space with rests | vouches
  · exact (accounted space).rests step rests (shown_uploads shown) (shown_uploads shown')
  · exact vouches.accounted

private theorem accounted_provisionKeys {c : Installation κ σ} {j : Journal} {t : Thread} {credentials : Service.Credentials}
    (reached : Undertakings start (c, j)) (accounted : ∀ space, Accounted start (c, j) h space) (shown : Shown c j h)
    (admits : c.store.Admits t) :
    ∃ h', Shown (c.run t (provisionKeys space credentials)).2 (j ++ c.journal t (provisionKeys space credentials)) h' ∧
      ∀ other, Accounted start
        ((c.run t (provisionKeys space credentials)).2, j ++ c.journal t (provisionKeys space credentials)) h' other := by
  have step : Undertaken (c, j) _ := .provisions t space credentials admits
  obtain ⟨h', held, shown', -⟩ := shown.run admits (provisionKeys_ensures space credentials fun _ _ => trivial)
  refine ⟨h', shown', fun other => ?_⟩
  have rests (rests : Rests other h h') := (accounted other).rests step rests (shown_uploads shown) (shown_uploads shown')
  by_cases same : other = space
  · subst same
    rcases result : (c.run t (provisionKeys other credentials)).1 with e | p
    · rw [result] at held
      obtain unsent | ⟨key, spare, sent⟩ := held
      · exact rests unsent.rests
      -- The service refused, and the mark is the one that was there when the provisioning began.
      · obtain ⟨u, before, after, uploaded, -, found, found', names, mark⟩ := sent.names
        intro ledger there published
        obtain rfl := Except.ok.inj (found'.symm.trans there)
        refine ⟨u, by rw [uploaded, List.getLast?_append, List.getLast?_singleton]; rfl, names, Or.inr ?_⟩
        refine ⟨c, j, t, credentials, before, reached, admits, (shown.preKeys admits other).trans found, ?_, .refl, ?_⟩
        · exact mark.symm.trans published
        · rw [← shown_uploads shown', ← shown_uploads shown, uploaded]
    · rw [result] at held
      obtain ⟨key, spare, -, sent⟩ := held
      exact sent.vouches.accounted
  · refine rests (Around.rests ?_ same)
    rcases result : (c.run t (provisionKeys space credentials)).1 with e | p
    · rw [result] at held
      obtain unsent | ⟨key, spare, sent⟩ := held
      · exact unsent.toAround
      · exact sent.toAround
    · rw [result] at held
      obtain ⟨key, spare, -, sent⟩ := held
      exact sent.toAround

private theorem accounted_of_undertakings {c : Installation κ σ} (new : c.store.Serves .empty) (honest : c.keyFactory.Honest)
    (course : Undertakings (c, []) now) : ∃ h, Shown now.1 now.2 h ∧ ∀ space, Accounted (c, []) now h space := by
  induction course with
  | refl =>
    refine ⟨_, ⟨honest, _, new, rfl⟩, ?_⟩
    intro space ledger found published
    have initial : (Holdings.of .empty []).ledger? space = .ok .initial := by
      simp [ledger?, Holdings.of, Memory.empty, Table.get?_nil, Slot.interpret]
      rfl
    obtain rfl := Except.ok.inj (initial.symm.trans found)
    cases published
  | tail earlier step ih =>
    obtain ⟨h, shown, accounted⟩ := ih
    cases step with
    | registers t a admits =>
      obtain ⟨h', held, shown', -⟩ := shown.run admits (register_fares a (.refl h))
      exact ⟨h', shown', accounted_of_fares accounted (.registers t a admits) shown shown' (either_same held)⟩
    | binds t aci pni admits =>
      have bound := (bindIdentity_fares aci pni (.refl h)).mono (fun _ _ => And.right) fun _ _ => id
      obtain ⟨h', held, shown', -⟩ := shown.run admits bound
      exact ⟨h', shown', accounted_of_fares accounted (.binds t aci pni admits) shown shown' (either_same held)⟩
    | provisions t space credentials admits => exact accounted_provisionKeys earlier accounted shown admits
    | opensScope t admits =>
      have shown' := shown.openScope admits
      exact ⟨h, shown', accounted_of_fares accounted (.opensScope t admits) shown shown' (.refl h)⟩
    | commitsScope t admits =>
      have shown' := shown.commitScope admits
      exact ⟨h, shown', accounted_of_fares accounted (.commitsScope t admits) shown shown' (.refl h)⟩

end

/-- Whatever was undertaken on a new client whose source of keys is honest (`KeyFactory.Honest`), the ledger of a
namespace that counts as published names the prekeys that were sent to the service last. The service took them, or a
provisioning sent them that began when the namespace counted as published already. -/
theorem published_names_last {c c' : Installation κ σ} {j : Journal} (new : c.store.Serves .empty)
    (honest : c.keyFactory.Honest) (course : Undertakings (c, []) (c', j)) {t : Thread} (admits : c'.store.Admits t)
    {space : Namespace} {ledger : PreKeyLedger} (read : (c'.run t (preKeys space)).1 = .ok ledger)
    (published : ledger.signedRegistered = true) :
    ∃ u, (j.uploads space).getLast? = some u ∧ Names ledger u ∧
      (u.accepted = true ∨ Renewed (c, []) (c', j) space u) := by
  obtain ⟨h, shown, accounted⟩ := accounted_of_undertakings new honest course
  have found : h.ledger? space = .ok ledger := (shown.preKeys admits space).symm.trans read
  have uploads : h.uploads = j.uploads := shown_uploads shown
  rw [← uploads]
  exact accounted space ledger found published

/-! ## A renewal that the service refuses -/

private def secondRefused : Installation Rehearsal.KeyScript Rehearsal.ServiceScript :=
  .rehearsed Installation.rehearsedKeys ⟨[], [.usual, .rejected 503 "later"], []⟩

private def provision (c : Installation κ σ) : Installation κ σ := (c.run ⟨0, none⟩ (provisionKeys .aci ⟨"ada", "secret"⟩)).2

private def renewing : Journal :=
  [] ++ secondRefused.journal ⟨0, none⟩ (provisionKeys .aci ⟨"ada", "secret"⟩) ++
    (provision secondRefused).journal ⟨0, none⟩ (provisionKeys .aci ⟨"ada", "secret"⟩)

private theorem admits_secondRefused : secondRefused.store.Admits ⟨0, none⟩ := trivial

private theorem undertakings_renewing : Undertakings (secondRefused, []) (provision (provision secondRefused), renewing) :=
  (Relation.ReflTransGen.single (.provisions ⟨0, none⟩ .aci ⟨"ada", "secret"⟩ admits_secondRefused)).tail
    (.provisions ⟨0, none⟩ .aci ⟨"ada", "secret"⟩ (admits_run admits_secondRefused _))

/-- The service took the first prekeys and refused those that should replace them. The namespace counts as
published, and the ledger names the ones that were refused. -/
theorem published_names_last_refused :
    ((provision (provision secondRefused)).run ⟨0, none⟩ (preKeys .aci)).1 =
        .ok ⟨some ⟨2⟩, some ⟨1⟩, some ⟨3⟩, some ⟨2⟩, true⟩ ∧
      ∃ u, (renewing.uploads .aci).getLast? = some u ∧ Names ⟨some ⟨2⟩, some ⟨1⟩, some ⟨3⟩, some ⟨2⟩, true⟩ u ∧
        (u.accepted = true ∨ Renewed (secondRefused, []) (provision (provision secondRefused), renewing) .aci u) := by
  have read : ((provision (provision secondRefused)).run ⟨0, none⟩ (preKeys .aci)).1 =
      .ok ⟨some ⟨2⟩, some ⟨1⟩, some ⟨3⟩, some ⟨2⟩, true⟩ := by decide +kernel
  refine ⟨read, ?_⟩
  exact published_names_last (c := secondRefused) rfl Rehearsal.KeyScript.factory_honest undertakings_renewing
    (admits_run (admits_run admits_secondRefused _) _) read rfl

/-- A namespace counts as published with prekeys in use that the service never took. -/
theorem published_without_acceptance :
    Undertakings (secondRefused, []) (provision (provision secondRefused), renewing) ∧
      ∃ ledger, ((provision (provision secondRefused)).run ⟨0, none⟩ (preKeys .aci)).1 = .ok ledger ∧
        ledger.signedRegistered = true ∧
        ∀ u ∈ renewing.uploads .aci, u.accepted = true →
          ledger.activeSigned ≠ some u.signedId ∧ ledger.activeLastResort ≠ some u.lastResortId :=
  ⟨undertakings_renewing, ⟨some ⟨2⟩, some ⟨1⟩, some ⟨3⟩, some ⟨2⟩, true⟩, by decide +kernel, rfl, by decide +kernel⟩

end Enrolment.Client
