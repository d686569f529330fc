import Enrolment.Client.Registration
import Enrolment.Proofs.Client.Conduct
/-!
What provisioning a namespace does to the holdings. It touches nothing outside the namespace. If it
fails before anything was sent to the service, the ledger is as before; once something was sent, the
ledger has moved past what was sent, whether the service took it or not (`provisionKeys_ensures`).
-/
namespace Enrolment.Client

open Store Activity

namespace Holdings

/-- Nothing outside the key material of one namespace has changed, and its identity keys, if there
were any, are the same. -/
structure Around (space : Namespace) (h h' : Holdings) : Prop where
  value : ∀ key, key ≠ (Account.preKeys space).key → h'.value key = h.value key
  identity : ∀ other, other ≠ space → h'.identity other = h.identity other
  kept : ∀ keys, h.identity space = some keys → h'.identity space = some keys
  signed : ∀ other, other ≠ space → h'.signed other = h.signed other
  lastResort : ∀ other, other ≠ space → h'.lastResort other = h.lastResort other
  uploads : ∀ other, other ≠ space → h'.uploads other = h.uploads other
  drawn : h.drawn <+: h'.drawn

/-- What was sent to the service, and the ledger with it, is as before. -/
structure Unsent (space : Namespace) (h h' : Holdings) : Prop extends Around space h h' where
  ledger : h'.value (Account.preKeys space).key = h.value (Account.preKeys space).key
  unsent : h'.uploads space = h.uploads space

def Due (counter : Option PreKeyId) (drawn : List PreKeyId) (id : PreKeyId) : Prop :=
  counter = some id ∨ counter = none ∧ id ∈ drawn

/-- A prekey and a last resort were sent to the service. They are stored, and both counters are past
them. -/
structure Sent (space : Namespace) (key : SignedPreKey) (spare : LastResortPreKey) (accepted : Bool)
    (h h' : Holdings) : Prop extends Around space h h' where
  counted : ∃ ledger, h.ledger? space = .ok ledger ∧ Due ledger.nextSigned h'.drawn key.id ∧
    Due ledger.nextLastResort h'.drawn spare.key.id ∧
    h'.ledger? space = .ok ⟨some key.id.next, some key.id, some spare.key.id.next, some spare.key.id,
      accepted || ledger.signedRegistered⟩
  stored : h'.signed space key.id = some key
  storedSpare : h'.lastResort space spare.key.id = some spare
  sent : ∃ identity, h'.identity space = some identity ∧ h'.uploads space = h.uploads space ++
    [⟨.of identity.publicKey (.of key.id key.publicKey key.signature)
      (.of spare.key.id spare.key.publicKey spare.key.signature), accepted⟩]

variable {space : Namespace} {h h' h'' : Holdings}

theorem Around.refl (space : Namespace) (h : Holdings) : Around space h h :=
  ⟨fun _ _ => rfl, fun _ _ => rfl, fun _ found => found, fun _ _ => rfl, fun _ _ => rfl, fun _ _ => rfl, List.prefix_rfl⟩

theorem Around.trans (first : Around space h h') (second : Around space h' h'') : Around space h h'' where
  value key other := (second.value key other).trans (first.value key other)
  identity space other := (second.identity space other).trans (first.identity space other)
  kept keys found := second.kept keys (first.kept keys found)
  signed space other := (second.signed space other).trans (first.signed space other)
  lastResort space other := (second.lastResort space other).trans (first.lastResort space other)
  uploads space other := (second.uploads space other).trans (first.uploads space other)
  drawn := first.drawn.trans second.drawn

theorem Unsent.refl (space : Namespace) (h : Holdings) : Unsent space h h := ⟨.refl space h, rfl, rfl⟩

theorem Unsent.trans (first : Unsent space h h') (second : Unsent space h' h'') : Unsent space h h'' :=
  ⟨first.toAround.trans second.toAround, second.ledger.trans first.ledger, second.unsent.trans first.unsent⟩

theorem Unsent.ledger? (unsent : Unsent space h h') : h'.ledger? space = h.ledger? space := by
  rw [Holdings.ledger?, unsent.ledger, Holdings.ledger?]

theorem Around.ledger? (around : Around space h h') {other : Namespace} (different : other ≠ space) :
    h'.ledger? other = h.ledger? other := by
  have apart : (Account.preKeys other).key ≠ (Account.preKeys space).key := by
    revert different
    cases space <;> cases other <;> decide
  rw [Holdings.ledger?, around.value _ apart, Holdings.ledger?]

theorem around_setLedger (space : Namespace) (h : Holdings) (ledger : PreKeyLedger) :
    Around space h (h.setLedger space ledger) :=
  { Around.refl space h with value := fun _ other => if_neg other.symm }

theorem unsent_putSignedPreKey (space : Namespace) (key : SignedPreKey) (answer : Except Fault Unit) (h : Holdings) :
    Unsent space h (after (.store (.putSignedPreKey space key)) answer h) := by
  refine { Unsent.refl space h with signed := fun other different => funext fun id => if_neg ?_ }
  intro same
  exact different (Prod.mk.inj same).1.symm

theorem unsent_putLastResortPreKey (space : Namespace) (spare : LastResortPreKey) (answer : Except Fault Unit)
    (h : Holdings) : Unsent space h (after (.store (.putLastResortPreKey space spare)) answer h) := by
  refine { Unsent.refl space h with lastResort := fun other different => funext fun id => if_neg ?_ }
  intro same
  exact different (Prod.mk.inj same).1.symm

theorem around_publish (space : Namespace) (content : Service.PreKeyUpload) (credentials : Service.Credentials)
    (answer : Except Service.NetworkError Unit) (h : Holdings) :
    Around space h (after (.service (.publish space content credentials)) answer h) :=
  { Around.refl space h with uploads := fun _ different => if_neg different.symm }

theorem Due.subset {counter : Option PreKeyId} {drawn more : List PreKeyId} {id : PreKeyId} (due : Due counter drawn id)
    (subset : drawn ⊆ more) : Due counter more id := by
  obtain stands | ⟨without, member⟩ := due
  · exact Or.inl stands
  · exact Or.inr ⟨without, subset member⟩

theorem Unsent.sent {k : Holdings} (unsent : Unsent space h k) {key : SignedPreKey} {spare : LastResortPreKey}
    {identity : IdentityKeys} {ledger : PreKeyLedger} (there : k.identity space = some identity)
    (stored : k.signed space key.id = some key) (storedSpare : k.lastResort space spare.key.id = some spare)
    (found : h.ledger? space = .ok ledger) (due : Due ledger.nextSigned k.drawn key.id)
    (dueSpare : Due ledger.nextLastResort k.drawn spare.key.id) (credentials : Service.Credentials)
    (answer : Except Service.NetworkError Unit) :
    Sent space key spare answer.toOption.isSome h
      (after (.service (.publish space (.of identity.publicKey (.of key.id key.publicKey key.signature)
          (.of spare.key.id spare.key.publicKey spare.key.signature)) credentials)) answer
        (k.setLedger space ⟨some key.id.next, some key.id, some spare.key.id.next, some spare.key.id,
          answer.toOption.isSome || ledger.signedRegistered⟩)) where
  toAround := (unsent.toAround.trans (around_setLedger space k _)).trans (around_publish space _ credentials answer _)
  counted := ⟨ledger, found, due, dueSpare, ledger?_setLedger k space _⟩
  stored := stored
  storedSpare := storedSpare
  sent := ⟨identity, there, by simp [after, Holdings.setLedger, Holdings.write, unsent.unsent]⟩

end Holdings

open Holdings

variable {always : Holdings → Prop} {space : Namespace} {h : Holdings}

private theorem ensures_identityKeys {good : IdentityKeys → Holdings → Prop} {bad : Fault → Holdings → Prop}
    (held : ∀ h', Unsent space h h' → always h')
    (found : ∀ identity h', Unsent space h h' → h'.identity space = some identity → good identity h')
    (failed : ∀ e h', Unsent space h h' → bad e h') :
    Ensures (contract always) (identityKeys space) good bad h := by
  have same := Unsent.refl space h
  refine ensures_bind.2 (ensures_store ⟨trivial, held h same⟩ ?_)
  rintro stored h' ⟨foretold, unchanged⟩
  obtain rfl : h = h' := unchanged.symm
  rw [foretold]
  cases there : h.identity space with
  | some identity => exact ensures_pure (found identity h same there)
  | none =>
    refine ensures_bind.2 (ensures_during.2 (ensures_made (fun _ => rfl) (held h same) ?_ fun _ => failed _ h same))
    intro identity _
    refine ensures_bind.2 (ensures_store ⟨trivial, held h same⟩ ?_)
    rintro done h' ⟨foretold, rfl⟩
    rw [foretold]
    refine ensures_pure (found identity _ ⟨{ Around.refl space h with identity := ?_, kept := ?_ }, rfl, rfl⟩ (if_pos rfl))
    · intro other different
      exact if_neg different.symm
    · intro keys before
      rw [there] at before
      cases before

private theorem ensures_counter (space : Namespace) {counter : Option PreKeyId} {good : PreKeyId → Holdings → Prop}
    {bad : Fault → Holdings → Prop} (held : always h)
    (due : ∀ id h', Due counter h'.drawn id → Unsent space h h' → h'.identity = h.identity → good id h')
    (failed : ∀ e, bad e h) : Ensures (contract always) (orNew counter (keys .preKeyId)) good bad h := by
  cases counter with
  | some id => exact ensures_pure (due id h (Or.inl rfl) (Unsent.refl space h) rfl)
  | none =>
    refine ensures_keys ⟨trivial, held⟩ ?_
    rintro made h' ⟨-, rfl⟩
    cases made with
    | error e => exact failed e
    | ok id =>
      have longer : h.drawn <+: h.drawn ++ [id] := List.prefix_append _ _
      exact due id _ (Or.inr ⟨rfl, by simp [after]⟩) { Unsent.refl space h with drawn := longer } rfl

private theorem ensures_publish {k : Holdings} (unsent : Unsent space h k) {key : SignedPreKey}
    {spare : LastResortPreKey} {identity : IdentityKeys} {ledger : PreKeyLedger}
    (there : k.identity space = some identity) (stored : k.signed space key.id = some key)
    (storedSpare : k.lastResort space spare.key.id = some spare) (found : h.ledger? space = .ok ledger)
    (due : Due ledger.nextSigned k.drawn key.id) (dueSpare : Due ledger.nextLastResort k.drawn spare.key.id)
    (credentials : Service.Credentials) (stable : ∀ h', Around space h h' → always h') :
    Ensures (contract always) (do
        let _ ← updatePreKeys space (PreKeyLedger.use key.id spare.key.id)
        let upload : Service.PreKeyUpload :=
          .of identity.publicKey (.of key.id key.publicKey key.signature)
            (.of spare.key.id spare.key.publicKey spare.key.signature)
        during (.uploading space) (mapError (.of <| .network ·) (service (.publish space upload credentials)))
        let _ ← updatePreKeys space fun ledger => { ledger with signedRegistered := true }
        return (⟨space, key.id, spare.key.id⟩ : Provisioned))
      (fun p h' => ∃ key spare, p = ⟨space, key.id, spare.key.id⟩ ∧ Sent space key spare true h h')
      (fun _ h' => Unsent space h h' ∨ ∃ key spare, Sent space key spare false h h') k := by
  have sent := unsent.sent there stored storedSpare found due dueSpare credentials
  have before := unsent.ledger?.trans found
  refine ensures_bind.2 (ensures_updatePreKeys (stable k unsent.toAround) ?_ fun _ _ => Or.inl unsent)
  intro ledger' found'
  obtain rfl : ledger = ledger' := Except.ok.inj (before.symm.trans found')
  have moved : Around space h (k.setLedger space (PreKeyLedger.use key.id spare.key.id ledger)) :=
    unsent.toAround.trans (around_setLedger space k _)
  refine ensures_bind.2 (ensures_during.2 (ensures_mapError.2 (ensures_service ⟨trivial, stable _ moved⟩ ?_)))
  rintro answer h' ⟨-, rfl⟩
  cases answer with
  | error e => exact Or.inr ⟨key, spare, sent (.error e)⟩
  | ok accepted =>
    have read := ledger?_setLedger k space (PreKeyLedger.use key.id spare.key.id ledger)
    refine ensures_bind.2 (ensures_updatePreKeys ?_ ?_ ?_)
    · exact stable _ (moved.trans (around_publish space _ credentials (.ok accepted) _))
    · intro ledger' found'
      obtain rfl := Except.ok.inj (read.symm.trans found')
      refine ensures_pure ⟨key, spare, rfl, ?_⟩
      have final := sent (.ok accepted)
      rw [← setLedger_setLedger k space (PreKeyLedger.use key.id spare.key.id ledger)] at final
      exact final
    · intro e failed
      cases read.symm.trans failed

theorem provisionKeys_ensures (space : Namespace) (credentials : Service.Credentials)
    (stable : ∀ h', Around space h h' → always h') :
    Ensures (contract always) (provisionKeys space credentials)
      (fun p h' => ∃ key spare, p = ⟨space, key.id, spare.key.id⟩ ∧ Sent space key spare true h h')
      (fun _ h' => Unsent space h h' ∨ ∃ key spare, Sent space key spare false h h') h := by
  refine ensures_bind.2 (ensures_identityKeys (fun _ unsent => stable _ unsent.toAround) ?_ fun _ _ => Or.inl)
  intro identity k unsent there
  refine ensures_bind.2 (ensures_preKeys (stable k unsent.toAround) ?_ fun _ _ => Or.inl unsent)
  intro ledger found
  rw [unsent.ledger?] at found
  refine ensures_bind.2 (ensures_counter space (stable k unsent.toAround) ?_ fun _ => Or.inl unsent)
  intro signedId k₁ due unsent₁ sameIdentity
  replace unsent₁ := unsent.trans unsent₁
  refine ensures_bind.2 (ensures_counter space (stable k₁ unsent₁.toAround) ?_ fun _ => Or.inl unsent₁)
  intro lastResortId k₂ dueSpare unsent₂ sameIdentity'
  replace due := due.subset unsent₂.drawn.subset
  replace unsent₂ := unsent₁.trans unsent₂
  have there₂ : k₂.identity space = some identity := by rw [sameIdentity', sameIdentity, there]
  -- The keys are made, and nothing is kept of them yet.
  refine ensures_bind.2 (ensures_during.2 (ensures_made (fun _ => rfl) (stable k₂ unsent₂.toAround)
    (fun (key : SignedPreKey) (asked : key.id = signedId) => ?_) fun _ => Or.inl unsent₂))
  subst asked
  refine ensures_bind.2 (ensures_during.2 (ensures_made (fun _ => rfl) (stable k₂ unsent₂.toAround)
    (fun (spare : LastResortPreKey) (asked : spare.key.id = lastResortId) => ?_) fun _ => Or.inl unsent₂))
  subst asked
  refine ensures_bind.2 (ensures_done trivial (stable k₂ unsent₂.toAround) (fun _ sure => sure) ?_)
  have unsent₃ := unsent₂.trans (unsent_putSignedPreKey space key (.ok ()) k₂)
  refine ensures_bind.2 (ensures_done trivial (stable _ unsent₃.toAround) (fun _ sure => sure) ?_)
  have unsent₄ := unsent₃.trans (unsent_putLastResortPreKey space spare (.ok ()) _)
  have stored : (after (.store (.putLastResortPreKey space spare)) (.ok ())
      (after (.store (.putSignedPreKey space key)) (.ok ()) k₂)).signed space key.id = some key := if_pos rfl
  have storedSpare : (after (.store (.putLastResortPreKey space spare)) (.ok ())
      (after (.store (.putSignedPreKey space key)) (.ok ()) k₂)).lastResort space spare.key.id = some spare := if_pos rfl
  exact ensures_publish unsent₄ there₂ stored storedSpare found due dueSpare credentials stable

end Enrolment.Client
