import Enrolment.Proofs.Client.Dealings
import Enrolment.Proofs.Client.OwnRecipient
/-!
What an attempt that succeeds told the service is what it wrote down. Main result: `register_committed_as_told`.
-/
namespace Enrolment.Client

open Store Activity

variable {κ σ : Type} {c : Installation κ σ} {t : Thread} {s : Readings × Journal}

/-! ## What is prepared -/

/-- Where the values of an attempt come from: the application, the store, or the source of keys. -/
structure Drawn (r : Readings) (a : Application) (p : Prepared) (made : Journal) : Prop where
  silent : made.served = []
  password : a.password.toList ++ made.passwords = [p.password]
  profileKey : ∃ stored, (r Account.profileKey.key).bind Account.profileKey.interpret = .ok stored ∧
    (a.profileKey.or stored).toList ++ made.profileKeys = [p.profileKey]

private theorem chosen_password {there : Option String} {x : String} {made : Journal}
    (chosen : Chosen (fun x => ⟨.keys .password, .ok x⟩) there x made) :
    made.served = [] ∧ there.toList ++ made.passwords = [x] ∧ made.profileKeys = [] := by
  cases chosen <;> exact ⟨rfl, rfl, rfl⟩

private theorem chosen_profileKey {there : Option ProfileKey} {x : ProfileKey} {made : Journal}
    (chosen : Chosen (fun x => ⟨.keys .profileKey, .ok x⟩) there x made) :
    made.served = [] ∧ made.passwords = [] ∧ there.toList ++ made.profileKeys = [x] := by
  cases chosen <;> exact ⟨rfl, rfl, rfl⟩

theorem prepare_deals (a : Application) :
    Deals (prepare a) (fun p s' => s'.1 = s.1 ∧ ∃ made, s'.2 = s.2 ++ made ∧ Drawn s.1 a p made) s := by
  refine deals_bind.2 (deals_orNew .password fun password made₁ first => ?_)
  refine deals_bind.2 (deals_get? fun _ _ => deals_bind.2 (deals_orNew .registrationId fun aciId made₂ second => ?_))
  refine deals_bind.2 (deals_get? fun _ _ => deals_bind.2 (deals_orNew .registrationId fun pniId made₃ third => ?_))
  refine deals_bind.2 (deals_get? fun stored read => ?_)
  refine deals_bind.2 (deals_orNew .profileKey fun profileKey made₄ fourth => ?_)
  have quiet : Journal.Quiet (made₂ ++ made₃) :=
    (second.quiet fun _ => ⟨rfl, rfl, rfl⟩).append (third.quiet fun _ => ⟨rfl, rfl, rfl⟩)
  obtain ⟨served, password, profileKeys⟩ := chosen_password first
  obtain ⟨served', passwords, profileKey⟩ := chosen_profileKey fourth
  refine deals_pure ⟨rfl, made₁ ++ ((made₂ ++ made₃) ++ made₄), by simp, ?_, ?_, stored, read, ?_⟩
  · rw [Journal.served_append, Journal.served_append, served, quiet.served, served']
    rfl
  · rw [Journal.passwords_append, Journal.passwords_append, quiet.passwords, passwords]
    simpa using password
  · rw [Journal.profileKeys_append, Journal.profileKeys_append, profileKeys, quiet.profileKeys]
    exact profileKey

theorem verification_deals (a : Application) :
    Deals (verification a) (fun (p, verified) s' => s'.1 = s.1 ∧ ∃ made, Drawn s.1 a p made ∧
      s'.2 = s.2 ++ (made ++ [⟨.service (.verify (verifyRequest a p) ⟨a.number.text, p.password⟩), .ok verified⟩])) s := by
  unfold verification
  split
  · exact ensures_throw trivial
  refine deals_bind.2 (deals_mapError.2 ((prepare_deals a).mono ?_))
  rintro p ⟨r, h⟩ ⟨rfl, made, rfl, drawn⟩
  refine deals_bind.2 (deals_mapError.2 (deals_service fun verified => deals_pure ⟨rfl, made, drawn, ?_⟩))
  exact List.append_assoc ..

/-! ## What is published -/

def publication (identity : IdentityKeys) (key : SignedPreKey) (spare : LastResortPreKey) : Service.PreKeyUpload :=
  .of identity.publicKey (.of key.id key.publicKey key.signature)
    (.of spare.key.id spare.key.publicKey spare.key.signature)

/-- A namespace was provisioned: the service has what the source of keys made under two ids, and these are in use. -/
structure Supplied (space : Namespace) (credentials : Service.Credentials) (r r' : Readings) (q : Provisioned)
    (more : Journal) : Prop where
  named : q.space = space
  published : ∃ identity key spare,
    ⟨.keys (.signedPreKey q.signedPreKeyId identity), .ok key⟩ ∈ more ∧
    ⟨.keys (.lastResortPreKey q.lastResortPreKeyId identity), .ok spare⟩ ∈ more ∧
    more.served = [⟨.service (.publish space (publication identity key spare) credentials), .ok ()⟩]
  ledger : ∃ l, r' (Account.preKeys space).key = .ok (some ((Account.preKeys space).encode l)) ∧
    l.activeSigned = some q.signedPreKeyId ∧ l.activeLastResort = some q.lastResortPreKeyId
  others : ∀ key ≠ (Account.preKeys space).key, r' key = r key
  passwords : more.passwords = []
  profileKeys : more.profileKeys = []

private theorem identityKeys_deals (space : Namespace) :
    Deals (identityKeys space) (fun _ s' => s'.1 = s.1 ∧ ∃ made, s'.2 = s.2 ++ made ∧ made.Quiet) s := by
  refine deals_bind.2 (deals_store rfl fun stored => ?_)
  cases stored with
  | some identity => exact deals_pure ⟨rfl, [], (List.append_nil _).symm, ⟨rfl, rfl, rfl⟩⟩
  | none =>
    refine deals_bind.2 (deals_during.2 (deals_keys fun identity => ?_))
    exact deals_bind.2 (deals_store rfl fun _ => deals_pure ⟨rfl, _, rfl, ⟨rfl, rfl, rfl⟩⟩)

theorem provisionKeys_deals (space : Namespace) (credentials : Service.Credentials) :
    Deals (provisionKeys space credentials)
      (fun q s' => ∃ more, s'.2 = s.2 ++ more ∧ Supplied space credentials s.1 s'.1 q more) s := by
  refine deals_bind.2 ((identityKeys_deals space).mono ?_)
  rintro identity ⟨r, h⟩ ⟨rfl, made, rfl, quiet⟩
  refine deals_bind.2 (deals_getOr fun ledger _ => ?_)
  refine deals_bind.2 (deals_orNew .preKeyId fun signedId made₁ first => ?_)
  refine deals_bind.2 (deals_orNew .preKeyId fun lastResortId made₂ second => ?_)
  refine deals_bind.2 (deals_during.2 (deals_keys fun signed => ?_))
  refine deals_bind.2 (deals_during.2 (deals_keys fun lastResort => ?_))
  refine deals_bind.2 (deals_store rfl fun _ => deals_bind.2 (deals_store rfl fun _ => ?_))
  refine deals_bind.2 (deals_updatePreKeys fun l _ => ?_)
  refine deals_bind.2 (deals_during.2 (deals_mapError.2 (deals_service fun _ => ?_)))
  refine deals_bind.2 (deals_updatePreKeys fun l' read => deals_pure ?_)
  have quiet : Journal.Quiet (made ++ made₁ ++ made₂) :=
    (quiet.append (first.quiet fun _ => ⟨rfl, rfl, rfl⟩)).append (second.quiet fun _ => ⟨rfl, rfl, rfl⟩)
  refine ⟨made ++ made₁ ++ made₂ ++ [⟨.keys (.signedPreKey signedId identity), .ok signed⟩,
    ⟨.keys (.lastResortPreKey lastResortId identity), .ok lastResort⟩,
    ⟨.service (.publish space (publication identity signed lastResort) credentials), .ok ()⟩], by simp [publication],
    { named := rfl, published := ⟨identity, signed, lastResort, by simp, by simp, ?_⟩, ledger := ⟨_, if_pos rfl, ?_⟩,
      others := ?_, passwords := ?_, profileKeys := ?_ }⟩
  · rw [Journal.served_append, quiet.served]
    rfl
  · have written : (Account.preKeys space).valueOr .initial (.ok (some ((Account.preKeys space).encode
        (PreKeyLedger.use signedId lastResortId l)))) = .ok l' := by simpa [Readings.set] using read
    rw [Slot.valueOr, Except.bind, Slot.interpret_encode] at written
    obtain rfl : PreKeyLedger.use signedId lastResortId l = l' := Except.ok.inj written
    exact ⟨rfl, rfl⟩
  · intro key other
    simp [Readings.set, Ne.symm other]
  · rw [Journal.passwords_append, quiet.passwords]
    rfl
  · rw [Journal.profileKeys_append, quiet.profileKeys]
    rfl

/-! ## Up to the last namespace -/

private theorem bindIdentity_deals (aci : Aci) (pni : Pni) : Deals (bindIdentity aci pni) (fun _ s' => s'.2 = s.2 ∧
    s'.1 Account.aci.key = .ok (some (Account.aci.encode aci)) ∧
    s'.1 Account.pni.key = .ok (some (Account.pni.encode pni))) s := by
  refine deals_bind.2 (deals_during.2 (deals_put (deals_bind.2 (deals_during.2 (deals_put ?_)))))
  refine deals_bind.2 (deals_during.2 (deals_put (deals_bind.2 ?_)))
  refine (Ensures.forIn (fun s' : Readings × Journal => s'.2 = s.2 ∧
    s'.1 Account.aci.key = .ok (some (Account.aci.encode aci)) ∧
    s'.1 Account.pni.key = .ok (some (Account.pni.encode pni))) ?_ ?_).mono ?_ fun _ _ => id
  · rintro space _ s' ⟨noted, aciThere, pniThere⟩
    refine deals_bind.2 (deals_during.2 (deals_store rfl fun _ => deals_bind.2 (deals_updatePreKeys fun _ _ => ?_)))
    refine deals_pure ⟨noted, ?_, ?_⟩
    · cases space <;> exact aciThere
    · cases space <;> exact pniThere
  · exact ⟨rfl, rfl, rfl⟩
  · exact fun _ s' held => deals_bind.2 (deals_during.2 (deals_store rfl fun _ => deals_pure held))

private theorem username_eq (aci : Aci) :
    aci.uuid.toText ++ "." ++ Text.decimalText DeviceId.primary.value.toNat = aci.uuid.toText ++ ".1" := by
  have one : "." ++ Text.decimalText DeviceId.primary.value.toNat = ".1" := by decide +kernel
  rw [String.append_assoc, one]

def Rekeyed (aci : Aci) (pni : Pni) (password : String) (r' : Readings) (provisioned : List Provisioned) (more : Journal) :
    Prop :=
  ∃ r r₁ q q' first second,
    r Account.aci.key = .ok (some (Account.aci.encode aci)) ∧ r Account.pni.key = .ok (some (Account.pni.encode pni)) ∧
    Supplied .aci ⟨aci.uuid.toText ++ ".1", password⟩ r r₁ q first ∧
    Supplied .pni ⟨aci.uuid.toText ++ ".1", password⟩ r₁ r' q' second ∧
    provisioned = [q, q'] ∧ more = first ++ second

theorem rekeying_deals (p : Prepared) (aci : Aci) (pni : Pni) : Deals (rekeying p aci pni)
    (fun provisioned s' => ∃ more, s'.2 = s.2 ++ more ∧ Rekeyed aci pni p.password s'.1 provisioned more) s := by
  rw [rekeying, username_eq]
  refine deals_bind.2 (deals_mapError.2 ((bindIdentity_deals aci pni).mono ?_))
  rintro _ ⟨r, _⟩ ⟨rfl, aciThere, pniThere⟩
  refine deals_mapError.2 (deals_bind.2 ((provisionKeys_deals .aci _).mono ?_))
  rintro q ⟨r₁, _⟩ ⟨first, rfl, supplied⟩
  refine deals_bind.2 (deals_bind.2 ((provisionKeys_deals .pni _).mono ?_))
  rintro q₁ ⟨r₂, _⟩ ⟨second, rfl, supplied₁⟩
  refine deals_bind.2 (deals_pure (deals_pure (deals_pure ⟨first ++ second, List.append_assoc .., ?_⟩)))
  exact ⟨r, r₁, q, q₁, first, second, aciThere, pniThere, supplied, supplied₁, rfl, rfl⟩

private theorem dealings_verification {a : Application} {p : Prepared} {verified : Service.VerifyResponse}
    (done : (c.run t (verification a)).1 = .ok (p, verified)) :
    ∃ made, Drawn (c.readings t) a p made ∧ (c.journal t (verification a)).dealings =
      made ++ [⟨.service (.verify (verifyRequest a p) ⟨a.number.text, p.password⟩), .ok verified⟩] := by
  obtain ⟨-, made, drawn, dealt⟩ := (verification_deals a).run done
  exact ⟨made, drawn, dealt⟩

private theorem dealings_rekeying {p : Prepared} {aci : Aci} {pni : Pni} {provisioned : List Provisioned}
    {c' : Installation κ σ} (done : c.run t (rekeying p aci pni) = (.ok provisioned, c')) :
    Rekeyed aci pni p.password (c'.readings t) provisioned (c.journal t (rekeying p aci pni)).dealings := by
  obtain ⟨more, dealt, rekeyed⟩ := (rekeying_deals p aci pni).run (congrArg Prod.fst done)
  obtain rfl : (c.journal t (rekeying p aci pni)).dealings = more := dealt
  rwa [done] at rekeyed

/-! ## Down to the end -/

private theorem dealings_conclusion (a : Application) (p : Prepared) (aci : Aci) (pni : Pni) :
    (c.journal t (conclusion a p aci pni)).dealings = [] := by
  refine List.filter_eq_nil_iff.2 fun exchange member => ?_
  obtain ⟨call, answer⟩ := exchange
  cases (reach_conclusion a p aci pni).of_mem_trace member with
  | read | write | erase => exact Bool.false_ne_true
  | other is =>
    cases call with
    | keys | service => exact (is.elim id id).elim
    | _ => exact Bool.false_ne_true

private theorem linked_conclusion {a : Application} {p : Prepared} {aci : Aci} {pni : Pni} {ended : RecipientId × Bool}
    {c' : Installation κ σ} (done : c.run t (conclusion a p aci pni) = (.ok ended, c')) :
    c'.readings t Account.profileKey.key = .ok (some (Account.profileKey.encode p.profileKey)) := by
  have committed : Calls (SparesKey Account.profileKey.key) (commitLocalState a p) :=
    sparesKey_of_within (reach_commitLocalState a p) (fun _ is => is.elim) (by decide)
  have followed (id : RecipientId) : Calls (SparesKey Account.profileKey.key) (followUp a id) :=
    sparesKey_of_within (reach_followUp a id) (fun _ is => is.elim) (by decide)
  have deals : Deals (conclusion a p aci pni) (fun _ s' => s'.1 Account.profileKey.key =
      .ok (some (Account.profileKey.encode p.profileKey))) (c.readings t, []) := by
    refine deals_bind.2 (deals_bind.2 (deals_mapError.2 (deals_bind.2 (deals_during.2 (deals_store rfl fun id => ?_)))))
    refine deals_bind.2 (deals_store rfl fun _ => deals_bind.2 (deals_store rfl fun _ => ?_))
    refine deals_bind.2 (deals_store rfl fun _ => deals_bind.2 (deals_put (deals_pure ?_)))
    refine deals_bind.2 (deals_mapError.2 ((deals_spares committed).mono fun _ s₁ kept => deals_pure ?_))
    exact (deals_spares (followed id)).mono fun _ _ kept' => kept'.trans kept
  have linked := deals.run (congrArg Prod.fst done)
  rwa [done] at linked

private theorem readings_conclusion {a : Application} {p : Prepared} {aci : Aci} {pni : Pni} {ended : RecipientId × Bool}
    {c' : Installation κ σ} (done : c.run t (conclusion a p aci pni) = (.ok ended, c')) {key : String}
    (early : key ∈ reboundKeys) : c'.readings t key = c.readings t key := by
  have apart : ∀ key ∈ reboundKeys, key ∉ concludedKeys := by decide
  have spared : Calls (SparesKey key) (conclusion a p aci pni) := by
    refine sparesKey_of_within (reach_conclusion a p aci pni) (fun op is => ?_) (apart key early)
    obtain is | is := is
    · cases op <;> first | rfl | exact is.elim
    · exact is.elim
  rw [← readings_run (c := c) (t := t) spared, done]

/-! ## All of it -/

/-- A request carries what an application brought, and the registration ids that were prepared for it. -/
structure Carries (request : Service.VerifyRequest) (a : Application) (p : Prepared) : Prop where
  number : request.number = a.number
  sessionId : request.sessionId = a.sessionId
  recoveryPassword : request.recoveryPassword = a.recoveryPassword
  registrationLock : request.attributes.registrationLock = a.registrationLock
  pushToken : request.pushToken = a.pushToken
  registrationId : request.attributes.registrationId = p.aciRegistrationId
  pniRegistrationId : request.attributes.pniRegistrationId = p.pniRegistrationId

/-- The prekeys of a namespace: the source of keys made them under two ids, the service was told of them, and they
are in use. -/
structure Published (c c' : Installation κ σ) (t : Thread) (j : Journal) (q : Provisioned) (upload : Service.PreKeyUpload) :
    Prop where
  made : ∃ identity key spare, ⟨.keys (.signedPreKey q.signedPreKeyId identity), .ok key⟩ ∈ j ∧
    ⟨.keys (.lastResortPreKey q.lastResortPreKeyId identity), .ok spare⟩ ∈ j ∧ upload = publication identity key spare
  /-- No id but those asked for is published, unless the source of keys makes something else than it is asked for. -/
  named : c.keyFactory.Honest →
    upload.signedPreKey.keyId = q.signedPreKeyId ∧ upload.lastResortPreKey.keyId = q.lastResortPreKeyId
  inUse : ∃ l, (c'.run t (preKeys q.space)).1 = .ok l ∧
    l.activeSigned = some q.signedPreKeyId ∧ l.activeLastResort = some q.lastResortPreKeyId

/-- What an attempt settled on is what the service was told and what is written down. -/
structure AsTold (c c' : Installation κ σ) (t : Thread) (a : Application) (e : Enrolled) (p : Prepared) (j : Journal) :
    Prop where
  /-- The password that was brought, or else the one that was made. -/
  password : a.password.toList ++ j.passwords = [p.password]
  /-- The profile key that was brought, or else the one that was there, or else the one that was made. -/
  profileKey : ∃ stored, (c.run t (get? Account.profileKey)).1 = .ok stored ∧
    (a.profileKey.or stored).toList ++ j.profileKeys = [p.profileKey]
  told : ∃ request verified q upload q' upload',
    j.served = [⟨.service (.verify request ⟨a.number.text, p.password⟩), .ok verified⟩,
      ⟨.service (.publish .aci upload ⟨e.aci.uuid.toText ++ ".1", p.password⟩), .ok ()⟩,
      ⟨.service (.publish .pni upload' ⟨e.aci.uuid.toText ++ ".1", p.password⟩), .ok ()⟩] ∧
    Carries request a p ∧ verified.aci = e.aci ∧ verified.pni = e.pni ∧
    e.provisioned = [q, q'] ∧ q.space = .aci ∧ q'.space = .pni ∧ Published c c' t j q upload ∧ Published c c' t j q' upload'
  committed : Committed c' t a p
  aci : (c'.run t (get? Account.aci)).1 = .ok (some e.aci)
  pni : (c'.run t (get? Account.pni)).1 = .ok (some e.pni)
  accountKey : (c'.run t (get? Account.profileKey)).1 = .ok (some p.profileKey)
  recipient : ∃ id, (c'.run t (store (.recipient e.recipientId))).1 =
    .ok (some ⟨id, some e.aci, some e.pni, some a.number, .registered, true, some p.profileKey⟩)

private theorem published_of_supplied {c' : Installation κ σ} {ε α : Type} {b : Activity ε α} {j : Journal}
    (noted : c.journal t b = j) {space : Namespace} {credentials : Service.Credentials} {r r' : Readings} {q : Provisioned}
    {more : Journal} (supplied : Supplied space credentials r r' q more) (part : more ⊆ j)
    (kept : c'.readings t (Account.preKeys space).key = r' (Account.preKeys space).key) :
    ∃ upload, more.served = [⟨.service (.publish space upload credentials), .ok ()⟩] ∧ q.space = space ∧
      Published c c' t j q upload := by
  subst noted
  obtain ⟨identity, key, spare, signed, lastResort, served⟩ := supplied.published
  obtain ⟨l, written, activeSigned, activeLastResort⟩ := supplied.ledger
  refine ⟨_, served, supplied.named, ⟨⟨identity, key, spare, part signed, part lastResort, rfl⟩, ?_, ?_⟩⟩
  · intro honest
    exact ⟨isKept_of_mem_journal honest (part signed), isKept_of_mem_journal honest (part lastResort)⟩
  · refine ⟨l, ?_, activeSigned, activeLastResort⟩
    rw [supplied.named, preKeys, Installation.run_getOr, get?_of_reading (kept.trans written)]
    rfl

section

variable {c' : Installation κ σ} {aci : Aci} {pni : Pni} {password : String} {r' : Readings} {provisioned : List Provisioned}
  {more j : Journal}

private theorem silent_of_rekeyed (rekeyed : Rekeyed aci pni password r' provisioned more) :
    more.passwords = [] ∧ more.profileKeys = [] := by
  obtain ⟨r, r₁, q, q', first, second, -, -, supplied, supplied', -, rfl⟩ := rekeyed
  simp [supplied.passwords, supplied'.passwords, supplied.profileKeys, supplied'.profileKeys]

private theorem named_of_rekeyed (rekeyed : Rekeyed aci pni password r' provisioned more) :
    r' Account.aci.key = .ok (some (Account.aci.encode aci)) ∧ r' Account.pni.key = .ok (some (Account.pni.encode pni)) := by
  obtain ⟨r, r₁, q, q', first, second, aciThere, pniThere, supplied, supplied', -⟩ := rekeyed
  have apart {key : String} (other : key ∉ ledgerKeys) : r' key = r key := by
    have different (space : Namespace) : key ≠ (Account.preKeys space).key :=
      fun same => other (same ▸ preKeys_mem_ledgerKeys space)
    exact (supplied'.others key (different .pni)).trans (supplied.others key (different .aci))
  exact ⟨(apart (by decide)).trans aciThere, (apart (by decide)).trans pniThere⟩

private theorem told_of_rekeyed {ε α : Type} {b : Activity ε α} (noted : c.journal t b = j)
    (rekeyed : Rekeyed aci pni password r' provisioned more) (part : more ⊆ j)
    (kept : ∀ key ∈ reboundKeys, c'.readings t key = r' key) : ∃ q upload q' upload',
      more.served = [⟨.service (.publish .aci upload ⟨aci.uuid.toText ++ ".1", password⟩), .ok ()⟩,
        ⟨.service (.publish .pni upload' ⟨aci.uuid.toText ++ ".1", password⟩), .ok ()⟩] ∧
      provisioned = [q, q'] ∧ q.space = .aci ∧ q'.space = .pni ∧
      Published c c' t j q upload ∧ Published c c' t j q' upload' := by
  obtain ⟨r, r₁, q, q', first, second, -, -, supplied, supplied', rfl, rfl⟩ := rekeyed
  obtain ⟨part, part'⟩ := List.append_subset.1 part
  have ledger : c'.readings t (Account.preKeys .aci).key = r₁ (Account.preKeys .aci).key :=
    (kept _ (by decide)).trans (supplied'.others _ (by decide))
  obtain ⟨upload, served, space, published⟩ := published_of_supplied noted supplied part ledger
  obtain ⟨upload', served', space', published'⟩ := published_of_supplied noted supplied' part' (kept _ (by decide))
  exact ⟨q, upload, q', upload', by rw [Journal.served_append, served, served']; rfl, rfl, space, space', published, published'⟩

end

section

variable {j made more : Journal} {request : Service.VerifyRequest} {credentials : Service.Credentials}
  {verified : Service.VerifyResponse}
  (dealings : j.dealings = made ++ (⟨.service (.verify request credentials), .ok verified⟩ :: more))

include dealings

private theorem subset_of_dealings : more ⊆ j := by
  have listed : more ⊆ j.dealings := by
    rw [dealings]
    exact List.Subset.trans (List.subset_cons_self _ _) (List.subset_append_right _ _)
  exact fun _ member => (List.mem_filter.1 (listed member)).1

private theorem served_of_dealings :
    j.served = made.served ++ (⟨.service (.verify request credentials), .ok verified⟩ :: more.served) := by
  rw [← Journal.served_dealings, dealings, Journal.served_append]
  rfl

private theorem passwords_of_dealings : j.passwords = made.passwords ++ more.passwords := by
  rw [← Journal.passwords_dealings, dealings, Journal.passwords_append]
  rfl

private theorem profileKeys_of_dealings : j.profileKeys = made.profileKeys ++ more.profileKeys := by
  rw [← Journal.profileKeys_dealings, dealings, Journal.profileKeys_append]
  rfl

end

/-- An attempt that succeeds told the service what it committed, for whatever was given, stored or made. -/
theorem register_committed_as_told (c : Installation κ σ) (t : Thread) (a : Application) {e : Enrolled}
    (done : (c.run t (register a)).1 = .ok e) :
    ∃ p, AsTold c (c.run t (register a)).2 t a e p (c.journal t (register a)) := by
  obtain ⟨p, verified, c₁, c₂, first, second, third, sameAci, samePni, noted⟩ := stages_of_ok done
  obtain ⟨made, drawn, verifying⟩ := dealings_verification (congrArg Prod.fst first)
  obtain ⟨stored, read, profileKey⟩ := drawn.profileKey
  have rekeyed := dealings_rekeying second
  have ready := ready_run (ready_of_rekeying (congrArg Prod.fst second)) (rekeying p verified.aci verified.pni)
  have committed := committed_conclusion (congrArg Prod.fst third)
  rw [second] at ready
  rw [third] at committed
  generalize (c.run t (register a)).2 = c', ran : c.journal t (register a) = j at third noted committed ⊢
  -- The conclusion deals with nobody, so all is told by then.
  have dealings : j.dealings = made ++ (⟨.service (.verify (verifyRequest a p) ⟨a.number.text, p.password⟩), .ok verified⟩ ::
      (c₁.journal t (rekeying p verified.aci verified.pni)).dealings) := by
    simp [noted, verifying, dealings_conclusion]
  generalize (c₁.journal t (rekeying p verified.aci verified.pni)).dealings = more at rekeyed dealings
  rw [sameAci, samePni] at rekeyed third
  obtain ⟨q, upload, q', upload', served, told⟩ :=
    told_of_rekeyed ran rekeyed (subset_of_dealings dealings) fun key early => readings_conclusion third early
  obtain ⟨aciThere, pniThere⟩ := named_of_rekeyed rekeyed
  obtain ⟨passwords, profileKeys⟩ := silent_of_rekeyed rekeyed
  refine ⟨p,
    { password := ?_, profileKey := ⟨stored, ?_, ?_⟩
      told := ⟨verifyRequest a p, verified, q, upload, q', upload', ?_, ⟨rfl, rfl, rfl, rfl, rfl, rfl, rfl⟩, sameAci,
        samePni, told⟩
      committed
      aci := get?_of_reading ((readings_conclusion third (by decide)).trans aciThere)
      pni := get?_of_reading ((readings_conclusion third (by decide)).trans pniThere)
      accountKey := get?_of_reading (linked_conclusion third)
      recipient := recipient_of_conclusion ready third }⟩
  · rw [passwords_of_dealings dealings, passwords, List.append_nil, drawn.password]
  · rwa [Installation.run_get?]
  · rw [profileKeys_of_dealings dealings, profileKeys, List.append_nil, profileKey]
  · rw [served_of_dealings dealings, drawn.silent, served]
    rfl

open Rehearsal in
/-- A client that has a profile key already, and knows the number as that of some recipient. -/
private def acquaintance : Installation KeyScript ServiceScript :=
  { Installation.rehearsed { Installation.rehearsedKeys with passwords := ["made"] } .empty with
    store := .memory { Memory.empty with
      values := [(Account.profileKey.key, Account.profileKey.encode (.repeated 3))]
      recipientCount := 1
      recipients := [(⟨1⟩, { Recipient.new ⟨1⟩ with number := some Application.rehearsed.number })] } }

/-- The password is made, the profile key is the one that was there, and the recipient is the account's own now. -/
theorem register_committed_as_told_acquaintance :
    let a := { Application.rehearsed with password := none, profileKey := none }
    let c' := (acquaintance.run ⟨0, none⟩ (register a)).2
    ∃ e p, (acquaintance.run ⟨0, none⟩ (register a)).1 = .ok e ∧
      AsTold acquaintance c' ⟨0, none⟩ a e p (acquaintance.journal ⟨0, none⟩ (register a)) ∧
      p.password = "made" ∧ p.profileKey = .repeated 3 ∧ e.recipientId = ⟨1⟩ := by
  intro a c'
  have done : (acquaintance.run ⟨0, none⟩ (register a)).1 = .ok
      ⟨⟨⟨0x000000000000400080000000000000a1⟩⟩, ⟨⟨0x000000000000400080000000000000b1⟩⟩, ⟨1⟩,
        [⟨.aci, ⟨16777215⟩, ⟨1⟩⟩, ⟨.pni, ⟨100⟩, ⟨200⟩⟩], false, false⟩ := by decide +kernel
  obtain ⟨p, told⟩ := register_committed_as_told acquaintance ⟨0, none⟩ a done
  have passwords : (acquaintance.journal ⟨0, none⟩ (register a)).passwords = ["made"] := by decide +kernel
  have password : ["made"] = [p.password] := passwords ▸ told.password
  obtain ⟨stored, read, chosen⟩ := told.profileKey
  have there : (acquaintance.run ⟨0, none⟩ (get? Account.profileKey)).1 = .ok (some (.repeated 3)) := by decide +kernel
  obtain rfl := Except.ok.inj (there.symm.trans read)
  exact ⟨_, p, done, told, (List.cons.inj password).1.symm, (List.cons.inj chosen).1.symm, rfl⟩

/-- Where a source of keys gives other ids to its prekeys than it is asked for, the service is told of those, while
the outcome and the ledger have the ones that were asked for. -/
theorem told_otherwise_of_misnaming :
    let c' := (Installation.misnamed.run ⟨0, none⟩ (register .rehearsed)).2
    let j := Installation.misnamed.journal ⟨0, none⟩ (register .rehearsed)
    ∃ e, (Installation.misnamed.run ⟨0, none⟩ (register .rehearsed)).1 = .ok e ∧
      e.provisioned = [⟨.aci, ⟨16777215⟩, ⟨1⟩⟩, ⟨.pni, ⟨100⟩, ⟨200⟩⟩] ∧
      (j.uploads .aci).map (·.content.signedPreKey.keyId) = [⟨7⟩] ∧
      (c'.run ⟨0, none⟩ (preKeys .aci)).1 = .ok ⟨some ⟨1⟩, some ⟨16777215⟩, some ⟨2⟩, some ⟨1⟩, true⟩ := by
  intro c' j
  have done : (Installation.misnamed.run ⟨0, none⟩ (register .rehearsed)).1 = .ok
      ⟨⟨⟨0x000000000000400080000000000000a1⟩⟩, ⟨⟨0x000000000000400080000000000000b1⟩⟩, ⟨1⟩,
        [⟨.aci, ⟨16777215⟩, ⟨1⟩⟩, ⟨.pni, ⟨100⟩, ⟨200⟩⟩], false, false⟩ := by decide +kernel
  exact ⟨_, done, rfl, by decide +kernel, by decide +kernel⟩

end Enrolment.Client
