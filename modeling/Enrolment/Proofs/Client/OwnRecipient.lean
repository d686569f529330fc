import Enrolment.Proofs.Client.Stages
import Enrolment.Proofs.Store.OwnRow
/-!
The account's own recipient at the end of an attempt. Once the identifiers are bound the thread is known to
write without hindrance, so what is linked is found again. Main result: `recipient_of_conclusion`.
-/
namespace Enrolment.Client

open Store Activity

variable {κ σ ε α : Type} {c : Installation κ σ} {t : Thread}

/-! ## Threads that can write -/

def Installation.Ready (c : Installation κ σ) (t : Thread) : Prop := c.store.Ready t (c.store.stock t)

theorem ready_run (ready : c.Ready t) (a : Activity ε α) : (c.run t a).2.Ready t := by
  have honours : Plan.Honours (Installation.handle (κ := κ) (σ := σ) t) anything fun c _ => c.Ready t := by
    intro call c _ ready _
    refine ⟨(), trivial, ?_⟩
    cases call with
    | store op => exact (DataStore.perform_of_ready ready op).2.2
    | _ => exact ready
  have free : Ensures anything a (fun _ _ => True) (fun _ _ => True) () := ensures_anything (fun _ => trivial) fun _ => trivial
  obtain ⟨_, -, kept⟩ := Plan.Meets.run honours free ready
  exact kept

theorem ready_of_rekeying {p : Prepared} {aci : Aci} {pni : Pni} {provisioned : List Provisioned}
    (done : (c.run t (rekeying p aci pni)).1 = .ok provisioned) : c.Ready t := by
  obtain ⟨e, -, failed, -⟩ | ⟨_, bound, -⟩ := c.run_bind_cases t (mapError (RegistrationError.stopped .identityBinding)
    (bindIdentity aci pni)) fun _ => mapError (RegistrationError.stopped .keyProvisioning)
      (provisionAll ⟨aci.uuid.toText ++ "." ++ Text.decimalText DeviceId.primary.value.toNat, p.password⟩ Namespace.all)
  · cases (congrArg Prod.fst failed).symm.trans done
  have bound := c.ok_of_mapError t bound
  rw [bindIdentity_eq] at bound
  obtain ⟨e, -, failed, -⟩ | ⟨_, cleared, -⟩ :=
    c.run_bind_cases t (during .clearingRegistered (put Account.registered false)) fun _ => rebinding aci pni
  · cases (congrArg Prod.fst failed).symm.trans bound
  exact (DataStore.perform_write_of_ok (c.ok_of_mapError t cleared)).1

/-! ## Going through an activity -/

/-- The store answers, and changes, as if the thread were alone with it. -/
def stocking : Plan.Contract effects Stock where
  allowed _ _ := True
  answered
    | .store op, x, answer, x' => (answer, x') = x.perform op
    | _, x, _, x' => x' = x

private theorem honours_stocking :
    Plan.Honours (Installation.handle (κ := κ) (σ := σ) t) stocking fun c x => c.Ready t ∧ c.store.stock t = x := by
  rintro call c _ ⟨ready, rfl⟩ -
  cases call with
  | store op =>
    obtain ⟨answers, leaves, still⟩ := DataStore.perform_of_ready ready op
    exact ⟨_, Prod.ext answers leaves, still, rfl⟩
  | _ => exact ⟨_, rfl, ready, rfl⟩

variable {x : Stock} {row : RecipientRow}

private theorem stocking_store {op : Operation} {good : op.Result → Stock → Prop}
    (done : ∀ y, (x.perform op).1 = .ok y → good y (x.perform op).2) :
    Ensures stocking (store op) good (fun _ _ => True) x := by
  refine ensures_store trivial fun answer x' performed => ?_
  obtain ⟨answers, rfl⟩ := Prod.mk.inj performed
  cases answer with
  | ok y => exact done y answers.symm
  | error e => trivial

private theorem stocking_put {slot : Slot α} {y : α} {good : Unit → Stock → Prop}
    (written : good () (x.write slot.key (slot.encode y))) : Ensures stocking (put slot y) good (fun _ _ => True) x := by
  refine stocking_store fun _ _ => ?_
  rwa [Stock.perform_write]

/-! ## What is linked -/

private theorem linkRecipient_stocks (aci : Aci) (pni : Pni) (number : PhoneNumber) (key : ProfileKey) :
    Ensures stocking (linkRecipient aci pni number key)
      (fun id x' => x'.row? id = some (.of ⟨id, some aci, some pni, some number, .registered, true, some key⟩))
      (fun _ _ => True) x := by
  refine ensures_bind.2 (ensures_during.2 (stocking_store fun id resolved => ?_))
  refine ensures_bind.2 (stocking_store fun _ _ => ensures_bind.2 (stocking_store fun _ _ => ?_))
  refine ensures_bind.2 (stocking_store fun _ _ => ensures_bind.2 (stocking_put (ensures_pure ?_)))
  obtain ⟨id', row, x', found, bound⟩ := x.row?_selfRecipient aci pni number
  obtain rfl : id' = id := Except.ok.inj ((congrArg Prod.fst found).symm.trans resolved)
  rw [Stock.row?_of_apart (Stock.apart_write ..), Stock.row?_setProfileKey, Stock.row?_setProfileSharing,
    Stock.row?_markRegistered, found, bound]
  rfl

private theorem keeps_rows {reads writes : List String} {other : Effect → Prop} {a : Activity ε α}
    (calls : Calls (Within reads writes other) a) (others : ∀ op, other (.store op) → False) {id : RecipientId}
    (there : x.row? id = some row) :
    Ensures stocking a (fun _ x' => x'.row? id = some row) (fun _ x' => x'.row? id = some row) x := by
  refine calls.ensures (fun call x' within (kept : x'.row? id = some row) => ⟨trivial, ?_⟩) there
  intro answer x'' performed
  cases within with
  | read member =>
    rw [(Prod.mk.inj (performed.trans (Stock.perform_read ..))).2]
    exact kept
  | write member plain =>
    rw [(Prod.mk.inj (performed.trans (Stock.perform_write ..))).2, Stock.row?_of_apart (Stock.apart_write ..)]
    exact kept
  | @erase key member =>
    have erased : x'' = (x'.perform (.erase key)).2 := (Prod.mk.inj performed).2
    rw [erased, Stock.row?_of_apart (Stock.apart_erase ..)]
    exact kept
  | other is =>
    cases call with
    | store op => exact (others op is).elim
    | _ => exact performed ▸ kept

private theorem conclusion_stocks (a : Application) (p : Prepared) (aci : Aci) (pni : Pni) :
    Ensures stocking (conclusion a p aci pni) (fun ended x' => x'.row? ended.1 =
        some (.of ⟨ended.1, some aci, some pni, some a.number, .registered, true, some p.profileKey⟩))
      (fun _ _ => True) x := by
  refine ensures_bind.2 (ensures_bind.2 (ensures_mapError.2 ((linkRecipient_stocks ..).mono ?_ fun _ _ => id)))
  intro id x₁ linked
  refine ensures_bind.2 (ensures_mapError.2 ((keeps_rows (reach_commitLocalState a p) (fun _ is => is) linked).mono ?_
    fun _ _ _ => trivial))
  intro _ x₂ linked
  refine ensures_pure (ensures_bind.2 (ensures_mapError.2 ?_))
  have followed := keeps_rows (reach_scheduleFollowUps a) (fun _ is => is) linked
  exact followed.mono (fun _ _ kept => ensures_pure kept) fun _ _ _ => trivial

/-- Whatever was there, the own recipient has got the identifiers and the number, is registered, and shares its
profile under the key that was prepared. -/
theorem recipient_of_conclusion (ready : c.Ready t) {a : Application} {p : Prepared} {aci : Aci} {pni : Pni}
    {recipientId : RecipientId} {completed : Bool} {c' : Installation κ σ}
    (done : c.run t (conclusion a p aci pni) = (.ok (recipientId, completed), c')) : ∃ id,
      (c'.run t (store (.recipient recipientId))).1 =
        .ok (some ⟨id, some aci, some pni, some a.number, .registered, true, some p.profileKey⟩) := by
  obtain ⟨x, held, still, rfl⟩ := Plan.Meets.run honours_stocking (conclusion_stocks a p aci pni) ⟨ready, rfl⟩
  rw [show (conclusion a p aci pni).run.run (Installation.handle t) c = _ from done] at held still
  obtain ⟨id, read⟩ :=
    Stock.recipient_of_row? (r := ⟨recipientId, some aci, some pni, some a.number, .registered, true, some p.profileKey⟩) held
  exact ⟨id, (DataStore.perform_of_ready still (.recipient recipientId)).1.trans read⟩

end Enrolment.Client
