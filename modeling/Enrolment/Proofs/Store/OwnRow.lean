import Enrolment.Proofs.Store.SelfSearch
import Enrolment.Proofs.Store.Stock
/-!
The account's own recipient. Whatever its row held before, it is found or made, and it is read back with what
was written into it (`recipient_of_row?`).
-/
namespace Enrolment

theorem Table.get?_modify {κ α : Type} [DecidableEq κ] (t : Table κ α) (key : κ) (f : α → α) :
    (t.modify key f).get? key = (t.get? key).map f := by
  unfold modify
  cases found : t.get? key with
  | none => simpa using found
  | some a => simp [get?_put]

theorem Table.get?_of_find? {κ α : Type} [DecidableEq κ] {t : Table κ α} {test : κ × α → Bool} {key : κ}
    (found : (t.find? test).map (·.1) = some key) : ∃ a, t.get? key = some a := by
  obtain ⟨row, there, rfl⟩ := Option.map_eq_some_iff.1 found
  apply Option.isSome_iff_exists.1
  simp only [get?, Option.isSome_map, List.find?_isSome]
  exact ⟨row, List.mem_of_find?_eq_some there, by simp⟩

namespace Store

/-- The row of a recipient after the account's identifiers and its number were bound to it. -/
def RecipientRow.bind (row : RecipientRow) (aci : Aci) (pni : Pni) (number : PhoneNumber) : RecipientRow :=
  { row with aci := .text aci.uuid.toText, pni := .text pni.uuid.toText, number := .text number.text }

theorem RecipientRow.eq_of_of {r r' : Recipient} (same : RecipientRow.of r = .of r') : { r with id := r'.id } = r' := by
  obtain ⟨id, aci, pni, number, state, profileSharing, profileKey⟩ := r
  obtain ⟨id', aci', pni', number', state', profileSharing', profileKey'⟩ := r'
  simp only [RecipientRow.of, RecipientRow.mk.injEq] at same
  obtain ⟨sameAci, samePni, sameNumber, sameState, rfl, sameKey⟩ := same
  have text {α : Type} {write : α → String} (injective : Function.Injective write) {o o' : Option α}
      (same : Cell.ofText? (o.map write) = .ofText? (o'.map write)) : o = o' := by
    cases o' with
    | some a => exact (ofText?_eq_text write injective o a).1 same
    | none => cases o <;> first | rfl | cases same
  obtain rfl := text aciText_injective sameAci
  obtain rfl := text pniText_injective samePni
  obtain rfl := text numberText_injective sameNumber
  obtain rfl : state = state' := by
    cases state <;> cases state' <;> first | rfl | exact absurd sameState (by decide)
  obtain rfl : profileKey = profileKey' := by
    obtain _ | ⟨bytes, _⟩ := profileKey <;> obtain _ | ⟨bytes', _⟩ := profileKey' <;> simp_all [Cell.ofBytes?]
  rfl

namespace Script

private def first? (rows : Table RecipientId RecipientRow) (test : RecipientRow → Bool) : Option RecipientId :=
  (rows.find? fun row => test row.2).map (·.1)

private theorem run_orRecipientWhere_first? (found : Option RecipientId) (test : RecipientRow → Bool) (t : Tables) :
    (orRecipientWhere found test).run t = (.ok (found.or (first? t.recipients test)), t) := by
  cases found <;> rfl

theorem run_selfRecipient (t : Tables) (aci : Aci) (pni : Pni) (number : PhoneNumber) :
    ∃ (id : RecipientId) (row : RecipientRow) (t' : Tables), (selfRecipient aci pni number).run t = (.ok id, t') ∧
      t'.recipients.get? id = some (row.bind aci pni number) := by
  have searched (test : RecipientRow → Bool) : (recipientWhere test).run t = (.ok (first? t.recipients test), t) := rfl
  simp only [selfRecipient, run_atomically, run_bind, searched, run_orRecipientWhere_first?]
  cases found : ((first? t.recipients (·.aci = .text aci.uuid.toText)).or
      (first? t.recipients (·.pni = .text pni.uuid.toText))).or (first? t.recipients (·.number = .text number.text)) with
  | none =>
    refine ⟨_, ⟨.null, .null, .null, .text RegisteredState.unknown.name, false, .null⟩, _, rfl, ?_⟩
    exact (Table.get?_put _ _ _ _).trans (if_pos rfl)
  | some id =>
    obtain ⟨row, here⟩ : ∃ row, t.recipients.get? id = some row := by
      obtain found | ⟨-, found⟩ := Option.or_eq_some_iff.1 found
      · obtain found | ⟨-, found⟩ := Option.or_eq_some_iff.1 found <;> exact Table.get?_of_find? found
      · exact Table.get?_of_find? found
    refine ⟨id, row, _, rfl, ?_⟩
    exact (Table.get?_modify _ _ _).trans (congrArg (Option.map _) here)

end Script

namespace Stock

def row? : Stock → RecipientId → Option RecipientRow
  | memory m, id => (m.recipients.get? id).map RecipientRow.of
  | tables t, id => t.recipients.get? id

theorem row?_selfRecipient (x : Stock) (aci : Aci) (pni : Pni) (number : PhoneNumber) :
    ∃ (id : RecipientId) (row : RecipientRow) (x' : Stock), x.perform (.selfRecipient aci pni number) = (.ok id, x') ∧
      x'.row? id = some (row.bind aci pni number) := by
  cases x with
  | memory m =>
    obtain ⟨r, bound⟩ := m.recipients_find ⟨aci, pni, number⟩
    refine ⟨(m.find ⟨aci, pni, number⟩).1, .of r, memory (m.find ⟨aci, pni, number⟩).2, rfl, ?_⟩
    rw [row?, bound, Table.get?_put, if_pos rfl]
    rfl
  | tables t =>
    obtain ⟨id, row, t', ran, here⟩ := Script.run_selfRecipient t aci pni number
    refine ⟨id, row, tables t', ?_, here⟩
    show (((Script.selfRecipient aci pni number).run t).1, tables ((Script.selfRecipient aci pni number).run t).2) = _
    rw [ran]

private theorem row?_updateMemory (m : Memory) (id : RecipientId) {f : Recipient → Recipient} {g : RecipientRow → RecipientRow}
    (agree : ∀ r, RecipientRow.of (f r) = g (.of r)) :
    (memory (m.updateRecipient id f).2).row? id = ((memory m).row? id).map g := by
  unfold Memory.updateRecipient
  cases there : m.recipients.get? id with
  | none => simp [row?, there]
  | some r => simp [row?, there, Table.get?_put, agree]

private theorem row?_updateTables (t : Tables) (id : RecipientId) (g : RecipientRow → RecipientRow) :
    (tables ((Script.updateRecipient id g).run t).2).row? id = ((tables t).row? id).map g := by
  have ran : ((Script.updateRecipient id g).run t).2 = { t with recipients := t.recipients.modify id g } := by
    cases there : (t.recipients.get? id).isSome <;> simp [Script.updateRecipient, there]
  rw [ran]
  exact Table.get?_modify _ _ _

variable (x : Stock) (id : RecipientId)

theorem row?_markRegistered : (x.perform (.markRegistered id)).2.row? id =
    (x.row? id).map fun row => { row with registered := .text RegisteredState.registered.name } := by
  cases x with
  | memory m => exact row?_updateMemory m id fun _ => rfl
  | tables t => exact row?_updateTables t id _

theorem row?_setProfileSharing (enabled : Bool) : (x.perform (.setProfileSharing id enabled)).2.row? id =
    (x.row? id).map fun row => { row with profileSharing := enabled } := by
  cases x with
  | memory m => exact row?_updateMemory m id fun _ => rfl
  | tables t => exact row?_updateTables t id _

theorem row?_setProfileKey (key : ProfileKey) : (x.perform (.setProfileKey id key)).2.row? id =
    (x.row? id).map fun row => { row with profileKey := .blob key.bytes } := by
  cases x with
  | memory m => exact row?_updateMemory m id fun _ => rfl
  | tables t => exact row?_updateTables t id _

variable {x}

theorem row?_of_apart {y : Stock} (same : y.apart = x.apart) : y.row? = x.row? := by
  cases x <;> cases y <;> simp only [apart, memory.injEq, tables.injEq, Memory.mk.injEq, Tables.mk.injEq, reduceCtorEq] at same
  all_goals
    funext id
    simp only [row?, same]

theorem recipient_of_row? {r : Recipient} (there : x.row? r.id = some (.of r)) :
    ∃ id, (x.perform (.recipient r.id)).1 = .ok (some { r with id }) := by
  cases x with
  | memory m =>
    obtain ⟨r', found, same⟩ := Option.map_eq_some_iff.1 there
    refine ⟨r'.id, ?_⟩
    show Except.ok (m.recipients.get? r.id) = _
    rw [found, ← RecipientRow.eq_of_of same.symm]
  | tables t => exact ⟨r.id, congrArg Prod.fst (run_recipient_of there)⟩

end Stock

namespace DataStore

variable {s : DataStore} {t : Thread}

theorem perform_of_ready (ready : s.Ready t (s.stock t)) (op : Operation) :
    (s.perform t op).1 = ((s.stock t).perform op).1 ∧ (s.perform t op).2.stock t = ((s.stock t).perform op).2 ∧
      (s.perform t op).2.Ready t ((s.perform t op).2.stock t) := by
  cases s with
  | memory m => exact ⟨rfl, rfl, trivial⟩
  | database d =>
    have free : d.Free t := ready
    obtain ⟨answers, seen, -⟩ := Database.perform_of_free free op
    exact ⟨answers, congrArg Stock.tables seen, free.perform op⟩

end DataStore
end Store
end Enrolment
