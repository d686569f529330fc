import Enrolment.Proofs.Store.Rebinding
import Enrolment.Proofs.Text.PhoneNumber
/-!
Phone numbers from wherever they come: from a text, from a document, and back from a data store that a
recipient was bound in. All entrances take the same texts, and a number comes back as it went in.
Main result: `numbers_canonical`.
-/
namespace Enrolment

theorem PhoneNumber.ofJson?_eq_some_iff {document : Json} {n : PhoneNumber} :
    ofJson? document = some n ↔ ∃ given, document = .str given ∧ parse given = .ok n := by
  cases document with
  | str given =>
    simp only [ofJson?, Json.str.injEq, exists_eq_left']
    cases parse given <;> simp [Except.toOption]
  | _ => simp [ofJson?]

namespace Store

/-! ## Numbers in cells -/

namespace Script

variable {α β : Type} {tables tables' : Tables}

theorem run_bind_ok {s : Script α} {f : α → Script β} {b : β} (done : (s >>= f).run tables = (.ok b, tables')) :
    ∃ a between, s.run tables = (.ok a, between) ∧ (f a).run between = (.ok b, tables') := by
  rw [run_bind] at done
  split at done
  · rename_i a between first
    exact ⟨a, between, first, done⟩
  · cases done

theorem numberOf_eq_some_iff {cell : Cell} {number : Option PhoneNumber}
    (read : (numberOf cell).run tables = (.ok number, tables')) (n : PhoneNumber) :
    number = some n ↔ ∃ text, cell = .text text ∧ PhoneNumber.parse text = .ok n := by
  cases cell with
  | text text =>
    simp only [numberOf, column, Cell.optional?, Cell.text?, Option.map_some, run_bind, run_orFault_some] at read
    cases parsed : PhoneNumber.parse text with
    | ok m =>
      rw [parsed] at read
      obtain ⟨rfl, -⟩ : some m = number ∧ tables = tables' := by simpa using read
      simp [parsed]
    | error e =>
      rw [parsed] at read
      simp at read
  | null =>
    obtain ⟨rfl, -⟩ : none = number ∧ tables = tables' := by simpa [numberOf, column, Cell.optional?] using read
    simp
  | _ => simp [numberOf, column, Cell.optional?, Cell.text?] at read

theorem number_of_recipient {id : RecipientId} {r : Recipient}
    (read : (recipient id).run tables = (.ok (some r), tables')) :
    ∃ row, tables.recipients.get? id = some row ∧
      ∀ n, r.number = some n ↔ ∃ text, row.number = .text text ∧ PhoneNumber.parse text = .ok n := by
  obtain ⟨found, between, query, read⟩ := run_bind_ok read
  obtain ⟨rfl, rfl⟩ : tables.recipients.get? id = found ∧ tables = between := by simpa using query
  split at read
  · cases read
  · rename_i row there
    obtain ⟨number, between, fromCell, read⟩ := run_bind_ok read
    obtain ⟨stateName, between', -, read⟩ := run_bind_ok read
    obtain ⟨profileKey, between'', -, read⟩ := run_bind_ok read
    obtain ⟨aci, _, -, read⟩ := run_bind_ok read
    obtain ⟨pni, _, -, read⟩ := run_bind_ok read
    obtain ⟨state, _, -, read⟩ := run_bind_ok read
    cases read
    exact ⟨row, there, numberOf_eq_some_iff fromCell⟩

end Script

/-! ## Numbers of recipients -/

@[simp] theorem Update.number_apply (u : Update) (r : Recipient) : (u.apply r).number = r.number := by cases u <;> rfl

/-- The recipient is there, and has the number. -/
def Memory.Bound (m : Memory) (id : RecipientId) (n : PhoneNumber) : Prop :=
  ∃ r, m.recipients.get? id = some r ∧ r.number = some n

namespace Memory

variable {m : Memory} {id : RecipientId} {n : PhoneNumber}

theorem bound_find (m : Memory) (who : Identifiers) : (m.find who).2.Bound (m.find who).1 who.number := by
  obtain ⟨r, rows⟩ := m.recipients_find who
  rw [Bound, rows, Table.get?_put, if_pos rfl]
  exact ⟨_, rfl, rfl⟩

theorem Bound.find (bound : m.Bound id n) {who : Identifiers} (other : (m.find who).1 ≠ id) :
    (m.find who).2.Bound id n := by
  obtain ⟨r, rows⟩ := m.recipients_find who
  rw [Bound, rows, Table.get?_put, if_neg other]
  exact bound

theorem nodup_find (distinct : (m.recipients.map (·.1)).Nodup) (who : Identifiers) :
    ((m.find who).2.recipients.map (·.1)).Nodup := by
  obtain ⟨r, rows⟩ := m.recipients_find who
  rw [rows]
  exact Table.nodup_put distinct _ _

theorem recipients_update (m : Memory) (id : RecipientId) (update : Update) :
    (m.perform (update.on id)).2.recipients = m.recipients ∨
      ∃ r, m.recipients.get? id = some r ∧
        (m.perform (update.on id)).2.recipients = m.recipients.put id (update.apply r) := by
  have whole : (m.perform (update.on id)).2 = (m.updateRecipient id update.apply).2 := by cases update <;> rfl
  rw [whole, updateRecipient]
  cases m.recipients.get? id with
  | none => exact .inl rfl
  | some r => exact .inr ⟨r, rfl, rfl⟩

theorem Bound.update (bound : m.Bound id n) (id' : RecipientId) (update : Update) :
    (m.perform (update.on id')).2.Bound id n := by
  obtain same | ⟨r, there, changed⟩ := m.recipients_update id' update
  · rw [Bound, same]
    exact bound
  · rw [Bound, changed, Table.get?_put]
    by_cases here : id' = id
    · subst here
      obtain ⟨r', there', number⟩ := bound
      obtain rfl : r = r' := Option.some.inj (there.symm.trans there')
      exact ⟨_, if_pos rfl, by rw [Update.number_apply, number]⟩
    · rw [if_neg here]
      exact bound

theorem nodup_update (distinct : (m.recipients.map (·.1)).Nodup) (id : RecipientId) (update : Update) :
    ((m.perform (update.on id)).2.recipients.map (·.1)).Nodup := by
  obtain same | ⟨r, -, changed⟩ := m.recipients_update id update
  · rwa [same]
  · rw [changed]
    exact Table.nodup_put distinct _ _

end Memory

namespace DataStore

variable {start s : DataStore} {m : Memory} {past : List Search} {t : Thread} {id : RecipientId} {n : PhoneNumber}

theorem Searched.bound (searched : start.Searched past s) (serves : start.Serves m)
    (distinct : (m.recipients.map (·.1)).Nodup) (bound : m.Bound id n) (spared : ∀ search ∈ past, search.answer ≠ .ok id) :
    ∃ m', s.Serves m' ∧ (m'.recipients.map (·.1)).Nodup ∧ m'.Bound id n := by
  induction searched with
  | nothing => exact ⟨m, serves, distinct, bound⟩
  | @searches past s searched t admits who ih =>
    obtain ⟨m', serves, distinct, bound⟩ := ih fun search member => spared search (List.mem_append_left _ member)
    obtain ⟨answers, served⟩ := serves.perform admits (show who.search.IsFaithful from trivial)
    have other : (m'.find who).1 ≠ id := by
      have answered : (s.find t who).1 = .ok (m'.find who).1 := answers.eq rfl
      rintro rfl
      exact spared _ (List.mem_append_right _ List.mem_cons_self) answered
    exact ⟨(m'.find who).2, served, Memory.nodup_find distinct who, bound.find other⟩
  | updates searched admits id' update ih =>
    obtain ⟨m', serves, distinct, bound⟩ := ih spared
    exact ⟨_, (serves.perform admits (update.isFaithful_on id')).2, Memory.nodup_update distinct id' update,
      bound.update id' update⟩
  | reorders searched same ih =>
    obtain ⟨m', rfl, distinct, r, there, number⟩ := ih spared
    have reordered : Table.Reordered _ _ := ⟨distinct, same⟩
    exact ⟨_, rfl, reordered.distinct_right, r, (reordered.get?_eq id).symm.trans there, number⟩

end DataStore

/-- Reading a text comes to a number just if the text without blanks around it is in the international form, in
characters or in bytes, and then to just that; otherwise the error shows the text as it was given. A number's
own text is read as that number, and so is its document; a document stands for a number only as a text does.

Whoever is found or made in a store that serves any recipients, no two under one number, has what it was bound
to: any later search that comes to others, any changes and any threads leave it, and whoever is admitted reads
it. And whatever the cells of a database hold, a recipient is only read with a number that a text stands for. -/
theorem numbers_canonical :
    (∀ given n, PhoneNumber.parse given = .ok n ↔ Text.Trims given n.text ∧ Text.IsInternational n.text) ∧
    (∀ given e, PhoneNumber.parse given = .error e ↔
      e = ⟨given⟩ ∧ ∀ text, Text.Trims given text → ¬ Text.IsInternational text) ∧
    (∀ text, Text.IsInternational text ↔ ∃ digits, Text.utf8 text = 0x2B :: digits ∧ 8 ≤ digits.length ∧
      digits.length ≤ 15 ∧ ∀ b ∈ digits, 0x30 ≤ b ∧ b ≤ 0x39) ∧
    (∀ n : PhoneNumber, Text.IsInternational n.text ∧ PhoneNumber.parse n.text = .ok n ∧
      (Json.document? n.toJson.render).bind PhoneNumber.ofJson? = some n) ∧
    (∀ document n, PhoneNumber.ofJson? document = some n ↔
      ∃ given, document = .str given ∧ PhoneNumber.parse given = .ok n) ∧
    (∀ (s : DataStore) (m : Memory) (t : Thread) (who : Identifiers), s.Serves m → s.Admits t →
      (m.recipients.map (·.1)).Nodup → ∃ id, (s.find t who).1 = .ok id ∧
        ∀ later s', (s.find t who).2.Searched later s' → (∀ search ∈ later, search.answer ≠ .ok id) →
          ∀ u, s'.Admits u → ∃ r, s'.recipient u id = .ok (some r) ∧ r.number = some who.number) ∧
    (∀ (d : Database) (t : Thread) (id : RecipientId) (r : Recipient),
      (DataStore.database d).recipient t id = .ok (some r) →
        ∃ row, (d.view t).recipients.get? id = some row ∧
          ∀ n, r.number = some n ↔ ∃ text, row.number = .text text ∧ PhoneNumber.parse text = .ok n) := by
  refine ⟨fun _ _ => PhoneNumber.parse_eq_ok_iff, fun _ _ => PhoneNumber.parse_eq_error_iff,
    fun _ => Text.isInternational_iff_utf8, ?_, fun _ _ => PhoneNumber.ofJson?_eq_some_iff, ?_, ?_⟩
  · intro n
    have read : Json.document? n.toJson.render = some n.toJson := Json.document?_render rfl
    refine ⟨n.isInternational, n.parse_text, ?_⟩
    rw [read, Option.bind_some, PhoneNumber.faithful.decode_encode]
  · intro s m t who serves admits distinct
    obtain ⟨answers, served⟩ := serves.perform admits (show who.search.IsFaithful from trivial)
    refine ⟨(m.find who).1, answers.eq rfl, ?_⟩
    intro later s' searched spared u admits'
    obtain ⟨m', serves', -, r, there, number⟩ :=
      searched.bound served (Memory.nodup_find distinct who) (m.bound_find who) spared
    exact ⟨r, (serves'.recipient_eq admits' _).trans (congrArg Except.ok there), number⟩
  · intro d t id r read
    rcases d.perform_cases t (.recipient id) with failed | ⟨done, -⟩
    · have answered : (d.perform t (.recipient id)).1 = .ok (some r) := read
      rw [failed] at answered
      cases answered
    · exact Script.number_of_recipient (Prod.ext (done.symm.trans read) rfl)

/-- A number is typed with blanks that take two and three bytes, bound in a database, and read back once its
recipient is known to be registered. -/
theorem numbers_canonical_typed :
    let who : Identifiers := ⟨⟨⟨1⟩⟩, ⟨⟨11⟩⟩, ⟨"+00000001", by decide⟩⟩
    let fresh := DataStore.database (.new .empty true)
    PhoneNumber.parse "\u00a0+00000001\u3000" = .ok who.number ∧
      ∃ id r, (fresh.find default who).1 = .ok id ∧
        ((fresh.find default who).2.perform default (.markRegistered id)).2.recipient default id = .ok (some r) ∧
        r.number = some who.number := by
  intro who fresh
  obtain ⟨reads, -, -, -, -, binds, -⟩ := numbers_canonical
  constructor
  · apply (reads _ _).2
    have blank (c : Char) (there : Text.isBlank c = true) : ∀ d ∈ [c], Text.isBlank d = true :=
      List.forall_mem_singleton.2 there
    exact ⟨⟨['\u00a0'], ['\u3000'], by decide, blank _ (by decide), blank _ (by decide), by simp [who]; decide,
      by simp [who]; decide⟩, who.number.isInternational⟩
  · have admits : fresh.Admits default := rfl
    have searched := admits.perform who.search
    obtain ⟨id, found, kept⟩ := binds fresh .empty default who (Database.serves_new true) admits List.nodup_nil
    obtain ⟨r, read, number⟩ := kept [] _ (DataStore.Searched.nothing.updates searched id .registered) (by simp) default
      (searched.perform _)
    exact ⟨id, r, found, read, number⟩

end Store
end Enrolment
