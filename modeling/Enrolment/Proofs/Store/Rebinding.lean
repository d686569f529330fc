import Enrolment.Proofs.Store.SelfSearch
/-!
Searches for the account's own recipient and changes of recipients, in any store that has no recipients
at first. Rows are numbered from one, and a search binds the row that it finds, or makes, to what was
searched for. Whoever carries an account identifier is the only one who does, and so is found by it
until a search for another account takes the row over. Main result: `self_rebound`.
-/
namespace Enrolment.Store

def Identifiers.bind (who : Identifiers) (r : Recipient) : Recipient := Memory.bindSelf r who.aci who.pni who.number

/-- What becomes known about a recipient, whose number says which one it is. -/
inductive Update where
  | registered
  | profileSharing (enabled : Bool)
  | profileKey (key : ProfileKey)

namespace Update

def on (id : RecipientId) : Update → Operation
  | registered => .markRegistered id
  | profileSharing enabled => .setProfileSharing id enabled
  | profileKey key => .setProfileKey id key

def apply : Update → Recipient → Recipient
  | registered, r => { r with registered := .registered }
  | profileSharing enabled, r => { r with profileSharing := enabled }
  | profileKey key, r => { r with profileKey := some key }

theorem isFaithful_on (u : Update) (id : RecipientId) : (u.on id).IsFaithful := by cases u <;> trivial

@[simp] theorem id_apply (u : Update) (r : Recipient) : (u.apply r).id = r.id := by cases u <;> rfl

@[simp] theorem aci_apply (u : Update) (r : Recipient) : (u.apply r).aci = r.aci := by cases u <;> rfl

end Update

/-- A search, and what it answered. -/
structure Search where
  who : Identifiers
  answer : Except Fault RecipientId

/-- A search for an account found the recipient, and no later one found it for another account. -/
def Assigned (past : List Search) (aci : Aci) (id : RecipientId) : Prop :=
  ∃ earlier first later, past = earlier ++ first :: later ∧ first.who.aci = aci ∧ first.answer = .ok id ∧
    ∀ search ∈ later, search.answer = .ok id → search.who.aci = aci

namespace DataStore

def find (s : DataStore) (t : Thread) (who : Identifiers) : Except Fault RecipientId × DataStore := s.perform t who.search

def recipient (s : DataStore) (t : Thread) (id : RecipientId) : Except Fault (Option Recipient) :=
  (s.perform t (.recipient id)).1

/-- What searches and changes make of a store, whoever asks for them. In memory, the recipients may at
any time also come to lie in another order. -/
inductive Searched (start : DataStore) : List Search → DataStore → Prop
  | nothing : Searched start [] start
  | searches {past : List Search} {s : DataStore} (searched : Searched start past s) {t : Thread} (admits : s.Admits t)
    (who : Identifiers) : Searched start (past ++ [⟨who, (s.find t who).1⟩]) (s.find t who).2
  | updates {past : List Search} {s : DataStore} (searched : Searched start past s) {t : Thread} (admits : s.Admits t)
    (id : RecipientId) (update : Update) : Searched start past (s.perform t (update.on id)).2
  | reorders {past : List Search} {m : Memory} (searched : Searched start past (memory m))
    {rows : Table RecipientId Recipient} (same : m.recipients.Perm rows) :
    Searched start past (memory { m with recipients := rows })

/-- A thread sees these recipients. They have the numbers from one on, and no two of them one account
identifier. -/
structure Roll (s : DataStore) (t : Thread) (rows : List Recipient) : Prop where
  recipients : ∀ id, s.recipient t id = .ok (rows.find? (·.id = id))
  numbers : (rows.map fun r => r.id.value.toInt).Perm ((List.range rows.length).map fun k : Nat => (k : Int) + 1)
  sole : rows.Pairwise fun r r' => r.aci = r'.aci → r.aci = none

/-- A search comes to a number. If nobody in the list carries what is searched for, a recipient is made
and gets the next number; else the recipient that is found was one of those who do. It is bound, and nobody
else is changed. -/
structure Rebinds (s : DataStore) (t : Thread) (rows : List Recipient) (who : Identifiers) (id : RecipientId) : Prop where
  answers : (s.find t who).1 = .ok id
  carried : (∃ r ∈ rows, who.CarriedBy r) → ∃ r ∈ rows, r.id = id ∧ who.CarriedBy r
  made : (∀ r ∈ rows, ¬ who.CarriedBy r) → id.value.toInt = rows.length + 1
  bound : ∀ other, (s.find t who).2.recipient t other =
    if other = id then .ok (some (who.bind ((rows.find? (·.id = id)).getD (.new id)))) else s.recipient t other

end DataStore

/-! ## In memory -/

namespace Memory

variable {m : Memory} {who : Identifiers} {past : List Search}

def numbered (made : Nat) : RecipientId := ⟨Int64.ofNat (made + 1)⟩

theorem toInt_numbered {made : Nat} (few : made < 2 ^ 63 - 1) : (numbered made).value.toInt = made + 1 := by
  simpa [numbered] using Int64.toInt_ofNat_of_lt (show made + 1 < 2 ^ 63 by omega)

private theorem not_carriedBy_of_findSelf? {rows : Table RecipientId Recipient}
    (found : findSelf? rows who.aci who.pni who.number = none) : ∀ row ∈ rows, ¬ who.CarriedBy row.2 := by
  simp only [findSelf?, Option.or_eq_none_iff, Option.map_eq_none_iff, List.find?_eq_none, decide_eq_true_eq] at found
  obtain ⟨noAci, noPni, noNumber⟩ := found
  rintro row there (carries | carries | carries)
  · exact noAci row there carries
  · exact noPni row there carries
  · exact noNumber row there carries

theorem find_cases (distinct : (m.recipients.map (·.1)).Nodup) (who : Identifiers) :
    (∃ id r, (id, r) ∈ m.recipients ∧ who.CarriedBy r ∧
      m.find who = (id, { m with recipients := m.recipients.put id (who.bind r) })) ∨
    ((∀ row ∈ m.recipients, ¬ who.CarriedBy row.2) ∧
      m.find who = (numbered m.recipientCount, { m with
        recipientCount := m.recipientCount + 1
        recipients := m.recipients.put (numbered m.recipientCount) (who.bind (.new (numbered m.recipientCount))) })) := by
  unfold find selfRecipient
  cases found : findSelf? m.recipients who.aci who.pni who.number with
  | none => exact .inr ⟨not_carriedBy_of_findSelf? found, rfl⟩
  | some id =>
    obtain ⟨r, there, carries⟩ := carriedBy_of_findSelf? found
    have row := (Table.get?_eq_some_iff distinct).2 there
    exact .inl ⟨id, r, there, carries, by simp [Table.modify, row, Identifiers.bind]⟩

/-- What a history of searches leaves in memory. -/
structure Follows (past : List Search) (m : Memory) : Prop where
  sole : m.Sole
  own : ∀ row ∈ m.recipients, row.2.id = row.1
  numbers : (m.recipients.map (·.1)).Perm ((List.range m.recipientCount).map numbered)
  few : m.recipientCount ≤ past.length
  assigned : ∀ aci id, Assigned past aci id → ∃ r, m.recipients.get? id = some r ∧ r.aci = some aci

theorem follows_nothing (nobody : m.recipients = []) (made : m.recipientCount = 0) : m.Follows [] where
  sole := ⟨by simp [nobody], fun _ => by simp [carriers, nobody]⟩
  own := by simp [nobody]
  numbers := by simp [nobody, made]
  few := by simp [made]
  assigned := by rintro aci id ⟨earlier, first, later, whole, -⟩; simp at whole

private theorem put_cases {rows : Table RecipientId Recipient} {id : RecipientId} {r : Recipient}
    {row : RecipientId × Recipient} (distinct : (rows.map (·.1)).Nodup) (there : row ∈ rows.put id r) :
    row = (id, r) ∨ (row.1 ≠ id ∧ row ∈ rows) := by
  rw [(Table.put_perm distinct id r).mem_iff, List.mem_cons, Table.erase, List.mem_filter] at there
  simpa [and_comm] using there

theorem assigned_concat {answer : Except Fault RecipientId} {aci : Aci} {id : RecipientId}
    (assigned : Assigned (past ++ [⟨who, answer⟩]) aci id) :
    (answer = .ok id ∧ who.aci = aci) ∨ (answer ≠ .ok id ∧ Assigned past aci id) := by
  obtain ⟨earlier, first, later, whole, same, found, only⟩ := assigned
  obtain rfl | ⟨later, last, rfl⟩ := List.eq_nil_or_concat later
  · obtain ⟨-, rfl⟩ : past = earlier ∧ ⟨who, answer⟩ = first := by simpa using List.append_inj' whole rfl
    exact .inl ⟨found, same⟩
  · rw [List.concat_eq_append] at whole only
    obtain ⟨before, rfl⟩ : past = earlier ++ first :: later ∧ ⟨who, answer⟩ = last := by
      simpa using List.append_inj' (whole.trans (List.append_assoc earlier (first :: later) [last]).symm) rfl
    by_cases again : answer = .ok id
    · exact .inl ⟨again, only ⟨who, answer⟩ (by simp) again⟩
    · exact .inr ⟨again, earlier, first, later, before, same, found, fun search there => only search (by simp [there])⟩

variable (follows : m.Follows past)

include follows

theorem Follows.reorders {rows : Table RecipientId Recipient} (same : m.recipients.Perm rows) :
    Follows past { m with recipients := rows } where
  sole := follows.sole.reorders same
  own row there := follows.own row (same.mem_iff.2 there)
  numbers := (same.map _).symm.trans follows.numbers
  few := follows.few
  assigned aci id assigned := by
    obtain ⟨r, there, carries⟩ := follows.assigned aci id assigned
    rw [Table.Reordered.get?_eq ⟨follows.sole.distinct, same⟩] at there
    exact ⟨r, there, carries⟩

theorem Follows.numbered_notMem (few : past.length < 2 ^ 63 - 1) : numbered m.recipientCount ∉ m.recipients.map (·.1) := by
  intro there
  rw [follows.numbers.mem_iff, List.mem_map] at there
  obtain ⟨made, before, same⟩ := there
  have before := List.mem_range.1 before
  have few := Nat.lt_of_le_of_lt follows.few few
  have equal := toInt_numbered (Nat.lt_trans before few)
  rw [same, toInt_numbered few] at equal
  omega

theorem Follows.updates (id : RecipientId) (update : Update) : (m.perform (update.on id)).2.Follows past := by
  let change (row : RecipientId × Recipient) := if row.1 = id then (row.1, update.apply row.2) else row
  have rows : (m.perform (update.on id)).2 = { m with recipients := m.recipients.map change } := by
    have whole : (m.perform (update.on id)).2 = (m.updateRecipient id update.apply).2 := by cases update <;> rfl
    rw [whole, show m.recipients.map change = _ from (Table.modify_eq_map follows.sole.distinct id update.apply).symm,
      updateRecipient, Table.modify]
    cases m.recipients.get? id <;> rfl
  have key (row) : (change row).1 = row.1 := by simp only [change]; split <;> rfl
  have name (row) : (change row).2.id = row.2.id := by simp only [change]; split <;> simp
  have aci (row) : (change row).2.aci = row.2.aci := by simp only [change]; split <;> simp
  have keys : (m.recipients.map change).map (·.1) = m.recipients.map (·.1) := by simp [Function.comp_def, key]
  rw [rows]
  refine ⟨⟨keys ▸ follows.sole.distinct, fun owner => ?_⟩, ?_, keys ▸ follows.numbers, follows.few, fun owner other assigned => ?_⟩
  · simpa [carriers, List.filter_map, Function.comp_def, aci] using follows.sole.few owner
  · intro row member
    obtain ⟨old, there, rfl⟩ := List.mem_map.1 member
    rw [name, key]
    exact follows.own old there
  · obtain ⟨r, there, carries⟩ := follows.assigned owner other assigned
    have there := List.mem_map_of_mem (f := change) ((Table.get?_eq_some_iff follows.sole.distinct).1 there)
    rw [show change (other, r) = (other, (change (other, r)).2) from Prod.ext (key (other, r)) rfl] at there
    exact ⟨_, (Table.get?_eq_some_iff (keys ▸ follows.sole.distinct)).2 there, (aci _).trans carries⟩

theorem Follows.finds (few : past.length < 2 ^ 63 - 1) (who : Identifiers) :
    (m.find who).2.Follows (past ++ [⟨who, .ok (m.find who).1⟩]) := by
  have sole := follows.sole.find who
  have assigned (aci) (id) (assigned : Assigned (past ++ [⟨who, .ok (m.find who).1⟩]) aci id) :
      ∃ r, (m.find who).2.recipients.get? id = some r ∧ r.aci = some aci := by
    obtain ⟨r, bound⟩ := m.recipients_find who
    rw [bound, Table.get?_put]
    obtain ⟨now, rfl⟩ | ⟨other, before⟩ := assigned_concat assigned
    · rw [if_pos (Except.ok.inj now)]
      exact ⟨_, rfl, rfl⟩
    · rw [if_neg fun same => other (congrArg _ same)]
      exact follows.assigned aci id before
  obtain ⟨id, r, there, -, found⟩ | ⟨-, found⟩ := find_cases follows.sole.distinct who
  · rw [found] at sole assigned ⊢
    refine ⟨sole, fun row member => ?_, ?_, ?_, assigned⟩
    · obtain rfl | ⟨-, old⟩ := put_cases follows.sole.distinct member
      · exact follows.own (id, r) there
      · exact follows.own row old
    · show ((m.recipients.put id _).map (·.1)).Perm _
      rw [Table.map_fst_put_of_mem (List.mem_map.2 ⟨_, there, rfl⟩)]
      exact follows.numbers
    · exact Nat.le_trans follows.few (by simp)
  · rw [found] at sole assigned ⊢
    refine ⟨sole, fun row member => ?_, ?_, ?_, assigned⟩
    · obtain rfl | ⟨-, old⟩ := put_cases follows.sole.distinct member
      · rfl
      · exact follows.own row old
    · show ((m.recipients.put _ _).map (·.1)).Perm _
      rw [Table.put_of_notMem (follows.numbered_notMem few), List.map_append, List.range_succ, List.map_append]
      exact follows.numbers.append_right _
    · simpa using follows.few

theorem Follows.find?_eq (id : RecipientId) : (m.recipients.map (·.2)).find? (·.id = id) = m.recipients.get? id := by
  rw [List.find?_map, Table.get?]
  have same : ∀ row ∈ m.recipients, ((fun r : Recipient => decide (r.id = id)) ∘ Prod.snd) row = decide (row.1 = id) :=
    fun row there => by simp [follows.own row there]
  rw [← List.head?_filter, ← List.head?_filter, List.filter_congr same]

end Memory

namespace DataStore

variable {start s : DataStore} {m : Memory} {past : List Search} {t : Thread}

theorem Searched.follows (serves : start.Serves m) (nobody : m.recipients = []) (unused : m.recipientCount = 0)
    (searched : start.Searched past s) (few : past.length < 2 ^ 63) : ∃ m, s.Serves m ∧ m.Follows past := by
  induction searched with
  | nothing => exact ⟨m, serves, Memory.follows_nothing nobody unused⟩
  | @searches past s searched t admits who ih =>
    have few : past.length < 2 ^ 63 - 1 := by simp at few; omega
    obtain ⟨m, serves, follows⟩ := ih (by omega)
    obtain ⟨answers, served⟩ := serves.perform admits (show who.search.IsFaithful from trivial)
    refine ⟨(m.find who).2, served, ?_⟩
    rw [show (s.find t who).1 = .ok (m.find who).1 from answers.eq rfl]
    exact follows.finds few who
  | updates _ admits id update ih =>
    obtain ⟨m, serves, follows⟩ := ih few
    exact ⟨_, (serves.perform admits (update.isFaithful_on id)).2, follows.updates id update⟩
  | reorders _ same ih =>
    obtain ⟨m, rfl, follows⟩ := ih few
    exact ⟨_, rfl, follows.reorders same⟩

theorem Serves.recipient_eq (serves : s.Serves m) (admits : s.Admits t) (id : RecipientId) :
    s.recipient t id = .ok (m.recipients.get? id) :=
  (serves.perform admits (show (Operation.recipient id).IsFaithful from trivial)).1.eq rfl

end DataStore

namespace Memory

variable {s : DataStore} {m : Memory} {past : List Search} {t : Thread} (follows : m.Follows past)

include follows

theorem Follows.roll (serves : s.Serves m) (admits : s.Admits t) (few : past.length < 2 ^ 63) :
    s.Roll t (m.recipients.map (·.2)) where
  recipients id := by rw [serves.recipient_eq admits, follows.find?_eq]
  numbers := by
    have count : m.recipients.length = m.recipientCount := by simpa using follows.numbers.length_eq
    have keys : (m.recipients.map (·.2)).map (fun r => r.id.value.toInt) =
        (m.recipients.map (·.1)).map (·.value.toInt) := by
      simp only [List.map_map]
      exact List.map_congr_left fun row there => by simp [follows.own row there]
    have values : ((List.range m.recipientCount).map numbered).map (·.value.toInt) =
        (List.range m.recipientCount).map fun k : Nat => (k : Int) + 1 := by
      rw [List.map_map]
      refine List.map_congr_left fun k there => toInt_numbered ?_
      have below := List.mem_range.1 there
      have few := follows.few
      omega
    rw [keys, List.length_map, count, ← values]
    exact follows.numbers.map _
  sole := by
    rw [List.pairwise_map]
    refine (List.pairwise_map.1 follows.sole.distinct).imp_of_mem fun {row other} there there' different same => ?_
    cases carries : row.2.aci with
    | none => rfl
    | some aci => exact absurd (follows.sole.eq_of_aci there carries there' (same ▸ carries)) fun equal => different (equal ▸ rfl)

theorem Follows.rebinds (serves : s.Serves m) (admits : s.Admits t) (few : past.length < 2 ^ 63 - 1)
    (who : Identifiers) : s.Rebinds t (m.recipients.map (·.2)) who (m.find who).1 := by
  obtain ⟨answers, served⟩ := serves.perform admits (show who.search.IsFaithful from trivial)
  have seen (other : RecipientId) : (s.find t who).2.recipient t other = .ok ((m.find who).2.recipients.get? other) :=
    DataStore.Serves.recipient_eq served (admits.perform who.search) other
  have bound (r : Recipient) (was : (m.recipients.get? (m.find who).1).getD (.new (m.find who).1) = r)
      (rows : (m.find who).2.recipients = m.recipients.put (m.find who).1 (who.bind r)) (other : RecipientId) :
      (s.find t who).2.recipient t other = if other = (m.find who).1
        then .ok (some (who.bind (((m.recipients.map (·.2)).find? (·.id = (m.find who).1)).getD (.new (m.find who).1))))
        else s.recipient t other := by
    rw [seen, rows, Table.get?_put, follows.find?_eq, was, serves.recipient_eq admits]
    by_cases same : other = (m.find who).1
    · simp [same]
    · simp [same, Ne.symm same]
  obtain ⟨id, r, there, carries, found⟩ | ⟨nobody, found⟩ := find_cases follows.sole.distinct who
  · have row := (Table.get?_eq_some_iff follows.sole.distinct).2 there
    have listed : r ∈ m.recipients.map (·.2) := List.mem_map.2 ⟨_, there, rfl⟩
    refine ⟨answers.eq rfl, fun _ => ⟨r, listed, ?_, carries⟩, fun nobody => absurd carries (nobody r listed), bound r ?_ ?_⟩
    · simpa [found] using follows.own _ there
    · simp [found, row]
    · rw [found]
  · have absent : m.recipients.get? (numbered m.recipientCount) = none := by
      rw [Table.get?, Option.map_eq_none_iff, List.find?_eq_none]
      intro row there same
      exact follows.numbered_notMem few (List.mem_map.2 ⟨row, there, by simpa using same⟩)
    refine ⟨answers.eq rfl, ?_, fun _ => ?_, bound _ rfl ?_⟩
    · rintro ⟨r, listed, carries⟩
      obtain ⟨row, there, rfl⟩ := List.mem_map.1 listed
      exact absurd carries (nobody row there)
    · have count : m.recipients.length = m.recipientCount := by simpa using follows.numbers.length_eq
      rw [found, toInt_numbered (Nat.lt_of_le_of_lt follows.few few), List.length_map, count]
    · rw [found]
      simp [absent]

end Memory

/-- In any store that has no recipients at first, after any searches and changes, as long as numbers of 64
bits suffice: the recipients are numbered from one on, no two carry one account identifier, and one more
search does what it should. It finds whom the last search for its account found, unless a search for
another account has found that recipient since. -/
theorem self_rebound {start s : DataStore} {m : Memory} {past : List Search} {t : Thread} (serves : start.Serves m)
    (nobody : m.recipients = []) (unused : m.recipientCount = 0) (searched : start.Searched past s)
    (few : past.length < 2 ^ 63 - 1) (admits : s.Admits t) :
    ∃ rows, s.Roll t rows ∧ ∀ who, ∃ id, s.Rebinds t rows who id ∧
      ∀ found, Assigned past who.aci found → id = found := by
  obtain ⟨m, serves, follows⟩ := searched.follows serves nobody unused (by omega)
  refine ⟨_, follows.roll serves admits (by omega), fun who => ⟨_, follows.rebinds serves admits few who, ?_⟩⟩
  intro found assigned
  obtain ⟨r, there, carries⟩ := follows.assigned who.aci found assigned
  exact follows.sole.find_eq ((Table.get?_eq_some_iff follows.sole.distinct).1 there) carries

/-- Two accounts are searched for, and the first one's profile is to be shared. Then the first one is
searched for by the other one's phone number identifier and a new number, in a store in memory whose rows
have meanwhile changed places. -/
theorem self_rebound_after_move :
    let first : Identifiers := ⟨⟨⟨1⟩⟩, ⟨⟨11⟩⟩, ⟨"+00000001", by decide⟩⟩
    let second : Identifiers := ⟨⟨⟨2⟩⟩, ⟨⟨12⟩⟩, ⟨"+00000002", by decide⟩⟩
    let again : Identifiers := ⟨⟨⟨1⟩⟩, ⟨⟨12⟩⟩, ⟨"+00000003", by decide⟩⟩
    ∃ s, DataStore.Searched (.memory .empty) [⟨first, .ok ⟨1⟩⟩, ⟨second, .ok ⟨2⟩⟩] s ∧
      s.recipient default ⟨1⟩ = .ok (some (first.bind { Recipient.new ⟨1⟩ with profileSharing := true })) ∧
      (s.find default again).1 = .ok ⟨1⟩ ∧
      (s.find default again).2.recipient default ⟨1⟩ =
        .ok (some (again.bind { Recipient.new ⟨1⟩ with profileSharing := true })) ∧
      (s.find default again).2.recipient default ⟨2⟩ = .ok (some (second.bind (.new ⟨2⟩))) := by
  intro first second again
  have fresh : DataStore.Searched (.memory .empty) [] _ := .nothing
  have both := (fresh.searches (t := default) trivial first).searches (t := default) trivial second
  have searched := (both.updates (t := default) trivial ⟨1⟩ (.profileSharing true)).reorders (.swap _ _ [])
  obtain ⟨rows, roll, searches⟩ := self_rebound (t := default) Memory.serves_empty rfl rfl searched (by decide) trivial
  obtain ⟨id, rebinds, assigned⟩ := searches again
  have assigned := assigned ⟨1⟩ ⟨[], ⟨first, .ok ⟨1⟩⟩, [⟨second, .ok ⟨2⟩⟩], rfl, rfl, rfl, by simp⟩
  subst assigned
  have one := roll.recipients ⟨1⟩
  have shared : rows.find? (·.id = ⟨1⟩) = some (first.bind { Recipient.new ⟨1⟩ with profileSharing := true }) :=
    (Except.ok.inj one).symm
  refine ⟨_, searched, one.trans (congrArg _ shared), rebinds.answers, ?_, ?_⟩
  · rw [rebinds.bound, if_pos rfl, shared]
    rfl
  · rw [rebinds.bound, if_neg (by decide)]
    rfl

end Enrolment.Store
