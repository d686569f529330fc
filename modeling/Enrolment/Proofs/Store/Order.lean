import Enrolment.Proofs.Store.Rows
import Enrolment.Store.Memory
import Mathlib.Data.List.Nodup
import Mathlib.Data.List.Perm.Basic
/-!
A store in memory promises nothing about the order of its rows. Two that hold the same rows answer
alike and stay alike (`Memory.Reordered.perform`), unless a search for the account's own recipient has
several to choose from.
-/
namespace Enrolment

namespace Table

variable {κ α β : Type}

theorem length_filter_key [DecidableEq κ] {t : Table κ α} (distinct : (t.map (·.1)).Nodup) (key : κ) :
    (t.filter (·.1 = key)).length ≤ 1 := by
  have once := List.nodup_iff_count_le_one.1 distinct key
  rw [List.count, List.countP_map, List.countP_eq_length_filter] at once
  simpa [Function.comp_def, beq_eq_decide] using once

theorem get?_eq_some_iff [DecidableEq κ] {t : Table κ α} (distinct : (t.map (·.1)).Nodup) {key : κ} {a : α} :
    t.get? key = some a ↔ (key, a) ∈ t := by
  induction t with
  | nil => simp [get?_nil]
  | cons row rest ih =>
    rw [List.map_cons, List.nodup_cons] at distinct
    obtain ⟨new, distinct⟩ := distinct
    rw [get?_cons, List.mem_cons]
    by_cases found : row.1 = key
    · subst found
      have absent : (row.1, a) ∉ rest := fun there => new (List.mem_map.2 ⟨_, there, rfl⟩)
      simp [absent, Prod.ext_iff, eq_comm]
    · have other : (key, a) ≠ row := fun same => found (congrArg Prod.fst same).symm
      simp [found, other, ih distinct]

theorem put_perm [DecidableEq κ] {t : Table κ α} (distinct : (t.map (·.1)).Nodup) (key : κ) (a : α) :
    (t.put key a).Perm ((key, a) :: t.erase key) := by
  induction t with
  | nil => exact .refl _
  | cons row rest ih =>
    rw [List.map_cons, List.nodup_cons] at distinct
    obtain ⟨new, distinct⟩ := distinct
    unfold put erase
    by_cases found : row.1 = key
    · subst found
      have apart : ∀ other ∈ rest, decide (other.1 ≠ row.1) = true := fun other there =>
        decide_eq_true fun same => new (List.mem_map.2 ⟨other, there, same⟩)
      rw [if_pos rfl, List.filter_cons_of_neg (by simp), List.filter_eq_self.2 apart]
    · rw [if_neg found, List.filter_cons_of_pos (by simpa using found)]
      exact ((ih distinct).cons row).trans (.swap _ _ _)

/-- Two tables with the same rows, no two of them under one key. -/
structure Reordered (t u : Table κ α) : Prop where
  distinct : (t.map (·.1)).Nodup
  perm : t.Perm u

namespace Reordered

variable {t u v : Table κ α}

theorem nil : Reordered ([] : Table κ α) [] := ⟨List.nodup_nil, .nil⟩

theorem refl (distinct : (t.map (·.1)).Nodup) : Reordered t t := ⟨distinct, .refl t⟩

theorem trans (first : Reordered t u) (second : Reordered u v) : Reordered t v :=
  ⟨first.distinct, first.perm.trans second.perm⟩

theorem distinct_right (same : Reordered t u) : (u.map (·.1)).Nodup :=
  (same.perm.map (·.1)).nodup_iff.1 same.distinct

theorem map_values (same : Reordered t u) (f : κ × α → κ × α) (keeps : ∀ row, (f row).1 = row.1) :
    Reordered (t.map f) (u.map f) := by
  refine ⟨?_, same.perm.map f⟩
  have keys : (fun row : κ × α => row.1) ∘ f = fun row => row.1 := funext keeps
  rw [List.map_map, keys]
  exact same.distinct

theorem find?_eq (same : Reordered t u) {test : κ × α → Bool} (few : (u.filter test).length ≤ 1) :
    t.find? test = u.find? test := by
  have found := same.perm.filter test
  rw [← List.head?_filter, ← List.head?_filter]
  match rows : u.filter test with
  | [] => rw [rows] at found; rw [found.eq_nil]
  | [row] => rw [rows] at found; rw [found.eq_singleton]
  | _ :: _ :: _ => simp [rows] at few

variable [DecidableEq κ]

theorem erase (same : Reordered t u) (key : κ) : Reordered (t.erase key) (u.erase key) :=
  ⟨same.distinct.sublist (List.filter_sublist.map _), same.perm.filter _⟩

theorem get?_eq (same : Reordered t u) (key : κ) : t.get? key = u.get? key :=
  congrArg (Option.map Prod.snd) (same.find?_eq (length_filter_key same.distinct_right key))

theorem put (same : Reordered t u) (key : κ) (a : α) : Reordered (t.put key a) (u.put key a) := by
  refine ⟨nodup_put same.distinct key a, ?_⟩
  calc
    (t.put key a).Perm ((key, a) :: t.erase key) := put_perm same.distinct key a
    List.Perm _ ((key, a) :: u.erase key) := (same.erase key).perm.cons _
    List.Perm _ (u.put key a) := (put_perm same.distinct_right key a).symm

theorem modify (same : Reordered t u) (key : κ) (f : α → α) : Reordered (t.modify key f) (u.modify key f) := by
  unfold Table.modify
  rw [same.get?_eq]
  cases u.get? key with
  | none => exact same
  | some a => exact same.put key (f a)

end Reordered
end Table

namespace Store

namespace Memory

variable {m m' m'' : Memory}

structure Reordered (m m' : Memory) : Prop where
  values : Table.Reordered m.values m'.values
  identities : Table.Reordered m.identities m'.identities
  signed : Table.Reordered m.signed m'.signed
  lastResort : Table.Reordered m.lastResort m'.lastResort
  sessions : Table.Reordered m.sessions m'.sessions
  senderKeys : Table.Reordered m.senderKeys m'.senderKeys
  count : m.recipientCount = m'.recipientCount
  recipients : Table.Reordered m.recipients m'.recipients
  groups : Table.Reordered m.groups m'.groups
  transactions : Table.Reordered m.transactions m'.transactions

theorem reordered_empty : Memory.empty.Reordered .empty :=
  ⟨.nil, .nil, .nil, .nil, .nil, .nil, rfl, .nil, .nil, .nil⟩

theorem Reordered.trans (first : m.Reordered m') (second : m'.Reordered m'') : m.Reordered m'' where
  values := first.values.trans second.values
  identities := first.identities.trans second.identities
  signed := first.signed.trans second.signed
  lastResort := first.lastResort.trans second.lastResort
  sessions := first.sessions.trans second.sessions
  senderKeys := first.senderKeys.trans second.senderKeys
  count := first.count.trans second.count
  recipients := first.recipients.trans second.recipients
  groups := first.groups.trans second.groups
  transactions := first.transactions.trans second.transactions

def carriers (m : Memory) (test : Recipient → Bool) : Table RecipientId Recipient :=
  m.recipients.filter fun row => test row.2

theorem exists_find?_of_carriers {test : Recipient → Bool} (some : m.carriers test ≠ []) :
    ∃ row, m.recipients.find? (fun row => test row.2) = .some row := by
  rw [← List.head?_filter]
  exact ⟨_, List.head?_eq_some_head some⟩

/-- At most one recipient carries the identifier by which the account's own recipient is found. -/
def Decides (m : Memory) : Operation → Prop
  | .selfRecipient aci pni number =>
    (m.carriers (·.aci = some aci)).length ≤ 1 ∧ (m.carriers (·.aci = some aci) = [] →
      (m.carriers (·.pni = some pni)).length ≤ 1 ∧ (m.carriers (·.pni = some pni) = [] →
        (m.carriers (·.number = some number)).length ≤ 1))
  | _ => True

namespace Reordered

variable (same : m.Reordered m')

include same

theorem findSelf?_eq {aci : Aci} {pni : Pni} {number : PhoneNumber} (decides : m'.Decides (.selfRecipient aci pni number)) :
    findSelf? m.recipients aci pni number = findSelf? m'.recipients aci pni number := by
  obtain ⟨fewAci, others⟩ := decides
  have byAci := same.recipients.find?_eq fewAci
  unfold findSelf?
  by_cases noAci : m'.carriers (·.aci = some aci) = []
  · obtain ⟨fewPni, others⟩ := others noAci
    have byPni := same.recipients.find?_eq fewPni
    by_cases noPni : m'.carriers (·.pni = some pni) = []
    · have byNumber := same.recipients.find?_eq (others noPni)
      simp only [byAci, byPni, byNumber]
    · obtain ⟨row, found⟩ := exists_find?_of_carriers noPni
      simp only [byAci, byPni, found, Option.map_some, Option.some_or]
  · obtain ⟨row, found⟩ := exists_find?_of_carriers noAci
    simp only [byAci, found, Option.map_some, Option.some_or]

theorem selfRecipient {aci : Aci} {pni : Pni} {number : PhoneNumber} (decides : m'.Decides (.selfRecipient aci pni number)) :
    (m.selfRecipient aci pni number).1 = (m'.selfRecipient aci pni number).1 ∧
      (m.selfRecipient aci pni number).2.Reordered (m'.selfRecipient aci pni number).2 := by
  unfold Memory.selfRecipient
  rw [same.findSelf?_eq decides]
  cases findSelf? m'.recipients aci pni number with
  | some id => exact ⟨rfl, { same with recipients := same.recipients.modify _ _ }⟩
  | none =>
    simp only [same.count]
    exact ⟨trivial, { same with count := rfl, recipients := same.recipients.put _ _ }⟩

theorem updateRecipient (id : RecipientId) (f : Recipient → Recipient) :
    (m.updateRecipient id f).1 = (m'.updateRecipient id f).1 ∧
      (m.updateRecipient id f).2.Reordered (m'.updateRecipient id f).2 := by
  unfold Memory.updateRecipient
  rw [same.recipients.get?_eq]
  cases m'.recipients.get? id with
  | some r => exact ⟨rfl, { same with recipients := same.recipients.put _ _ }⟩
  | none => exact ⟨rfl, same⟩

theorem perform {op : Operation} (decides : m'.Decides op) :
    (m.perform op).1 = (m'.perform op).1 ∧ (m.perform op).2.Reordered (m'.perform op).2 := by
  cases op with
  | read key => exact ⟨congrArg Except.ok (same.values.get?_eq key), same⟩
  | write key value => exact ⟨rfl, { same with values := same.values.put key value }⟩
  | erase key => exact ⟨rfl, { same with values := same.values.erase key }⟩
  | identityKeys space => exact ⟨congrArg Except.ok (same.identities.get?_eq space), same⟩
  | putIdentityKeys space keys => exact ⟨rfl, { same with identities := same.identities.put space keys }⟩
  | signedPreKey space id => exact ⟨congrArg Except.ok (same.signed.get?_eq _), same⟩
  | putSignedPreKey space key => exact ⟨rfl, { same with signed := same.signed.put _ key }⟩
  | lastResortPreKey space id => exact ⟨congrArg Except.ok (same.lastResort.get?_eq _), same⟩
  | putLastResortPreKey space key => exact ⟨rfl, { same with lastResort := same.lastResort.put _ key }⟩
  | session space address => exact ⟨congrArg Except.ok (same.sessions.get?_eq _), same⟩
  | pushSession space address state =>
    refine ⟨rfl, { same with sessions := ?_ }⟩
    simp only [Memory.perform, same.sessions.get?_eq]
    exact same.sessions.put _ _
  | archiveSessions space =>
    refine ⟨congrArg Except.ok (same.sessions.perm.filter _).length_eq, { same with sessions := ?_ }⟩
    refine same.sessions.map_values _ fun row => ?_
    split <;> rfl
  | putSenderKey sender distribution record =>
    exact ⟨rfl, { same with senderKeys := same.senderKeys.put _ record }⟩
  | senderKeyCount => exact ⟨congrArg Except.ok same.senderKeys.perm.length_eq, same⟩
  | clearSenderKeys => exact ⟨congrArg Except.ok same.senderKeys.perm.length_eq, { same with senderKeys := .nil }⟩
  | selfRecipient aci pni number =>
    obtain ⟨found, kept⟩ := same.selfRecipient decides
    exact ⟨congrArg Except.ok found, kept⟩
  | recipient id => exact ⟨congrArg Except.ok (same.recipients.get?_eq id), same⟩
  | markRegistered id => exact same.updateRecipient id _
  | setProfileSharing id enabled => exact same.updateRecipient id _
  | setProfileKey id key => exact same.updateRecipient id _
  | group id => exact ⟨congrArg Except.ok (same.groups.get?_eq id), same⟩
  | putGroup group => exact ⟨rfl, { same with groups := same.groups.put group.id group }⟩

end Reordered
end Memory
end Store
end Enrolment
