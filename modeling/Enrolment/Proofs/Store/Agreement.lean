import Enrolment.Proofs.Store.Order
import Enrolment.Proofs.Store.Sight
import Enrolment.Store.Opening
import Mathlib.Logic.Relation
/-!
A database and a store in memory, used alike by one thread. Whatever it does with both, they answer the
same. Scopes are committed on the database and just end in memory; a database in a file may also be
closed and opened again. Main result: `database_answers_as_memory`.
-/
namespace Enrolment.Store

/-- What an operation stores is read back from its row as it was bound. -/
def Operation.ReadsBack : Operation → Prop
  | .write _ value => value.isPlain = true
  | .putSignedPreKey _ key => (SignedRow.of key).key? key.id = some key
  | .putLastResortPreKey _ key => (SignedRow.of key.key).key? key.key.id = some key.key
  | _ => True

theorem Operation.ReadsBack.isFaithful {op : Operation} (readsBack : op.ReadsBack) : op.IsFaithful := by
  cases op with
  | write key value => exact readsBack
  | _ => trivial

/-- Of a key, all is read back but a time that no clock shows. -/
theorem key?_ofKey_eq_some_self_iff {key : SignedPreKey} :
    (SignedRow.of key).key? key.id = some key ↔ key.createdAt.IsCivil := by
  rw [key?_ofKey, Option.some_inj, SignedPreKey.civil_eq_self_iff]

structure Memory.Civil (m : Memory) : Prop where
  signed : ∀ k key, m.signed.get? k = some key → key.createdAt.IsCivil
  lastResort : ∀ k key, m.lastResort.get? k = some key → key.key.createdAt.IsCivil

theorem Memory.civil_empty : Memory.empty.Civil := by
  constructor <;>
    · intro k key there
      rw [Memory.empty, Table.get?_nil] at there
      cases there

namespace Memory.Civil

variable {m : Memory}

theorem told (civil : m.Civil) (op : Operation) : op.told (m.perform op).1 = (m.perform op).1 := by
  cases op with
  | signedPreKey space id =>
    show Except.ok ((m.signed.get? (space, id)).map SignedPreKey.civil) = .ok (m.signed.get? (space, id))
    cases there : m.signed.get? (space, id) with
    | none => rfl
    | some key => rw [Option.map_some, SignedPreKey.civil_eq_self_iff.2 (civil.signed _ _ there)]
  | lastResortPreKey space id =>
    show Except.ok ((m.lastResort.get? (space, id)).map LastResortPreKey.civil) = .ok (m.lastResort.get? (space, id))
    cases there : m.lastResort.get? (space, id) with
    | none => rfl
    | some key => rw [Option.map_some, LastResortPreKey.civil_eq_self_iff.2 (civil.lastResort _ _ there)]
  | _ => rfl

theorem of_same {m' : Memory} (civil : m.Civil) (signed : ∀ k, m'.signed.get? k = m.signed.get? k)
    (lastResort : ∀ k, m'.lastResort.get? k = m.lastResort.get? k) : m'.Civil where
  signed k key there := civil.signed k key ((signed k).symm.trans there)
  lastResort k key there := civil.lastResort k key ((lastResort k).symm.trans there)

theorem perform (civil : m.Civil) {op : Operation} (readsBack : op.ReadsBack) : (m.perform op).2.Civil := by
  cases op with
  | putSignedPreKey space key =>
    refine ⟨fun k made there => ?_, civil.lastResort⟩
    simp only [Memory.perform, Table.get?_put] at there
    split at there
    · obtain rfl := Option.some.inj there
      exact key?_ofKey_eq_some_self_iff.1 readsBack
    · exact civil.signed k made there
  | putLastResortPreKey space key =>
    refine ⟨civil.signed, fun k made there => ?_⟩
    simp only [Memory.perform, Table.get?_put] at there
    split at there
    · obtain rfl := Option.some.inj there
      exact key?_ofKey_eq_some_self_iff.1 readsBack
    · exact civil.lastResort k made there
  | selfRecipient aci pni number =>
    simp only [Memory.perform, Memory.selfRecipient]
    split <;> exact ⟨civil.signed, civil.lastResort⟩
  | markRegistered id | setProfileSharing id enabled | setProfileKey id key =>
    simp only [Memory.perform, Memory.updateRecipient]
    split <;> exact ⟨civil.signed, civil.lastResort⟩
  | _ => exact ⟨civil.signed, civil.lastResort⟩

end Memory.Civil

/-- One thing that a thread does with a database and a store in memory. At any time the rows in memory
may also come to lie in another order. -/
inductive Pace (t : Thread) : Opened × Memory → Opened × Memory → Prop
  | performs {o : Opened} {m : Memory} {op : Operation} (readsBack : op.ReadsBack) (decides : m.Decides op) :
    Pace t (o, m) ({ o with database := (o.database.perform t op).2 }, (m.perform op).2)
  | opens {o : Opened} {m : Memory} : Pace t (o, m) ({ o with database := (o.database.openScope t).2 }, m.openScope t)
  | commits {o : Opened} {m : Memory} (inside : m.inTransaction t = true) :
    Pace t (o, m) ({ o with database := (o.database.closeScope t true).2 }, m.closeScope t)
  | reopens {o : Opened} {m : Memory} (file : o.file.isSome) (outside : m.inTransaction t = false) :
    Pace t (o, m) (o.reopen, m)
  | reorders {o : Opened} {m m' : Memory} (same : m.Reordered m') : Pace t (o, m) (o, m')

/-- A thread has the same scopes open on both, and there is no other thread. -/
def Abreast (t : Thread) (d : Database) (m : Memory) : Prop :=
  (d.transactions = [] ∧ m.transactions = []) ∨ ∃ depth written,
    d.transactions = [(t, ⟨depth + 1, false, written⟩)] ∧ m.transactions = [(t, depth + 1)]

namespace Abreast

variable {t : Thread} {d : Database} {m : Memory} (abreast : Abreast t d m)

include abreast

theorem orderly : (DataStore.database d).Orderly := by
  obtain ⟨idle, -⟩ | ⟨depth, written, alone, -⟩ := abreast
  · exact Or.inl idle
  · exact Or.inr ⟨t, _, alone, rfl⟩

theorem admits : (DataStore.database d).Admits t := by
  show d.others t = []
  obtain ⟨idle, -⟩ | ⟨depth, written, alone, -⟩ := abreast
  · simp [Database.others, idle, Table.erase]
  · simp [Database.others, alone, Table.erase]

theorem inTransaction : d.inTransaction t = m.inTransaction t := by
  unfold Database.inTransaction Memory.inTransaction
  obtain ⟨idle, idle'⟩ | ⟨depth, written, alone, alone'⟩ := abreast
  · rw [idle, idle']; rfl
  · rw [alone, alone', Table.get?_cons, Table.get?_cons, if_pos rfl, if_pos rfl]; rfl

theorem keep (tables : Tables) : Abreast t (d.keep t tables) m := by
  obtain ⟨idle, idle'⟩ | ⟨depth, written, alone, alone'⟩ := abreast
  · exact Or.inl ⟨by simp [Database.keep, idle, Table.get?_nil], idle'⟩
  · exact Or.inr ⟨depth, some tables, by simp [Database.keep, alone, Table.get?_cons, Table.put], alone'⟩

theorem perform (op : Operation) : Abreast t (d.perform t op).2 m := by
  obtain ⟨-, -, unchanged | kept⟩ := Database.perform_of_free (DataStore.free_of_admits abreast.admits) op
  · rwa [unchanged]
  · rw [kept]
    exact abreast.keep _

theorem openScope : (d.openScope t).1 = .ok () ∧ Abreast t (d.openScope t).2 (m.openScope t) := by
  have connected := (DataStore.free_of_admits abreast.admits).connected
  unfold Database.openScope Memory.openScope
  obtain ⟨idle, idle'⟩ | ⟨depth, written, alone, alone'⟩ := abreast
  · simp only [idle, idle', Table.get?_nil, connected]
    exact ⟨rfl, Or.inr ⟨0, none, rfl, rfl⟩⟩
  · simp only [alone, alone', Table.get?_cons, if_true]
    exact ⟨trivial, Or.inr ⟨depth + 1, written, by simp [Table.put], by simp [Table.put]⟩⟩

theorem closeScope : (d.closeScope t true).1 = .ok () ∧ Abreast t (d.closeScope t true).2 (m.closeScope t) := by
  unfold Database.closeScope Memory.closeScope
  obtain ⟨idle, idle'⟩ | ⟨depth, written, alone, alone'⟩ := abreast
  · simp only [idle, idle', Table.get?_nil]
    exact ⟨trivial, Or.inl ⟨idle, rfl⟩⟩
  · simp only [alone, alone', Table.get?_cons, if_true]
    cases depth with
    | zero => exact ⟨rfl, Or.inl ⟨by simp [Table.erase], by simp [Table.erase]⟩⟩
    | succ depth => exact ⟨rfl, Or.inr ⟨depth, written, by simp [Table.put], by simp [Table.put]⟩⟩

theorem reorder {m' : Memory} (same : m.Reordered m') : Abreast t d m' := by
  have kept := same.transactions.perm
  obtain ⟨idle, idle'⟩ | ⟨depth, written, alone, alone'⟩ := abreast
  · rw [idle'] at kept
    exact Or.inl ⟨idle, kept.symm.eq_nil⟩
  · rw [alone'] at kept
    exact Or.inr ⟨depth, written, alone, kept.symm.eq_singleton⟩

theorem distinct : (m.transactions.map (·.1)).Nodup := by
  obtain ⟨-, idle⟩ | ⟨_, _, -, alone⟩ := abreast
  · simp [idle]
  · simp [alone]

end Abreast

/-- A database holds what is in memory, whatever order the rows in memory have. -/
structure Paired (t : Thread) (d : Database) (m : Memory) : Prop where
  rows : ∃ written, d.current.Depicts written ∧ written.Reordered m
  abreast : Abreast t d m
  civil : m.Civil

theorem paired_new (t : Thread) (shared : Bool) : Paired t (.new .empty shared) .empty :=
  ⟨⟨.empty, depicts_empty, Memory.reordered_empty⟩, Or.inl ⟨rfl, rfl⟩, Memory.civil_empty⟩

namespace Paired

variable {t : Thread} {d d' : Database} {m m' : Memory} (paired : Paired t d m)

include paired

theorem perform {op : Operation} (readsBack : op.ReadsBack) (decides : m.Decides op) :
    (d.perform t op).1 = (m.perform op).1 ∧ Paired t (d.perform t op).2 (m.perform op).2 := by
  obtain ⟨⟨written, depicts, same⟩, abreast, civil⟩ := paired
  have serves : (DataStore.database d).Serves written := DataStore.serves_iff.2 ⟨abreast.orderly, depicts⟩
  obtain ⟨-, served⟩ := serves.perform abreast.admits readsBack.isFaithful
  obtain ⟨answers, same'⟩ := same.perform decides
  have depicted := (DataStore.serves_iff.1 served).2
  rw [← DataStore.view_of_admits abreast.orderly abreast.admits] at depicts
  have told := (Database.perform_of_depicts (DataStore.free_of_admits abreast.admits) depicts readsBack.isFaithful).1
  refine ⟨?_, ⟨_, depicted, same'⟩, ?_, civil.perform readsBack⟩
  · rw [told, answers, civil.told]
  · have kept := abreast.perform op
    unfold Abreast at kept ⊢
    rwa [(m.perform_spares op).1]

theorem rescoped (current : d'.current = d.current) (m' : Memory) (transactions : { m with transactions := m'.transactions } = m')
    (abreast : Abreast t d' m') : Paired t d' m' := by
  obtain ⟨⟨written, depicts, same⟩, -, civil⟩ := paired
  refine ⟨⟨{ written with transactions := m'.transactions }, ?_, ?_⟩, abreast, ?_⟩
  · rw [current]
    exact { depicts with }
  · rw [← transactions]
    exact { same with transactions := .refl abreast.distinct }
  · rw [← transactions]
    exact ⟨civil.signed, civil.lastResort⟩

theorem openScope : Paired t (d.openScope t).2 (m.openScope t) := by
  have current := (DataStore.openScope_database paired.abreast.orderly paired.abreast.admits).2
  exact paired.rescoped current _ rfl paired.abreast.openScope.2

theorem closeScope : Paired t (d.closeScope t true).2 (m.closeScope t) := by
  have current := (DataStore.commitScope_database paired.abreast.orderly paired.abreast.admits).2
  refine paired.rescoped current _ ?_ paired.abreast.closeScope.2
  unfold Memory.closeScope
  split <;> rfl

theorem reopened (outside : m.inTransaction t = false) : Paired t d.reopened m := by
  have idle : d.transactions = [] ∧ m.transactions = [] := by
    obtain idle | ⟨depth, written, -, alone⟩ := paired.abreast
    · exact idle
    · simp [Memory.inTransaction, alone, Table.get?_cons] at outside
  obtain ⟨written, depicts, same⟩ := paired.rows
  refine ⟨⟨written, ?_, same⟩, Or.inl ⟨rfl, idle.2⟩, paired.civil⟩
  simpa [Database.current, Database.reopened, Database.new, idle.1] using depicts

theorem reorder (same : m.Reordered m') : Paired t d m' := by
  obtain ⟨written, depicts, same'⟩ := paired.rows
  have civil := paired.civil.of_same (fun k => (same.signed.get?_eq k).symm) fun k => (same.lastResort.get?_eq k).symm
  exact ⟨⟨written, depicts, same'.trans same⟩, paired.abreast.reorder same, civil⟩

end Paired

theorem Pace.paired {t : Thread} {before after : Opened × Memory} (pace : Pace t before after)
    (paired : Paired t before.1.database before.2) : Paired t after.1.database after.2 := by
  cases pace with
  | performs readsBack decides => exact (paired.perform readsBack decides).2
  | opens => exact paired.openScope
  | commits inside => exact paired.closeScope
  | reopens file outside =>
    unfold Opened.reopen
    rw [if_pos file]
    exact paired.reopened outside
  | reorders same => exact paired.reorder same

theorem paired_of_run {t : Thread} {shared : Bool} {file : Option Place} {files : FileTree} {o : Opened} {m : Memory}
    (run : Relation.ReflTransGen (Pace t) (⟨.new .empty shared, file, files⟩, .empty) (o, m)) : Paired t o.database m := by
  suffices ∀ reached, Relation.ReflTransGen (Pace t) (⟨.new .empty shared, file, files⟩, .empty) reached →
      Paired t reached.1.database reached.2 from this _ run
  intro reached run
  induction run with
  | refl => exact paired_new t shared
  | tail _ pace ih => exact pace.paired ih

/-- However one thread uses a database and a store in memory, from the time when both are empty, every
operation answers alike on both, and both tell alike whether the thread is in a transaction. It is assumed
that a row reads back as the values that were bound to it (`Operation.ReadsBack`). -/
theorem database_answers_as_memory {t : Thread} {shared : Bool} {file : Option Place} {files : FileTree} {o : Opened}
    {m : Memory} (run : Relation.ReflTransGen (Pace t) (⟨.new .empty shared, file, files⟩, .empty) (o, m)) :
    o.database.inTransaction t = m.inTransaction t ∧
      (∀ op : Operation, op.ReadsBack → m.Decides op → (o.database.perform t op).1 = (m.perform op).1) ∧
      (o.database.openScope t).1 = .ok () ∧ (o.database.closeScope t true).1 = .ok () := by
  have paired := paired_of_run run
  refine ⟨paired.abreast.inTransaction, fun op readsBack decides => ?_, paired.abreast.openScope.1, paired.abreast.closeScope.1⟩
  exact (paired.perform readsBack decides).1

/-- What a committed scope wrote is there after the database was closed and opened again. -/
theorem database_answers_as_memory_reopened : ∃ o m,
    Relation.ReflTransGen (Pace default) (⟨.new .empty false, some [], default⟩, .empty) (o, m) ∧
      (o.database.perform default (.read "name")).1 = .ok (some (.bool true)) := by
  have opened := Relation.ReflTransGen.refl.tail
    (@Pace.opens default ⟨.new .empty false, some [], default⟩ .empty)
  have wrote := opened.tail (@Pace.performs default _ _ (.write "name" (.bool true)) rfl trivial)
  have committed := wrote.tail (.commits rfl)
  have reopened := committed.tail (.reopens rfl rfl)
  obtain ⟨-, answers, -⟩ := database_answers_as_memory reopened
  exact ⟨_, _, reopened, answers (.read "name") trivial trivial⟩

end Enrolment.Store
