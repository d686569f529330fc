import Enrolment.Proofs.Store.Depiction
import Enrolment.Store.DataStore
/-!
What threads see of a data store. A store that serves the contents of a store in memory shows them to
every thread that it admits, and goes on to do so through operations and through transactions in
which nothing is given up.
-/
namespace Enrolment.Store

/-- What some store may answer where memory answers this. -/
def Operation.Matches (op : Operation) (answer given : Except Fault op.Result) : Prop := answer = given ∨ answer = op.told given

theorem Operation.Matches.eq {op : Operation} {answer given : Except Fault op.Result} (matches_ : op.Matches answer given)
    (same : op.told given = given) : answer = given :=
  matches_.elim id (·.trans same)

theorem Operation.told_told (op : Operation) (answer : Except Fault op.Result) : op.told (op.told answer) = op.told answer := by
  cases op with
  | signedPreKey | lastResortPreKey => rcases answer with _ | _ | _ <;> simp [told, Except.map]
  | _ => rfl

theorem Operation.Matches.told_eq {op : Operation} {answer given : Except Fault op.Result} (matches_ : op.Matches answer given) :
    op.told answer = op.told given := by
  obtain rfl | rfl := matches_
  · rfl
  · exact op.told_told given

theorem Database.perform_of_depicts {d : Database} {t : Thread} {m : Memory} (free : d.Free t) (depicts : (d.view t).Depicts m)
    {op : Operation} (faithful : op.IsFaithful) :
    (d.perform t op).1 = op.told (m.perform op).1 ∧ ((d.perform t op).2.view t).Depicts (m.perform op).2 := by
  obtain ⟨answers, seen, -⟩ := Database.perform_of_free free op
  obtain ⟨agrees, depicted⟩ := depicts_perform depicts faithful
  refine ⟨answers.trans agrees, ?_⟩
  rw [seen]
  exact depicted

namespace DataStore

variable {s : DataStore} {t : Thread} {m : Memory}

def Shows (s : DataStore) (t : Thread) (m : Memory) : Prop :=
  match s with
  | memory m' => m' = m
  | database d => d.Free t ∧ (d.view t).Depicts m

theorem Shows.perform (shows : s.Shows t m) {op : Operation} (faithful : op.IsFaithful) :
    op.Matches (s.perform t op).1 (m.perform op).1 ∧ (s.perform t op).2.Shows t (m.perform op).2 := by
  cases s with
  | memory m' =>
    obtain rfl : m' = m := shows
    exact ⟨Or.inl rfl, rfl⟩
  | database d =>
    obtain ⟨free, depicts⟩ := shows
    obtain ⟨answers, depicted⟩ := Database.perform_of_depicts free depicts faithful
    exact ⟨Or.inr answers, free.perform op, depicted⟩

/-! ## Several threads -/

/-- Threads take turns on a database: while one has a transaction open, the others wait. -/
def Admits (s : DataStore) (t : Thread) : Prop :=
  match s with
  | memory _ => True
  | database d => d.others t = []

/-- Whoever is admitted sees these contents, and no scope of an open transaction was given up. -/
def Serves (s : DataStore) (m : Memory) : Prop :=
  match s with
  | memory m' => m' = m
  | database d =>
    (d.transactions = [] ∧ d.committed.Depicts m) ∨
      ∃ u transaction, d.transactions = [(u, transaction)] ∧ transaction.rollbackOnly = false ∧
        (transaction.written.getD d.committed).Depicts m

end DataStore

/-- The tables as the thread whose turn it is sees them: with what an open transaction wrote. -/
def Database.current (d : Database) : Tables := (d.transactions.head?.bind (·.2.written)).getD d.committed

theorem Memory.serves_empty : (DataStore.memory .empty).Serves .empty := rfl

theorem Database.serves_new (shared : Bool) : (DataStore.database (.new .empty shared)).Serves .empty :=
  Or.inl ⟨rfl, depicts_empty⟩

namespace DataStore

variable {s : DataStore} {t : Thread} {m : Memory}

/-- At most one thread has a transaction open, and no scope of it was given up. -/
def Orderly (s : DataStore) : Prop :=
  match s with
  | memory _ => True
  | database d =>
    d.transactions = [] ∨ ∃ u transaction, d.transactions = [(u, transaction)] ∧ transaction.rollbackOnly = false

private def Steady (d : Database) (t : Thread) : Prop :=
  d.transactions = [] ∨ ∃ transaction, d.transactions = [(t, transaction)] ∧ transaction.rollbackOnly = false

private theorem steady_iff_of_admits {d : Database} (admits : (database d).Admits t) :
    Steady d t ↔ (database d).Orderly := by
  have others : d.others t = [] := admits
  constructor
  · rintro (idle | ⟨transaction, alone, sound⟩)
    · exact Or.inl idle
    · exact Or.inr ⟨t, transaction, alone, sound⟩
  · rintro (idle | ⟨u, transaction, alone, sound⟩)
    · exact Or.inl idle
    · rw [Database.others, alone] at others
      obtain rfl : u = t := by
        by_contra different
        simp [Table.erase, different] at others
      exact Or.inr ⟨transaction, alone, sound⟩

private theorem Steady.view {d : Database} (steady : Steady d t) : d.view t = d.current := by
  obtain idle | ⟨transaction, alone, -⟩ := steady
  · simp [Database.view, Database.current, idle, Table.get?_nil]
  · simp [Database.view, Database.current, alone, Table.get?_cons]

theorem view_of_admits {d : Database} (orderly : (database d).Orderly) (admits : (database d).Admits t) :
    d.view t = d.current :=
  ((steady_iff_of_admits admits).2 orderly).view

theorem serves_iff {d : Database} : (database d).Serves m ↔ (database d).Orderly ∧ d.current.Depicts m := by
  constructor
  · rintro (⟨idle, depicts⟩ | ⟨u, transaction, alone, sound, depicts⟩)
    · exact ⟨Or.inl idle, by simpa [Database.current, idle] using depicts⟩
    · exact ⟨Or.inr ⟨u, transaction, alone, sound⟩, by simpa [Database.current, alone] using depicts⟩
  · rintro ⟨idle | ⟨u, transaction, alone, sound⟩, depicts⟩
    · exact Or.inl ⟨idle, by simpa [Database.current, idle] using depicts⟩
    · exact Or.inr ⟨u, transaction, alone, sound, by simpa [Database.current, alone] using depicts⟩

theorem free_of_admits {d : Database} (admits : (database d).Admits t) : d.Free t := by
  have others : d.others t = [] := admits
  exact ⟨by simp [Database.crowdedOut, others], by simp [Database.writeLocked, others]⟩

private theorem Steady.keep {d : Database} (steady : Steady d t) (tables : Tables) : Steady (d.keep t tables) t := by
  obtain idle | ⟨transaction, alone, sound⟩ := steady
  · exact Or.inl (by simp [Database.keep, idle, Table.get?_nil])
  · exact Or.inr ⟨{ transaction with written := some tables }, by simp [Database.keep, alone, Table.get?_cons, Table.put], sound⟩

theorem Serves.shows (serves : s.Serves m) (admits : s.Admits t) : s.Shows t m := by
  cases s with
  | memory m' => exact serves
  | database d =>
    obtain ⟨orderly, depicts⟩ := serves_iff.1 serves
    exact ⟨free_of_admits admits, by rwa [view_of_admits orderly admits]⟩

theorem Admits.perform (admits : s.Admits t) (op : Operation) : (s.perform t op).2.Admits t := by
  cases s with
  | memory m => trivial
  | database d =>
    have others : d.others t = [] := admits
    show (d.perform t op).2.others t = []
    obtain ⟨-, -, unchanged | kept⟩ := Database.perform_of_free (free_of_admits admits) op
    · rwa [unchanged]
    · rwa [kept, Database.others_keep]

theorem Orderly.perform (orderly : s.Orderly) (admits : s.Admits t) (op : Operation) : (s.perform t op).2.Orderly := by
  cases s with
  | memory m => trivial
  | database d =>
    have steady := (steady_iff_of_admits admits).2 orderly
    refine (steady_iff_of_admits (admits.perform op)).1 ?_
    show Steady (d.perform t op).2 t
    obtain ⟨-, -, unchanged | kept⟩ := Database.perform_of_free (free_of_admits admits) op
    · rwa [unchanged]
    · rw [kept]
      exact steady.keep _

theorem Serves.perform (serves : s.Serves m) (admits : s.Admits t) {op : Operation} (faithful : op.IsFaithful) :
    op.Matches (s.perform t op).1 (m.perform op).1 ∧ (s.perform t op).2.Serves (m.perform op).2 := by
  obtain ⟨answers, shown⟩ := (serves.shows admits).perform faithful
  refine ⟨answers, ?_⟩
  cases s with
  | memory m' => exact shown
  | database d =>
    have orderly := Orderly.perform (serves_iff.1 serves).1 admits op
    refine serves_iff.2 ⟨orderly, ?_⟩
    rw [← view_of_admits orderly (admits.perform op)]
    exact shown.2

/-! ## Scopes -/

theorem openScope_database {d : Database} (orderly : (database d).Orderly) (admits : (database d).Admits t) :
    (database (d.openScope t).2).Orderly ∧ (d.openScope t).2.current = d.current := by
  have connected := (free_of_admits admits).connected
  obtain idle | ⟨transaction, alone, sound⟩ := (steady_iff_of_admits admits).2 orderly
  · simp only [Database.openScope, idle, Table.get?_nil, connected]
    exact ⟨Or.inr ⟨t, ⟨1, false, none⟩, rfl, rfl⟩, by simp [Database.current, idle, Table.put]⟩
  · simp only [Database.openScope, alone, Table.get?_cons, if_true]
    refine ⟨Or.inr ⟨t, { transaction with depth := transaction.depth + 1 }, by simp [Table.put], sound⟩, ?_⟩
    simp [Database.current, alone, Table.put]

theorem commitScope_database {d : Database} (orderly : (database d).Orderly) (admits : (database d).Admits t) :
    (database (d.closeScope t true).2).Orderly ∧ (d.closeScope t true).2.current = d.current := by
  obtain idle | ⟨transaction, alone, sound⟩ := (steady_iff_of_admits admits).2 orderly
  · simpa only [Database.closeScope, idle, Table.get?_nil, and_true] using orderly
  · simp only [Database.closeScope, alone, Table.get?_cons, if_true, sound, Bool.not_true, Bool.or_self]
    split
    · refine ⟨Or.inr ⟨t, ⟨transaction.depth - 1, false, transaction.written⟩, by simp [Table.put], rfl⟩, ?_⟩
      simp [Database.current, alone, Table.put]
    · exact ⟨Or.inl (by simp [Table.erase]), by simp [Database.current, alone, Table.erase]⟩

theorem Serves.openScope (serves : s.Serves m) (admits : s.Admits t) :
    ∃ m', (s.openScope t).2.Serves m' ∧ { m' with transactions := m.transactions } = m := by
  cases s with
  | memory m' =>
    obtain rfl : m' = m := serves
    exact ⟨m'.openScope t, rfl, rfl⟩
  | database d =>
    obtain ⟨orderly, depicts⟩ := serves_iff.1 serves
    obtain ⟨orderly', same⟩ := openScope_database orderly admits
    rw [← same] at depicts
    exact ⟨m, serves_iff.2 ⟨orderly', depicts⟩, rfl⟩

theorem Serves.commitScope (serves : s.Serves m) (admits : s.Admits t) :
    ∃ m', (s.closeScope t true).2.Serves m' ∧ { m' with transactions := m.transactions } = m := by
  cases s with
  | memory m' =>
    obtain rfl : m' = m := serves
    refine ⟨m'.closeScope t, rfl, ?_⟩
    unfold Memory.closeScope
    split <;> rfl
  | database d =>
    obtain ⟨orderly, depicts⟩ := serves_iff.1 serves
    obtain ⟨orderly', same⟩ := commitScope_database orderly admits
    rw [← same] at depicts
    exact ⟨m, serves_iff.2 ⟨orderly', depicts⟩, rfl⟩

end DataStore

/-! ## Who is in a transaction -/

theorem Memory.perform_spares (m : Memory) (op : Operation) :
    (m.perform op).2.transactions = m.transactions ∧ (op.putsGroup = false → (m.perform op).2.groups = m.groups) := by
  cases op with
  | selfRecipient aci pni number =>
    show (m.selfRecipient aci pni number).2.transactions = _ ∧ (_ → (m.selfRecipient aci pni number).2.groups = _)
    unfold Memory.selfRecipient
    split <;> exact ⟨rfl, fun _ => rfl⟩
  | markRegistered id | setProfileSharing id enabled | setProfileKey id key =>
    simp only [Memory.perform, Memory.updateRecipient]
    split <;> exact ⟨rfl, fun _ => rfl⟩
  | putGroup g => exact ⟨rfl, fun puts => Bool.noConfusion puts⟩
  | _ => exact ⟨rfl, fun _ => rfl⟩

namespace DataStore

variable {s : DataStore} {t u : Thread}

def depth? (s : DataStore) (t : Thread) : Option Nat :=
  match s with
  | memory m => m.transactions.get? t
  | database d => (d.transactions.get? t).map (·.depth)

theorem inTransaction_eq (s : DataStore) (t : Thread) : s.inTransaction t = (s.depth? t).isSome := by
  cases s with
  | memory m => rfl
  | database d => exact Option.isSome_map.symm

theorem depth_perform (s : DataStore) (t u : Thread) (op : Operation) : (s.perform t op).2.depth? u = s.depth? u := by
  cases s with
  | memory m => exact congrArg (Table.get? · u) (m.perform_spares op).1
  | database d =>
    show ((d.perform t op).2.transactions.get? u).map _ = (d.transactions.get? u).map _
    obtain failed | ⟨-, ⟨unchanged, -⟩ | ⟨-, kept⟩⟩ := d.perform_cases t op
    · rw [failed]
    · rw [unchanged]
    · rw [kept]
      unfold Database.keep
      cases open_ : d.transactions.get? t with
      | none => rfl
      | some transaction =>
        simp only [Table.get?_put]
        split
        · rename_i same
          rw [← same, open_]
          rfl
        · rfl

theorem inTransaction_perform (s : DataStore) (t u : Thread) (op : Operation) :
    (s.perform t op).2.inTransaction u = s.inTransaction u := by
  rw [inTransaction_eq, inTransaction_eq, depth_perform]

theorem inTransaction_openScope (s : DataStore) (other : t ≠ u) : (s.openScope t).2.inTransaction u = s.inTransaction u := by
  cases s with
  | memory m =>
    show (m.openScope t).inTransaction u = m.inTransaction u
    simp [Memory.openScope, Memory.inTransaction, Table.get?_put, other]
  | database d =>
    show (d.openScope t).2.inTransaction u = d.inTransaction u
    unfold Database.openScope
    split
    · simp [Database.inTransaction, Table.get?_put, other]
    · split
      · rfl
      · simp [Database.inTransaction, Table.get?_put, other]

theorem inTransaction_closeScope (s : DataStore) (other : t ≠ u) (commit : Bool) :
    (s.closeScope t commit).2.inTransaction u = s.inTransaction u := by
  cases s with
  | memory m =>
    show (m.closeScope t).inTransaction u = m.inTransaction u
    unfold Memory.closeScope
    split
    · simp [Memory.inTransaction, Table.get?_put, other]
    · simp [Memory.inTransaction, Table.get?_erase, other]
  | database d =>
    show (d.closeScope t commit).2.inTransaction u = d.inTransaction u
    unfold Database.closeScope
    split
    · rfl
    · dsimp only
      split
      · simp [Database.inTransaction, Table.get?_put, other]
      · split <;> simp [Database.inTransaction, Table.get?_erase, other]

end DataStore
end Enrolment.Store
