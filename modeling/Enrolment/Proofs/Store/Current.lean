import Enrolment.Proofs.Store.Entries
import Enrolment.Proofs.Store.Sight
/-!
What is read in a data store by whoever has a turn, whatever is stored there. While threads take
turns there is one such reading of every key. An operation leaves all of them as they are but the one
that it edits (`reading_perform`), and scopes make no difference to any, as long as they are committed.
-/
namespace Enrolment.Store.DataStore

variable {s : DataStore} {t : Thread}

def reading (s : DataStore) (key : String) : Except Fault (Option Json) :=
  match s with
  | memory m => .ok (m.values.get? key)
  | database d => ((Script.read key).run d.current).1

theorem perform_read_of_admits (orderly : s.Orderly) (admits : s.Admits t) (key : String) :
    (s.perform t (.read key)).1 = s.reading key := by
  cases s with
  | memory m => rfl
  | database d =>
    show (d.perform t (.read key)).1 = ((Script.read key).run d.current).1
    rw [Database.perform_read, (free_of_admits admits).connected, ← view_of_admits orderly admits]
    rfl

theorem reading_perform (orderly : s.Orderly) (admits : s.Admits t) {op : Operation} {key : String}
    (other : op.edited? ≠ some key) : (s.perform t op).2.reading key = s.reading key := by
  rw [← perform_read_of_admits (orderly.perform admits op) (admits.perform op), read_perform other,
    perform_read_of_admits orderly admits]

theorem reading_write (orderly : s.Orderly) (admits : s.Admits t) (key : String) {value : Json}
    (plain : value.isPlain = true) :
    (s.perform t (.write key value)).1 = .ok () ∧ (s.perform t (.write key value)).2.reading key = .ok (some value) ∨
      ∃ e, s.perform t (.write key value) = (.error e, s) := by
  rcases s.perform_write t key plain with ⟨done, read⟩ | failed
  · rw [perform_read_of_admits (orderly.perform admits _) (admits.perform _)] at read
    exact Or.inl ⟨done, read⟩
  · exact Or.inr failed

theorem Orderly.openScope (orderly : s.Orderly) (admits : s.Admits t) :
    (s.openScope t).2.Orderly ∧ (s.openScope t).2.reading = s.reading := by
  cases s with
  | memory m => exact ⟨trivial, rfl⟩
  | database d =>
    obtain ⟨orderly', same⟩ := openScope_database orderly admits
    exact ⟨orderly', funext fun key => congrArg (fun tables => ((Script.read key).run tables).1) same⟩

theorem Orderly.commitScope (orderly : s.Orderly) (admits : s.Admits t) :
    (s.closeScope t true).2.Orderly ∧ (s.closeScope t true).2.reading = s.reading := by
  cases s with
  | memory m =>
    refine ⟨trivial, funext fun key => congrArg (fun values => Except.ok (Table.get? values key)) ?_⟩
    show (m.closeScope t).values = m.values
    unfold Memory.closeScope
    split <;> rfl
  | database d =>
    obtain ⟨orderly', same⟩ := commitScope_database orderly admits
    exact ⟨orderly', funext fun key => congrArg (fun tables => ((Script.read key).run tables).1) same⟩

end Enrolment.Store.DataStore
