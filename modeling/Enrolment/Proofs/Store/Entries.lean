import Enrolment.Proofs.Json.RoundTrip
import Enrolment.Proofs.Store.Database
import Enrolment.Store.DataStore
/-!
What lies under the keys of a data store, whether it can be read or not. An operation leaves all of
it as it is but the value that it edits, in the eyes of every thread (`stored?_perform`). A value is
either written, and then it is what is read from then on, or nothing happens (`perform_write`).
-/
namespace Enrolment.Store

namespace Database

theorem perform_read (d : Database) (t : Thread) (key : String) :
    d.perform t (.read key) =
      (if d.crowdedOut t then .error (.ofMedium .sql) else ((Script.read key).run (d.view t)).1, d) :=
  d.perform_of_silent t (.read key) (Script.calls_read fun _ => rfl)

theorem view_keep_cases (d : Database) (t u : Thread) (tables : Tables) :
    (d.keep t tables).view u = d.view u ∨ (d.keep t tables).view u = tables ∧ d.view u = d.view t := by
  by_cases same : t = u
  · subst same
    exact Or.inr ⟨view_keep d t tables, rfl⟩
  unfold keep view
  cases d.transactions.get? t with
  | some transaction =>
    apply Or.inl
    simp only [Table.get?_put, if_neg same]
  | none =>
    cases (d.transactions.get? u).bind (·.written) with
    | none => exact Or.inr ⟨rfl, rfl⟩
    | some written => exact Or.inl rfl

theorem get?_perform (d : Database) (t u : Thread) {op : Operation} {key : String} (other : op.edited? ≠ some key) :
    ((d.perform t op).2.view u).values.get? key = (d.view u).values.get? key := by
  have spared := Script.get?_run (Script.truthful_ofOperation op) other (d.view t)
  rcases perform_cases d t op with failed | ⟨-, ⟨unchanged, -⟩ | ⟨-, kept⟩⟩
  · rw [failed]
  · rw [unchanged]
  · rw [kept]
    rcases view_keep_cases d t u ((Script.ofOperation op).run (d.view t)).2 with unseen | ⟨seen, same⟩
    · rw [unseen]
    · rw [seen, spared, same]

theorem crowdedOut_perform (d : Database) (t : Thread) (op : Operation) :
    (d.perform t op).2.crowdedOut t = d.crowdedOut t := by
  rcases perform_cases d t op with failed | ⟨-, ⟨unchanged, -⟩ | ⟨-, kept⟩⟩
  · rw [failed]
  · rw [unchanged]
  · rw [kept, crowdedOut_keep]

private theorem seen_of_ok {d : Database} {t : Thread} {op : Operation} {answer : op.Result}
    (done : (d.perform t op).1 = .ok answer) :
    (d.perform t op).2.crowdedOut t = false ∧
      (d.perform t op).2.view t = ((Script.ofOperation op).run (d.view t)).2 := by
  have connected : d.crowdedOut t = false := by
    cases crowded : d.crowdedOut t with
    | false => rfl
    | true =>
      unfold perform runScript at done
      rw [if_pos crowded] at done
      cases done
  refine ⟨(crowdedOut_perform d t op).trans connected, ?_⟩
  rcases perform_cases d t op with failed | ⟨-, ⟨unchanged, silent⟩ | ⟨-, kept⟩⟩
  · rw [failed] at done
    cases done
  · rw [unchanged, silent]
  · rw [kept, view_keep]

theorem free_of_written {d : Database} {t : Thread} {key : String} {value : Json}
    (done : (d.perform t (.write key value)).1 = .ok ()) : d.Free t := by
  obtain ⟨free, -⟩ | ⟨-, failed⟩ := d.perform_of_noted t (.write key value) rfl
  · exact free
  · rw [failed] at done
    cases done

theorem run_read_congr {key : String} {t t' : Tables} (same : t'.values.get? key = t.values.get? key) :
    ((Script.read key).run t').1 = ((Script.read key).run t).1 := by
  simp only [Script.read, Script.run_bind, Script.run_query, same]
  cases t.values.get? key with
  | none => rfl
  | some cell =>
    simp only [Script.run_bind, Script.column]
    cases cell.text? with
    | none => rfl
    | some text =>
      simp only [Script.run_orFault_some]
      cases Json.value? text <;> rfl

end Database

namespace DataStore

/-- What a thread finds under a key: a document in memory, or the cell of a database. -/
def stored? (s : DataStore) (u : Thread) (key : String) : Option (Json ⊕ Cell) :=
  match s with
  | memory m => (m.values.get? key).map .inl
  | database d => ((d.view u).values.get? key).map .inr

variable {s : DataStore} {t u : Thread} {op : Operation} {key : String}

private theorem get?_performMemory (m : Memory) (other : op.edited? ≠ some key) :
    (m.perform op).2.values.get? key = m.values.get? key := by
  cases op with
  | write edited value => exact (Table.get?_put _ _ _ _).trans (if_neg fun same => other (congrArg some same))
  | erase edited => exact (Table.get?_erase _ _ _).trans (if_neg fun same => other (congrArg some same))
  | selfRecipient aci pni number =>
    simp only [Memory.perform, Memory.selfRecipient]
    split <;> rfl
  | markRegistered id | setProfileSharing id enabled | setProfileKey id key =>
    simp only [Memory.perform, Memory.updateRecipient]
    split <;> rfl
  | _ => rfl

theorem stored?_perform (other : op.edited? ≠ some key) : (s.perform t op).2.stored? u key = s.stored? u key := by
  cases s with
  | memory m => exact congrArg (Option.map _) (get?_performMemory m other)
  | database d => exact congrArg (Option.map _) (d.get?_perform t u other)

theorem read_perform (other : op.edited? ≠ some key) :
    ((s.perform t op).2.perform t (.read key)).1 = (s.perform t (.read key)).1 := by
  cases s with
  | memory m => exact congrArg Except.ok (get?_performMemory m other)
  | database d =>
    show ((d.perform t op).2.perform t (.read key)).1 = (d.perform t (.read key)).1
    rw [Database.perform_read, Database.perform_read, Database.crowdedOut_perform,
      Database.run_read_congr (d.get?_perform t t other)]

theorem perform_read : (s.perform t (.read key)).2 = s := by
  cases s with
  | memory m => rfl
  | database d =>
    show database (d.perform t (.read key)).2 = database d
    rw [Database.perform_read]

theorem perform_write (s : DataStore) (t : Thread) (key : String) {value : Json} (plain : value.isPlain = true) :
    (s.perform t (.write key value)).1 = .ok () ∧
        ((s.perform t (.write key value)).2.perform t (.read key)).1 = .ok (some value) ∨
      ∃ e, s.perform t (.write key value) = (.error e, s) := by
  cases s with
  | memory m =>
    refine Or.inl ⟨rfl, ?_⟩
    show Except.ok ((m.values.put key value).get? key) = _
    rw [Table.get?_put, if_pos rfl]
  | database d =>
    rcases d.perform_cases t (.write key value) with failed | ⟨done, -⟩
    · exact Or.inr ⟨_, congrArg (Prod.map id database) failed⟩
    refine Or.inl ⟨done, ?_⟩
    obtain ⟨connected, seen⟩ := Database.seen_of_ok done
    show ((d.perform t (.write key value)).2.perform t (.read key)).1 = _
    have stored : ((d.perform t (.write key value)).2.view t).values.get? key = some (.text value.render) := by
      rw [seen]
      exact (Table.get?_put _ _ _ _).trans (if_pos rfl)
    rw [Database.perform_read, connected]
    simp [Script.read, stored, Script.column, Cell.text?, Json.value?_render plain, Except.map]

theorem perform_write_again {first second : Json} {key' : String} (done : (s.perform t (.write key first)).1 = .ok ()) :
    ((s.perform t (.write key first)).2.perform t (.write key' second)).1 = .ok () := by
  cases s with
  | memory m => rfl
  | database d =>
    have free := (Database.free_of_written done).perform (.write key first)
    exact (Database.perform_of_free free (.write key' second)).1

theorem perform_erase (s : DataStore) (t : Thread) (key : String) :
    (s.perform t (.erase key)).1 = .ok () ∧ ((s.perform t (.erase key)).2.perform t (.read key)).1 = .ok none ∨
      ∃ e, s.perform t (.erase key) = (.error e, s) := by
  cases s with
  | memory m =>
    refine Or.inl ⟨rfl, ?_⟩
    show Except.ok ((m.values.erase key).get? key) = _
    rw [Table.get?_erase, if_pos rfl]
  | database d =>
    rcases d.perform_cases t (.erase key) with failed | ⟨done, -⟩
    · exact Or.inr ⟨_, congrArg (Prod.map id database) failed⟩
    refine Or.inl ⟨done, ?_⟩
    obtain ⟨connected, seen⟩ := Database.seen_of_ok done
    show ((d.perform t (.erase key)).2.perform t (.read key)).1 = _
    have gone : ((d.perform t (.erase key)).2.view t).values.get? key = none := by
      rw [seen]
      exact (Table.get?_erase _ _ _).trans (if_pos rfl)
    rw [Database.perform_read, connected]
    simp [Script.read, gone]

end DataStore

end Enrolment.Store
