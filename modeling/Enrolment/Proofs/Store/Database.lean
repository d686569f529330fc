import Enrolment.Proofs.Store.Script
/-!
What one operation does to a database. A thread that can work sees its operation do what the
operation's script does on the tables that the thread sees; a thread that cannot changes nothing.
-/
namespace Enrolment

theorem Table.erase_put {κ α : Type} [DecidableEq κ] (t : Table κ α) (key : κ) (a : α) :
    (t.put key a).erase key = t.erase key := by
  induction t with
  | nil => simp [put, erase]
  | cons row rest ih =>
    unfold erase at ih ⊢
    by_cases same : row.1 = key
    · simp [put, same]
    · rw [put, if_neg same, List.filter_cons, List.filter_cons, ih]

namespace Store.Database

/-- A thread has a connection to work on, and nobody else keeps it from writing. -/
structure Free (d : Database) (t : Thread) : Prop where
  connected : d.crowdedOut t = false
  unlocked : d.writeLocked t = false

variable {α : Type}

theorem inTransaction_keep (d : Database) (t : Thread) (tables : Tables) :
    (d.keep t tables).inTransaction t = d.inTransaction t := by
  unfold keep inTransaction
  cases h : d.transactions.get? t with
  | none => simp [h]
  | some transaction => simp [Table.get?_put]

theorem others_keep (d : Database) (t : Thread) (tables : Tables) : (d.keep t tables).others t = d.others t := by
  unfold keep others
  cases d.transactions.get? t with
  | none => rfl
  | some transaction => exact Table.erase_put _ _ _

theorem view_keep (d : Database) (t : Thread) (tables : Tables) : (d.keep t tables).view t = tables := by
  unfold keep view
  cases h : d.transactions.get? t with
  | none => simp [h]
  | some transaction => simp [Table.get?_put]

private theorem shared_keep (d : Database) (t : Thread) (tables : Tables) : (d.keep t tables).shared = d.shared := by
  unfold keep
  split <;> rfl

theorem crowdedOut_keep (d : Database) (t : Thread) (tables : Tables) :
    (d.keep t tables).crowdedOut t = d.crowdedOut t := by
  unfold crowdedOut
  rw [shared_keep, inTransaction_keep, others_keep]

theorem writeLocked_keep (d : Database) (t : Thread) (tables : Tables) :
    (d.keep t tables).writeLocked t = d.writeLocked t := by
  unfold writeLocked
  rw [others_keep]

/-- Either a thread's operation does to its view what the script does, or it fails without effect. -/
theorem perform_cases (d : Database) (t : Thread) (op : Operation) :
    d.perform t op = (.error (.ofMedium .sql), d) ∨
      (d.perform t op).1 = ((Script.ofOperation op).run (d.view t)).1 ∧
        ((d.perform t op).2 = d ∧ ((Script.ofOperation op).run (d.view t)).2 = d.view t ∨
          d.writeLocked t = false ∧
            (d.perform t op).2 = d.keep t ((Script.ofOperation op).run (d.view t)).2) := by
  obtain ⟨same, silent⟩ := Script.runNoting_eq (Script.truthful_ofOperation op) (d.view t)
  unfold perform runScript
  by_cases crowded : d.crowdedOut t = true
  · exact Or.inl (if_pos crowded)
  rw [if_neg crowded]
  generalize (Script.ofOperation op).runNoting (d.view t) = noted at same silent
  obtain ⟨result, tables, _ | _⟩ := noted
  · exact Or.inr ⟨congrArg Prod.fst same, Or.inl ⟨rfl, silent rfl⟩⟩
  · by_cases locked : d.writeLocked t = true
    · exact Or.inl (if_pos locked)
    · simp only [if_neg locked]
      refine Or.inr ⟨congrArg Prod.fst same, Or.inr ⟨by simpa using locked, ?_⟩⟩
      rw [← same]

theorem perform_of_free {d : Database} {t : Thread} (free : d.Free t) (op : Operation) :
    (d.perform t op).1 = ((Script.ofOperation op).run (d.view t)).1 ∧
      (d.perform t op).2.view t = ((Script.ofOperation op).run (d.view t)).2 ∧
        ((d.perform t op).2 = d ∨
          (d.perform t op).2 = d.keep t ((Script.ofOperation op).run (d.view t)).2) := by
  obtain ⟨same, silent⟩ := Script.runNoting_eq (Script.truthful_ofOperation op) (d.view t)
  unfold perform runScript
  rw [if_neg (by simp [free.connected])]
  generalize (Script.ofOperation op).runNoting (d.view t) = noted at same silent
  obtain ⟨result, tables, _ | _⟩ := noted
  · exact ⟨congrArg Prod.fst same, (silent rfl).symm, Or.inl rfl⟩
  · simp only [if_neg (show ¬ d.writeLocked t = true by simp [free.unlocked])]
    rw [← same]
    exact ⟨rfl, view_keep _ _ _, Or.inr rfl⟩

theorem perform_of_silent (d : Database) (t : Thread) (op : Operation)
    (silent : Script.Calls (fun statement => ∀ tables, statement.writes tables = false) (Script.ofOperation op)) :
    d.perform t op = (if d.crowdedOut t then .error (.ofMedium .sql) else ((Script.ofOperation op).run (d.view t)).1, d) := by
  have quiet := Script.quiet_of_calls silent (d.view t)
  obtain ⟨same, -⟩ := Script.runNoting_eq (Script.truthful_ofOperation op) (d.view t)
  unfold perform runScript
  split
  · rfl
  generalize (Script.ofOperation op).runNoting (d.view t) = noted at quiet same
  obtain ⟨result, tables, wrote⟩ := noted
  obtain rfl : wrote = false := quiet
  rw [← same]

theorem perform_of_noted (d : Database) (t : Thread) (op : Operation)
    (noted : ((Script.ofOperation op).runNoting (d.view t)).2.2 = true) :
    d.Free t ∧ d.perform t op =
        (((Script.ofOperation op).run (d.view t)).1, d.keep t ((Script.ofOperation op).run (d.view t)).2) ∨
      ¬ d.Free t ∧ d.perform t op = (.error (.ofMedium .sql), d) := by
  obtain ⟨same, -⟩ := Script.runNoting_eq (Script.truthful_ofOperation op) (d.view t)
  unfold perform runScript
  cases crowded : d.crowdedOut t with
  | true => exact Or.inr ⟨fun free => absurd (free.connected.symm.trans crowded) (by decide), rfl⟩
  | false =>
    generalize (Script.ofOperation op).runNoting (d.view t) = outcome at noted same
    obtain ⟨result, tables, wrote⟩ := outcome
    obtain rfl : wrote = true := noted
    cases locked : d.writeLocked t with
    | true => exact Or.inr ⟨fun free => absurd (free.unlocked.symm.trans locked) (by decide), rfl⟩
    | false =>
      refine Or.inl ⟨⟨crowded, locked⟩, ?_⟩
      rw [← same]
      rfl

theorem Free.perform {d : Database} {t : Thread} (free : d.Free t) (op : Operation) : (d.perform t op).2.Free t := by
  obtain ⟨-, -, unchanged | kept⟩ := perform_of_free free op
  · rwa [unchanged]
  · rw [kept]
    exact ⟨(crowdedOut_keep _ _ _).trans free.connected, (writeLocked_keep _ _ _).trans free.unlocked⟩

end Store.Database
end Enrolment
