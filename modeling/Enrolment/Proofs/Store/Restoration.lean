import Enrolment.Proofs.Store.Archive
import Enrolment.Proofs.Store.Nesting
/-!
A call that fails after it wrote some rows goes back to where it began: to the mark that it set in the
transaction that its thread has open, or to what is committed. Main result: `archiveSessions_whole`.
-/
namespace Enrolment.Store

/-! ## A transaction of its own -/

/-- A connection: the tables as it sees them, and as they were where each of its open transactions began, the
innermost first. -/
structure Connection where
  now : Tables
  marks : List Tables

namespace Connection

variable {α : Type}

def mark (c : Connection) : Connection := { c with marks := c.now :: c.marks }

def release (c : Connection) : Connection := { c with marks := c.marks.tail }

def goBack (c : Connection) : Connection := ⟨c.marks.headD c.now, c.marks.tail⟩

def run (c : Connection) (s : Script α) : Except Fault α × Connection :=
  ((s.run c.now).1, { c with now := (s.run c.now).2 })

def runWithin (c : Connection) (s : Script α) : Except Fault α × Connection :=
  match c.mark.run s with
  | (.ok a, c') => (.ok a, c'.release)
  | (.error e, c') => (.error e, c'.goBack)

/-- A script in a transaction of its own is one statement, whatever transactions are open around it. -/
theorem runWithin_eq (c : Connection) (s : Script α) : c.runWithin s = c.run (.atomically s) := by
  simp only [runWithin, run, mark, Script.run_atomically]
  generalize s.run c.now = outcome
  obtain ⟨_ | _, _⟩ := outcome <;> rfl

end Connection

namespace Database

def connection (d : Database) (t : Thread) : Connection := ⟨d.view t, if d.inTransaction t then [d.committed] else []⟩

variable {d d' : Database} {t : Thread}

theorem connection_keep (d : Database) (t : Thread) (tables : Tables) :
    (d.keep t tables).connection t = { d.connection t with now := tables } := by
  unfold connection
  rw [view_keep, inTransaction_keep]
  cases found : d.transactions.get? t with
  | none => simp [inTransaction, found]
  | some transaction => simp [inTransaction, keep, found]

/-! ## Going on after a failure -/

/-- Two states of a database differ at most in that in the second a thread, which sees the same in both, may have
written in its transaction already. -/
structure Alike (d d' : Database) (t : Thread) : Prop where
  committed : d'.committed = d.committed
  shared : d'.shared = d.shared
  others : d'.others t = d.others t
  transaction : Option.Rel (fun x x' => x'.depth = x.depth ∧ x'.rollbackOnly = x.rollbackOnly ∧
    x'.written.getD d.committed = x.written.getD d.committed) (d.transactions.get? t) (d'.transactions.get? t)

namespace Alike

theorem refl (d : Database) (t : Thread) : d.Alike d t := by
  refine ⟨rfl, rfl, rfl, ?_⟩
  cases d.transactions.get? t with
  | none => exact .none
  | some transaction => exact .some ⟨rfl, rfl, rfl⟩

theorem keep_view (d : Database) (t : Thread) : d.Alike (d.keep t (d.view t)) t := by
  have others := others_keep d t (d.view t)
  unfold keep at others ⊢
  cases found : d.transactions.get? t with
  | none =>
    have seen : d.view t = d.committed := by simp [view, found]
    rw [seen]
    exact refl d t
  | some transaction =>
    rw [found] at others
    refine ⟨rfl, rfl, others, ?_⟩
    rw [found, Table.get?_put, if_pos rfl]
    exact .some ⟨rfl, rfl, by simp [view, found]⟩

theorem put (alike : d.Alike d' t) {x x' : Transaction} (depth : x'.depth = x.depth)
    (rollbackOnly : x'.rollbackOnly = x.rollbackOnly)
    (written : x'.written.getD d.committed = x.written.getD d.committed) :
    Alike { d with transactions := d.transactions.put t x } { d' with transactions := d'.transactions.put t x' } t := by
  refine ⟨alike.committed, alike.shared, ?_, ?_⟩
  · exact (Table.erase_put _ _ _).trans (alike.others.trans (Table.erase_put _ _ _).symm)
  · rw [Table.get?_put, Table.get?_put, if_pos rfl, if_pos rfl]
    exact .some ⟨depth, rollbackOnly, written⟩

variable (alike : d.Alike d' t)

include alike

theorem inTransaction : d'.inTransaction t = d.inTransaction t := by
  have same := alike.transaction
  unfold Database.inTransaction
  generalize d.transactions.get? t = o, d'.transactions.get? t = o' at same
  cases same <;> rfl

theorem crowdedOut : d'.crowdedOut t = d.crowdedOut t := by
  unfold Database.crowdedOut
  rw [alike.shared, alike.inTransaction, alike.others]

theorem writeLocked : d'.writeLocked t = d.writeLocked t := by
  unfold Database.writeLocked
  rw [alike.others]

theorem view (u : Thread) : d'.view u = d.view u := by
  unfold Database.view
  rw [alike.committed]
  by_cases same : t = u
  · subst same
    have scopes := alike.transaction
    generalize d.transactions.get? t = o, d'.transactions.get? t = o' at scopes
    cases scopes with
    | none => rfl
    | some scopes => exact scopes.2.2
  · have found : (d'.others t).get? u = (d.others t).get? u := by rw [alike.others]
    rw [Database.others, Database.others, Table.get?_erase, Table.get?_erase, if_neg same, if_neg same] at found
    rw [found]

theorem eq_of_outside (outside : d.inTransaction t = false) : d' = d := by
  have absent {d : Database} (outside : d.inTransaction t = false) : d.transactions.get? t = none := by
    simpa [Database.inTransaction] using outside
  have transactions := alike.others
  rw [others_of_outside (absent outside), others_of_outside (absent (alike.inTransaction.trans outside))] at transactions
  have committed := alike.committed
  have shared := alike.shared
  cases d
  cases d'
  simp_all

theorem keep (tables : Tables) : (d.keep t tables).Alike (d'.keep t tables) t := by
  have scopes := alike.transaction
  unfold Database.keep
  cases found : d.transactions.get? t with
  | none =>
    have outside : d.inTransaction t = false := by simp [Database.inTransaction, found]
    rw [alike.eq_of_outside outside, found]
    exact refl _ t
  | some x =>
    cases found' : d'.transactions.get? t with
    | none => simp [found, found'] at scopes
    | some x' =>
      rw [found, found'] at scopes
      cases scopes with
      | some scopes => exact alike.put scopes.1 scopes.2.1 rfl

theorem perform (op : Operation) :
    (d'.perform t op).1 = (d.perform t op).1 ∧ (d.perform t op).2.Alike (d'.perform t op).2 t := by
  unfold Database.perform runScript
  rw [alike.crowdedOut, alike.view, alike.writeLocked]
  split
  · exact ⟨rfl, alike⟩
  · split
    · exact ⟨rfl, alike⟩
    · split
      · exact ⟨rfl, alike⟩
      · exact ⟨rfl, alike.keep _⟩

theorem openScope : (d'.openScope t).1 = (d.openScope t).1 ∧ (d.openScope t).2.Alike (d'.openScope t).2 t := by
  have scopes := alike.transaction
  have crowded := alike.crowdedOut
  unfold Database.openScope
  rw [crowded]
  generalize found : d.transactions.get? t = o, d'.transactions.get? t = o' at scopes
  cases scopes with
  | some scopes => exact ⟨rfl, alike.put (congrArg (· + 1) scopes.1) scopes.2.1 scopes.2.2⟩
  | none =>
    dsimp only
    split
    · exact ⟨rfl, alike⟩
    · exact ⟨rfl, alike.put rfl rfl rfl⟩

theorem closeScope (commit : Bool) :
    (d'.closeScope t commit).1 = (d.closeScope t commit).1 ∧ (d.closeScope t commit).2.Alike (d'.closeScope t commit).2 t := by
  have scopes := alike.transaction
  unfold Database.closeScope
  generalize found : d.transactions.get? t = o, d'.transactions.get? t = o' at scopes
  cases scopes with
  | none => exact ⟨rfl, alike⟩
  | @some x x' scopes =>
    obtain ⟨depth, rollbackOnly, written⟩ := scopes
    have gone : d'.transactions.erase t = d.transactions.erase t := alike.others
    by_cases inner : 1 < x.depth
    · simp only [depth, rollbackOnly, if_pos inner, true_and]
      exact alike.put rfl rfl written
    · simp only [depth, rollbackOnly, if_neg inner, gone, alike.committed, alike.shared, written, true_and]
      exact refl _ t

theorem moved (moves : List Move) : (d.moved t moves).Alike (d'.moved t moves) t := by
  induction moves with
  | nil => exact alike
  | cons move past ih =>
    cases move with
    | opens guard => exact ih.openScope.2
    | performs op => exact (ih.perform op).2
    | ends guard how => exact (ih.closeScope _).2

end Alike

/-- A failed call did no harm. All threads see what they saw, and the one that made it goes on as if it had not:
what it wrote in its transaction is kept when the transaction is committed, now or after other calls. -/
structure Unharmed (d d' : Database) (t : Thread) : Prop where
  seen : ∀ u, d'.view u = d.view u
  committed : d'.committed = d.committed
  outside : d.inTransaction t = false → d' = d
  commit : ∀ written, d.transactions.get? t = some ⟨1, false, written⟩ →
    d'.closeScope t true = (.ok (), ⟨d.view t, d.others t, d.shared⟩)
  answers : ∀ moves op, ((d'.moved t moves).perform t op).1 = ((d.moved t moves).perform t op).1
  ends : ∀ moves commit, ((d'.moved t moves).closeScope t commit).1 = ((d.moved t moves).closeScope t commit).1
  later : ∀ moves, (d.moved t moves).inTransaction t = false → d'.moved t moves = d.moved t moves

theorem Alike.unharmed (alike : d.Alike d' t) : d.Unharmed d' t where
  seen := alike.view
  committed := alike.committed
  outside := alike.eq_of_outside
  commit written found := by
    have closed : d.closeScope t true = (.ok (), ⟨d.view t, d.others t, d.shared⟩) := by
      simp [Database.closeScope, found, Database.view, Database.others]
    obtain ⟨answer, after⟩ := alike.closeScope true
    rw [closed] at answer after
    have outside : (⟨d.view t, d.others t, d.shared⟩ : Database).inTransaction t = false := by
      simp [Database.inTransaction, Database.others, Table.get?_erase]
    exact Prod.ext answer (after.eq_of_outside outside)
  answers moves op := ((alike.moved moves).perform op).1
  ends moves commit := ((alike.moved moves).closeScope commit).1
  later moves := (alike.moved moves).eq_of_outside

private theorem archiveSessions_of_legible {space : Namespace} (distinct : ((d.view t).sessions.map (·.1)).Nodup)
    (legible : Legible space (d.view t).sessions) :
    let tables := { d.view t with sessions := archivedRows space (d.view t).sessions }
    let outcome := d.perform t (.archiveSessions space)
    outcome = (.error (.ofMedium .sql), d) ∨
      outcome.1 = .ok (currentRows space (d.view t).sessions) ∧ outcome.2.view t = tables ∧
        (outcome.2 = d ∨ outcome.2 = d.keep t tables) := by
  intro tables outcome
  have ran : (Script.ofOperation (.archiveSessions space)).run (d.view t) = _ :=
    Script.run_archiveSessions distinct legible
  obtain failed | ⟨answers, changes⟩ := perform_cases d t (.archiveSessions space)
  · exact Or.inl failed
  rw [ran] at answers changes
  refine Or.inr ⟨answers, ?_⟩
  obtain ⟨unchanged, same⟩ | ⟨-, kept⟩ := changes
  · exact ⟨(congrArg (view · t) unchanged).trans same.symm, Or.inl unchanged⟩
  · exact ⟨(congrArg (view · t) kept).trans (view_keep _ _ _), Or.inr kept⟩

private theorem archiveSessions_of_damaged {space : Namespace} (damaged : ¬ Legible space (d.view t).sessions) :
    let outcome := d.perform t (.archiveSessions space)
    (∃ e, outcome.1 = .error e) ∧ d.Alike outcome.2 t := by
  intro outcome
  obtain ⟨e, ran⟩ := Script.run_archiveSessions_error damaged
  have ran : (Script.ofOperation (.archiveSessions space)).run (d.view t) = _ := ran
  obtain failed | ⟨answers, changes⟩ := perform_cases d t (.archiveSessions space)
  · exact ⟨⟨_, congrArg Prod.fst failed⟩, congrArg Prod.snd failed ▸ Alike.refl d t⟩
  rw [ran] at answers changes
  refine ⟨⟨e, answers⟩, ?_⟩
  obtain ⟨unchanged, -⟩ | ⟨-, kept⟩ := changes
  · exact unchanged ▸ Alike.refl d t
  · exact kept ▸ Alike.keep_view d t

theorem archiveSessions_runWithin (free : d.Free t) (space : Namespace) :
    let outcome := d.perform t (.archiveSessions space)
    (outcome.1, outcome.2.connection t) = (d.connection t).runWithin (Script.archiving space) := by
  intro outcome
  obtain ⟨answers, seen, changes⟩ := perform_of_free free (.archiveSessions space)
  rw [Connection.runWithin_eq, ← Script.archiveSessions_eq]
  refine Prod.ext answers ?_
  show outcome.2.connection t = { d.connection t with now := ((Script.archiveSessions space).run (d.view t)).2 }
  obtain unchanged | kept := changes
  · rw [unchanged] at seen
    rw [show outcome.2 = d from unchanged]
    exact congrArg (fun now => { d.connection t with now }) seen
  · rw [show outcome.2 = _ from kept, connection_keep]
    rfl

/-- All sessions of a namespace are archived, or a row of it cannot be read and nothing happens. No two rows of
the table have the same key. -/
theorem archiveSessions_whole (d : Database) (t : Thread) (space : Namespace)
    (distinct : ((d.view t).sessions.map (·.1)).Nodup) :
    let rows := (d.view t).sessions
    let outcome := d.perform t (.archiveSessions space)
    ((∃ rows', outcome.1 = .ok (currentRows space rows) ∧ List.Forall₂ (ArchivedRow space) rows rows' ∧
          outcome.2.view t = { d.view t with sessions := rows' } ∧
          (outcome.2 = d ∨ outcome.2 = d.keep t { d.view t with sessions := rows' })) ∨
        (∃ e, outcome.1 = .error e) ∧ d.Unharmed outcome.2 t) ∧
      (d.Free t → ((∃ n, outcome.1 = .ok n) ↔ Legible space rows) ∧
        (outcome.1, outcome.2.connection t) = (d.connection t).runWithin (Script.archiving space)) := by
  intro rows outcome
  by_cases legible : Legible space rows
  · refine ⟨?_, fun free => ⟨⟨fun _ => legible, fun _ => ?_⟩, archiveSessions_runWithin free space⟩⟩
    · obtain failed | ⟨counts, archives⟩ := archiveSessions_of_legible distinct legible
      · have unchanged : outcome.2 = d := congrArg Prod.snd failed
        exact Or.inr ⟨⟨_, congrArg Prod.fst failed⟩, unchanged ▸ (Alike.refl d t).unharmed⟩
      · exact Or.inl ⟨_, counts, forall₂_archivedRows legible, archives⟩
    · exact ⟨_, (perform_of_free free _).1.trans (congrArg Prod.fst (Script.run_archiveSessions distinct legible))⟩
  · obtain ⟨⟨e, fails⟩, alike⟩ := archiveSessions_of_damaged legible
    refine ⟨Or.inr ⟨⟨e, fails⟩, alike.unharmed⟩, fun free => ⟨?_, archiveSessions_runWithin free space⟩⟩
    simp [rows, outcome, fails, legible]

/-- A row that cannot be read stands behind one that was written again, in a transaction that wrote before. -/
theorem archiveSessions_whole_after_write :
    let session : Session := ⟨some [1], []⟩
    let rows : Table (Namespace × String) Cell := [((.aci, "first"), .text (sessionText session)), ((.aci, "second"), .text "?")]
    let written : Tables := { Tables.empty with values := [("name", .text "1")], sessions := rows }
    let d : Database := ⟨{ Tables.empty with sessions := rows }, [(default, ⟨1, false, some written⟩)], false⟩
    let outcome := d.perform default (.archiveSessions .aci)
    (∃ e, outcome.1 = .error e) ∧ outcome.2.view default = written ∧
      outcome.2.closeScope default true = (.ok (), .new written false) := by
  intro session rows written d outcome
  have distinct : (((d.view default).sessions).map (·.1)).Nodup := by decide
  obtain ⟨whole, works⟩ := archiveSessions_whole d default .aci distinct
  have illegible : ¬ Legible .aci (d.view default).sessions := fun legible =>
    absurd (legible ((.aci, "second"), .text "?") (.tail _ (.head _)) rfl) (by decide)
  obtain ⟨rows', fine, -⟩ | ⟨fails, unharmed⟩ := whole
  · exact absurd ((works ⟨rfl, rfl⟩).1.1 ⟨_, fine⟩) illegible
  · exact ⟨fails, unharmed.seen default, unharmed.commit _ rfl⟩

end Database
end Enrolment.Store
