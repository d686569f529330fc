import Enrolment.Proofs.Store.Groups
import Enrolment.Proofs.Store.Stock
/-!
What a data store has of one group, and what comes of putting it. A group that is stored is read, a row
that shows no group is an error (`Stock.perform_group_cases`), and to put a group touches nothing else
(`Stock.sparing_putGroup`, `DataStore.perform_putGroup`).
-/
namespace Enrolment.Store

namespace Stock

/-- What is stored of a group: the group itself in memory, in a database a row that shows it. -/
def Holds : Stock → GroupId → Option Group → Prop
  | memory m, id, stored => m.groups.get? id = stored
  | tables t, id, stored => GroupRow.ShownAt id (t.groups.get? id) stored

/-- There is a row for a group, but it shows none. -/
def Damaged : Stock → GroupId → Prop
  | memory _, _ => False
  | tables t, id => ∃ row, t.groups.get? id = some row ∧ ∀ g, ¬ row.Shows g

def putGroup : Stock → Group → Stock
  | memory m, g => memory { m with groups := m.groups.put g.id g }
  | tables t, g => tables { t with groups := t.groups.put g.id (.of g) }

def sparing (id : GroupId) : Stock → Stock
  | memory m => memory { m with groups := m.groups.erase id }
  | tables t => tables { t with groups := t.groups.erase id }

variable {x : Stock} {id : GroupId} {stored : Option Group}

theorem holds_or_damaged (x : Stock) (id : GroupId) : (∃ stored, x.Holds id stored) ∨ x.Damaged id := by
  cases x with
  | memory m => exact Or.inl ⟨_, rfl⟩
  | tables t =>
    show (∃ stored, GroupRow.ShownAt id (t.groups.get? id) stored) ∨ ∃ row, t.groups.get? id = some row ∧ ∀ g, ¬ row.Shows g
    cases t.groups.get? id with
    | none => exact Or.inl ⟨none, .none⟩
    | some row =>
      by_cases damaged : ∀ g, ¬ row.Shows g
      · exact Or.inr ⟨row, rfl, damaged⟩
      · obtain ⟨g, shown⟩ := not_forall_not.1 damaged
        exact Or.inl ⟨some { g with id }, .some ⟨shown, rfl⟩⟩

theorem perform_group_of_holds (holds : x.Holds id stored) : x.perform (.group id) = (.ok stored, x) := by
  cases x with
  | memory m => exact congrArg (fun found => (Except.ok found, memory m)) holds
  | tables t =>
    exact congrArg (fun ran => (ran.1, tables ran.2)) (run_group_of_shown holds)

theorem perform_group_of_damaged (damaged : x.Damaged id) : ∃ e, x.perform (.group id) = (.error e, x) := by
  cases x with
  | memory m => exact damaged.elim
  | tables t =>
    obtain ⟨row, found, shows⟩ := damaged
    obtain ⟨e, ran⟩ := run_group_of_damaged found shows
    exact ⟨e, congrArg (fun ran => (ran.1, tables ran.2)) ran⟩

theorem perform_putGroup (x : Stock) (g : Group) : x.perform (.putGroup g) = (.ok (), x.putGroup g) := by cases x <;> rfl

theorem holds_putGroup (x : Stock) (g : Group) : (x.putGroup g).Holds g.id (some g) := by
  cases x with
  | memory m => exact (Table.get?_put _ _ _ _).trans (if_pos rfl)
  | tables t =>
    show GroupRow.ShownAt g.id ((t.groups.put g.id (.of g)).get? g.id) (some g)
    rw [Table.get?_put, if_pos rfl]
    exact .some ⟨shows_ofGroup g, rfl⟩

@[simp] theorem sparing_putGroup (x : Stock) (g : Group) : (x.putGroup g).sparing g.id = x.sparing g.id := by
  cases x <;> simp only [putGroup, sparing, Table.erase_put]

end Stock

namespace DataStore

variable {s : DataStore} {t u : Thread} {x : Stock}

def Reaches (s : DataStore) (t : Thread) : Prop :=
  match s with
  | memory _ => True
  | database d => d.crowdedOut t = false

theorem perform_group (s : DataStore) (t : Thread) (id : GroupId) :
    s.Reaches t ∧ s.perform t (.group id) = (((s.stock t).perform (.group id)).1, s) ∨
      ¬ s.Reaches t ∧ s.perform t (.group id) = (.error (.ofMedium .sql), s) := by
  cases s with
  | memory m => exact Or.inl ⟨trivial, rfl⟩
  | database d =>
    have read := d.perform_of_silent t (.group id) (Script.calls_group fun _ => rfl)
    have same := congrArg (fun outcome => (outcome.1, database outcome.2)) read
    cases crowded : d.crowdedOut t with
    | false =>
      rw [crowded] at same
      exact Or.inl ⟨crowded, same⟩
    | true =>
      rw [crowded] at same
      exact Or.inr ⟨fun reaches => Bool.noConfusion (crowded.symm.trans reaches), same⟩

theorem perform_putGroup (s : DataStore) (t : Thread) (g : Group) :
    s.Ready t (s.stock t) ∧ s.perform t (.putGroup g) = (.ok (), s.shelve t ((s.stock t).putGroup g)) ∨
      ¬ s.Ready t (s.stock t) ∧ s.perform t (.putGroup g) = (.error (.ofMedium .sql), s) := by
  cases s with
  | memory m => exact Or.inl ⟨trivial, rfl⟩
  | database d =>
    refine (d.perform_of_noted t (.putGroup g) rfl).imp (And.imp_right fun put => ?_)
      (And.imp_right fun failed => ?_)
    · exact congrArg (fun outcome => (outcome.1, database outcome.2)) put
    · exact congrArg (fun outcome => (outcome.1, database outcome.2)) failed

theorem Ready.putGroup (ready : s.Ready t x) (g : Group) : s.Ready t (x.putGroup g) := by
  cases s <;> cases x <;> exact ready

theorem stock_shelve_of_outside (ready : s.Ready t x) (outside : s.inTransaction t = false) (u : Thread) :
    (s.shelve t x).stock u = x := by
  cases s with
  | memory m =>
    cases x with
    | memory m' => rfl
    | tables tables => exact ready.elim
  | database d =>
    cases x with
    | memory m => exact ready.elim
    | tables tables =>
      have free : d.Free t := ready
      have none_ : d.transactions.get? t = none :=
        Option.not_isSome_iff_eq_none.1 (by simpa [inTransaction, Database.inTransaction] using outside)
      show Stock.tables ((d.keep t tables).view u) = _
      unfold Database.keep Database.view
      rw [none_]
      cases open_ : d.transactions.get? u with
      | none => rfl
      | some transaction => simp [Database.unwritten none_ free.unlocked open_]

/-! ## Where groups are found -/

def Keyed (s : DataStore) : Prop :=
  match s with
  | memory m => ∀ id g, m.groups.get? id = some g → g.id = id
  | database _ => True

theorem keyed_of_empty : (memory .empty).Keyed := nofun

theorem Keyed.perform (keyed : s.Keyed) (t : Thread) (op : Operation) : (s.perform t op).2.Keyed := by
  cases s with
  | database d => trivial
  | memory m =>
    intro id g found
    cases puts : op.putsGroup with
    | false => exact keyed id g ((m.perform_spares op).2 puts ▸ found)
    | true =>
      cases op with
      | putGroup put =>
        have found : (m.groups.put put.id put).get? id = some g := found
        rw [Table.get?_put] at found
        split at found
        · rename_i same
          rw [← Option.some.inj found, same]
        · exact keyed id g found
      | _ => cases puts

theorem Keyed.openScope (keyed : s.Keyed) (t : Thread) : (s.openScope t).2.Keyed := by
  cases s <;> exact keyed

theorem Keyed.closeScope (keyed : s.Keyed) (t : Thread) (commit : Bool) : (s.closeScope t commit).2.Keyed := by
  cases s with
  | database d => trivial
  | memory m =>
    have same : (m.closeScope t).groups = m.groups := by
      unfold Memory.closeScope
      split <;> rfl
    exact fun id g found => keyed id g (same ▸ found)

theorem Keyed.of_holds (keyed : s.Keyed) {id : GroupId} {g : Group} (holds : (s.stock t).Holds id (some g)) : g.id = id := by
  cases s with
  | memory m => exact keyed id g holds
  | database d =>
    have shown : GroupRow.ShownAt id ((d.view t).groups.get? id) (some g) := holds
    generalize (d.view t).groups.get? id = row at shown
    cases shown with
    | some shown => exact shown.2

end DataStore
end Enrolment.Store
