import Enrolment.Proofs.Store.Sight
import Mathlib.Logic.Function.Basic
/-!
Which groups a data store has, for all threads alike. Whatever else threads do on the store, and
however their transactions end, the groups stay as they are (`DataStore.Lists.perform`,
`DataStore.Lists.closeScope`), until one is put outside of every transaction (`DataStore.Lists.putGroup`).
-/
namespace Enrolment.Store

variable {stored : GroupId → Option Group} {t u : Thread} {op : Operation}

def Tables.Lists (tables : Tables) (stored : GroupId → Option Group) : Prop :=
  ∃ groups, GroupRows tables.groups groups ∧ ∀ id, groups.get? id = stored id

namespace Tables.Lists

variable {tables : Tables}

theorem group (lists : tables.Lists stored) (id : GroupId) : (Script.group id).run tables = (.ok (stored id), tables) := by
  obtain ⟨groups, rows, same⟩ := lists
  rw [run_group rows, same]

theorem run (lists : tables.Lists stored) (other : op.putsGroup = false) :
    ((Script.ofOperation op).run tables).2.Lists stored := by
  unfold Tables.Lists
  rwa [Script.groups_run (Script.truthful_ofOperation op) other]

theorem putGroup (lists : tables.Lists stored) (g : Group) :
    ((Script.ofOperation (.putGroup g)).run tables).2.Lists (Function.update stored g.id (some g)) := by
  obtain ⟨groups, rows, same⟩ := lists
  refine ⟨groups.put g.id g, putGroup_rows rows g, fun id => ?_⟩
  rw [Table.get?_put, Function.update_apply, same]
  simp only [eq_comm]

theorem unique {stored' : GroupId → Option Group} (lists : tables.Lists stored) (again : tables.Lists stored') :
    stored = stored' := by
  funext id
  have same := (lists.group id).symm.trans (again.group id)
  exact Except.ok.inj (congrArg Prod.fst same)

end Tables.Lists

namespace Database

variable {d : Database}

theorem unwritten {transaction : Transaction} (outside : d.transactions.get? t = none)
    (unlocked : d.writeLocked t = false) (open_ : d.transactions.get? u = some transaction) :
    transaction.written = none := by
  have other : t ≠ u := by
    rintro rfl
    cases outside.symm.trans open_
  have there : (u, transaction) ∈ d.others t := by
    refine Table.mem_of_get? ?_
    rwa [Database.others, Table.get?_erase, if_neg other]
  have unwritten := List.any_eq_false.1 unlocked _ there
  simpa using unwritten

/-- What is committed and what open transactions wrote agree on the groups. -/
structure Lists (d : Database) (stored : GroupId → Option Group) : Prop where
  committed : d.committed.Lists stored
  written : ∀ t transaction tables, d.transactions.get? t = some transaction → transaction.written = some tables →
    tables.Lists stored

namespace Lists

theorem view (lists : d.Lists stored) (t : Thread) : (d.view t).Lists stored := by
  unfold Database.view
  cases open_ : d.transactions.get? t with
  | none => exact lists.committed
  | some transaction =>
    cases wrote : transaction.written with
    | none => simpa [wrote] using lists.committed
    | some tables => simpa [wrote] using lists.written t transaction tables open_ wrote

theorem put (lists : d.Lists stored) {transaction : Transaction}
    (wrote : ∀ tables, transaction.written = some tables → tables.Lists stored) :
    Lists { d with transactions := d.transactions.put t transaction } stored := by
  refine ⟨lists.committed, fun u other tables there => ?_⟩
  rw [Table.get?_put] at there
  split at there
  · cases there
    exact wrote tables
  · exact lists.written u other tables there

theorem erase (lists : d.Lists stored) {committed : Tables} (same : committed.Lists stored) :
    Lists { d with committed, transactions := d.transactions.erase t } stored := by
  refine ⟨same, fun u other tables there => ?_⟩
  rw [Table.get?_erase] at there
  split at there
  · cases there
  · exact lists.written u other tables there

theorem keep (lists : d.Lists stored) {tables : Tables} (same : tables.Lists stored) : (d.keep t tables).Lists stored := by
  unfold Database.keep
  split
  · exact lists.put fun _ wrote => Option.some.inj wrote ▸ same
  · exact ⟨same, lists.written⟩

theorem perform (lists : d.Lists stored) (t : Thread) (other : op.putsGroup = false) :
    (d.perform t op).2.Lists stored := by
  obtain failed | ⟨-, ⟨unchanged, -⟩ | ⟨-, kept⟩⟩ := d.perform_cases t op
  · rwa [failed]
  · rwa [unchanged]
  · rw [kept]
    exact lists.keep ((lists.view t).run other)

theorem openScope (lists : d.Lists stored) (t : Thread) : (d.openScope t).2.Lists stored := by
  unfold Database.openScope
  cases open_ : d.transactions.get? t with
  | some transaction => exact lists.put (lists.written t transaction · open_)
  | none =>
    dsimp only
    split
    · exact lists
    · exact lists.put nofun

theorem closeScope (lists : d.Lists stored) (t : Thread) (commit : Bool) : (d.closeScope t commit).2.Lists stored := by
  unfold Database.closeScope
  cases open_ : d.transactions.get? t with
  | none => exact lists
  | some transaction =>
    dsimp only
    split
    · exact lists.put (lists.written t transaction · open_)
    split
    · exact lists.erase lists.committed
    · refine lists.erase ?_
      cases wrote : transaction.written with
      | none => exact lists.committed
      | some tables => exact lists.written t transaction tables open_ wrote

theorem group (lists : d.Lists stored) (t : Thread) (id : GroupId) :
    (d.perform t (.group id)).1 = .ok (stored id) ∨ ∃ e, d.perform t (.group id) = (.error e, d) := by
  obtain failed | ⟨answers, -⟩ := d.perform_cases t (.group id)
  · exact Or.inr ⟨_, failed⟩
  · exact Or.inl (answers.trans (congrArg Prod.fst ((lists.view t).group id)))

theorem putGroup (lists : d.Lists stored) (outside : d.inTransaction t = false) (g : Group) :
    (d.perform t (.putGroup g)).1 = .ok () ∧
        (d.perform t (.putGroup g)).2.Lists (Function.update stored g.id (some g)) ∨
      ∃ e, d.perform t (.putGroup g) = (.error e, d) := by
  have put := (lists.view t).putGroup g
  obtain failed | ⟨answers, ⟨unchanged, same⟩ | ⟨unlocked, kept⟩⟩ := d.perform_cases t (.putGroup g)
  · exact Or.inr ⟨_, failed⟩
  · rw [same] at put
    rw [unchanged, ← (lists.view t).unique put]
    exact Or.inl ⟨answers, lists⟩
  · refine Or.inl ⟨answers, ?_⟩
    have none_ : d.transactions.get? t = none :=
      Option.not_isSome_iff_eq_none.1 (by simpa [inTransaction] using outside)
    rw [kept, Database.keep, none_]
    refine ⟨put, fun u transaction tables open_ wrote => ?_⟩
    cases (unwritten none_ unlocked open_).symm.trans wrote

end Lists
end Database

namespace DataStore

variable {s : DataStore}

/-- Every thread finds these groups, and no transaction brings others to light. -/
def Lists (s : DataStore) (stored : GroupId → Option Group) : Prop :=
  match s with
  | memory m => ∀ id, m.groups.get? id = stored id
  | database d => d.Lists stored

theorem lists_of_fresh : (DataStore.memory .empty).Lists (fun _ => none) ∧
    ∀ shared, (DataStore.database (.new .empty shared)).Lists fun _ => none :=
  ⟨fun _ => rfl, fun _ => ⟨⟨[], .nil, fun _ => rfl⟩, nofun⟩⟩

namespace Lists

theorem perform (lists : s.Lists stored) (t : Thread) (op : Operation) (other : op.putsGroup = false) :
    (s.perform t op).2.Lists stored := by
  cases s with
  | memory m =>
    have same := (m.perform_spares op).2 other
    exact fun id => (congrArg (Table.get? · id) same).trans (lists id)
  | database d => exact Database.Lists.perform lists t other

theorem openScope (lists : s.Lists stored) (t : Thread) : (s.openScope t).2.Lists stored := by
  cases s with
  | memory m => exact lists
  | database d => exact Database.Lists.openScope lists t

theorem closeScope (lists : s.Lists stored) (t : Thread) (commit : Bool) : (s.closeScope t commit).2.Lists stored := by
  cases s with
  | memory m =>
    have same : (m.closeScope t).groups = m.groups := by
      unfold Memory.closeScope
      split <;> rfl
    exact fun id => (congrArg (Table.get? · id) same).trans (lists id)
  | database d => exact Database.Lists.closeScope lists t commit

theorem group (lists : s.Lists stored) (t : Thread) (id : GroupId) :
    (s.perform t (.group id)).1 = .ok (stored id) ∨ ∃ e, (s.perform t (.group id)).1 = .error e := by
  cases s with
  | memory m => exact Or.inl (congrArg Except.ok (lists id))
  | database d => exact (Database.Lists.group lists t id).imp_right (Exists.imp fun _ => congrArg Prod.fst)

theorem group_of_admits (lists : s.Lists stored) (admits : s.Admits t) (id : GroupId) :
    (s.perform t (.group id)).1 = .ok (stored id) := by
  cases s with
  | memory m => exact congrArg Except.ok (lists id)
  | database d =>
    obtain ⟨answers, -⟩ := Database.perform_of_free (free_of_admits admits) (.group id)
    exact answers.trans (congrArg Prod.fst ((Database.Lists.view lists t).group id))

theorem putGroup (lists : s.Lists stored) (outside : s.inTransaction t = false) (g : Group) :
    (s.perform t (.putGroup g)).1 = .ok () ∧ (s.perform t (.putGroup g)).2.Lists (Function.update stored g.id (some g)) ∨
      ∃ e, s.perform t (.putGroup g) = (.error e, s) := by
  cases s with
  | memory m =>
    refine Or.inl ⟨rfl, fun id => ?_⟩
    rw [Function.update_apply, ← lists id]
    simp only [eq_comm (a := id)]
    exact Table.get?_put _ _ _ _
  | database d =>
    refine (Database.Lists.putGroup lists outside g).imp_right (Exists.imp fun e failed => ?_)
    exact congrArg (fun outcome => (outcome.1, database outcome.2)) failed

end Lists
end DataStore
end Enrolment.Store
