import Enrolment.Proofs.Store.Depiction
import Enrolment.Proofs.Store.Entries
/-!
What a thread finds in a data store, be it kept in memory or in a database. Whoever can write works on
what it finds as if nobody else were there (`perform_shelve`).
-/
namespace Enrolment

theorem Table.put_put {κ α : Type} [DecidableEq κ] (t : Table κ α) (key : κ) (a b : α) :
    (t.put key a).put key b = t.put key b := by
  induction t with
  | nil => simp [put]
  | cons row rest ih =>
    by_cases same : row.1 = key
    · simp [put, same]
    · rw [put, if_neg same, put, if_neg same, put, if_neg same, ih]

theorem Table.put_of_get? {κ α : Type} [DecidableEq κ] {t : Table κ α} {key : κ} {a : α} (found : t.get? key = some a) :
    t.put key a = t := by
  induction t with
  | nil => simp [get?_nil] at found
  | cons row rest ih =>
    rw [get?_cons] at found
    by_cases same : row.1 = key
    · subst same
      rw [if_pos rfl] at found
      rw [put, if_pos rfl, ← Option.some.inj found]
    · rw [if_neg same] at found
      rw [put, if_neg same, ih found]

namespace Store

theorem Database.keep_keep (d : Database) (t : Thread) (tables tables' : Tables) :
    (d.keep t tables).keep t tables' = d.keep t tables' := by
  cases found : d.transactions.get? t with
  | none => simp [keep, found]
  | some transaction => simp [keep, found, Table.get?_put, Table.put_put]

theorem Database.perform_write_of_free {d : Database} {t : Thread} (free : d.Free t) (key : String) (value : Json) :
    d.perform t (.write key value) =
      (.ok (), d.keep t { d.view t with values := (d.view t).values.put key (.text value.render) }) :=
  match perform_of_noted d t (.write key value) rfl with
  | Or.inl ⟨_, written⟩ => written
  | Or.inr ⟨locked, _⟩ => absurd free locked

/-- The contents of a store in memory, or the tables of a database. -/
inductive Stock
  | memory (m : Memory)
  | tables (t : Tables)

namespace Stock

def perform : Stock → (op : Operation) → Except Fault op.Result × Stock
  | memory m, op => ((m.perform op).1, memory (m.perform op).2)
  | tables t, op => (((Script.ofOperation op).run t).1, tables ((Script.ofOperation op).run t).2)

def get? : Stock → String → Option (Json ⊕ Cell)
  | memory m, key => (m.values.get? key).map .inl
  | tables t, key => (t.values.get? key).map .inr

def form : Stock → Json → Json ⊕ Cell
  | memory _, value => .inl value
  | tables _, value => .inr (.text value.render)

def write : Stock → String → Json → Stock
  | memory m, key, value => memory { m with values := m.values.put key value }
  | tables t, key, value => tables { t with values := t.values.put key (.text value.render) }

def read : Stock → String → Except Fault (Option Json)
  | memory m, key => .ok (m.values.get? key)
  | tables t, key => ((Script.read key).run t).1

def sessions : Stock → Table (Namespace × String) (Option Session)
  | memory m => m.sessions.map fun row => (sessionName row.1, some row.2)
  | tables t => t.sessions.map fun row => (row.1, row.2.session?)

def archived : Stock → Namespace → Stock
  | memory m, space => memory { m with sessions := Memory.archive space m.sessions }
  | tables t, space => tables { t with sessions := archivedRows space t.sessions }

def senderKeyCount : Stock → Nat
  | memory m => m.senderKeys.length
  | tables t => t.senderKeys.length

def withoutSenderKeys : Stock → Stock
  | memory m => memory { m with senderKeys := [] }
  | tables t => tables { t with senderKeys := [] }

/-- All but the values, the sessions and the sender keys. -/
def apart : Stock → Stock
  | memory m => memory { m with values := [], sessions := [], senderKeys := [] }
  | tables t => tables { t with values := [], sessions := [], senderKeys := [] }

variable (x : Stock) (key : String) (value : Json) (space : Namespace)

/-! ## Values -/

theorem perform_write : x.perform (.write key value) = (.ok (), x.write key value) := by cases x <;> rfl

theorem perform_read : x.perform (.read key) = (x.read key, x) := by
  cases x with
  | memory m => rfl
  | tables t =>
    refine Prod.ext rfl (congrArg tables ?_)
    show ((Script.read key).run t).2 = t
    simp only [Script.read, Script.run_bind, Script.run_query]
    cases t.values.get? key with
    | none => rfl
    | some cell =>
      simp only [Script.run_bind, Script.column]
      cases cell.text? with
      | none => rfl
      | some text =>
        simp only [Script.run_orFault_some]
        cases Json.value? text <;> rfl

@[simp] theorem form_write : (x.write key value).form = x.form := by cases x <;> rfl

@[simp] theorem form_archived : (x.archived space).form = x.form := by cases x <;> rfl

@[simp] theorem get?_archived : (x.archived space).get? = x.get? := by cases x <;> rfl

@[simp] theorem get?_withoutSenderKeys : x.withoutSenderKeys.get? = x.get? := by cases x <;> rfl

@[simp] theorem form_withoutSenderKeys : x.withoutSenderKeys.form = x.form := by cases x <;> rfl

theorem get?_write (key' : String) :
    (x.write key value).get? key' = if key = key' then some (x.form value) else x.get? key' := by
  cases x <;> simp only [write, get?, Table.get?_put, form] <;> split <;> rfl

variable {x key value}

theorem write_of_get? (there : x.get? key = some (x.form value)) : x.write key value = x := by
  cases x with
  | memory m =>
    obtain ⟨_, found, same⟩ := Option.map_eq_some_iff.1 there
    obtain rfl : _ = value := Sum.inl.inj same
    rw [write, Table.put_of_get? found]
  | tables t =>
    obtain ⟨_, found, same⟩ := Option.map_eq_some_iff.1 there
    obtain rfl : _ = Cell.text value.render := Sum.inr.inj same
    rw [write, Table.put_of_get? found]

theorem read_of_get? (plain : value.isPlain = true) (there : x.get? key = some (x.form value)) :
    x.read key = .ok (some value) := by
  cases x with
  | memory m =>
    obtain ⟨_, found, same⟩ := Option.map_eq_some_iff.1 there
    rw [read, found, Sum.inl.inj same]
  | tables t =>
    obtain ⟨cell, found, same⟩ := Option.map_eq_some_iff.1 there
    obtain rfl : cell = .text value.render := Sum.inr.inj same
    simp [read, Script.read, found, Script.column, Cell.text?, Json.value?_render plain, Except.map]

theorem read_write {key' : String} (other : key ≠ key') : (x.write key value).read key' = x.read key' := by
  have same {α : Type} (rows : Table String α) (a : α) : (rows.put key a).get? key' = rows.get? key' :=
    (Table.get?_put _ _ _ _).trans (if_neg other)
  cases x with
  | memory m => exact congrArg Except.ok (same _ _)
  | tables t => exact Database.run_read_congr (same _ _)

@[simp] theorem read_archived : (x.archived space).read key = x.read key := by
  cases x with
  | memory m => rfl
  | tables t => exact Database.run_read_congr rfl

/-! ## Sessions -/

variable (x)

@[simp] theorem sessions_write : (x.write key value).sessions = x.sessions := by cases x <;> rfl

@[simp] theorem sessions_withoutSenderKeys : x.withoutSenderKeys.sessions = x.sessions := by cases x <;> rfl

theorem sessions_archived : (x.archived space).sessions =
    x.sessions.map fun row => if row.1.1 = space then (row.1, row.2.map Session.archive) else row := by
  cases x with
  | memory m =>
    simp only [archived, sessions, Memory.archive, List.map_map]
    refine List.map_congr_left fun row _ => ?_
    by_cases here : row.1.1 = space <;> simp [here, sessionName]
  | tables t =>
    simp only [archived, sessions, archivedRows, List.map_map]
    refine List.map_congr_left fun row _ => ?_
    by_cases here : row.1.1 = space <;> simp [here, Cell.session?_archived]

theorem map_fst_sessions_archived : (x.archived space).sessions.map (·.1) = x.sessions.map (·.1) := by
  rw [sessions_archived, List.map_map]
  refine List.map_congr_left fun row _ => ?_
  by_cases here : row.1.1 = space <;> simp [here]

def Legible : Prop := ∀ row ∈ x.sessions, row.1.1 = space → row.2.isSome

variable {x space}

theorem legible_archived {space' : Namespace} : (x.archived space).Legible space' ↔ x.Legible space' := by
  rw [Legible, sessions_archived, List.forall_mem_map]
  refine forall_congr' fun row => forall_congr' fun _ => ?_
  by_cases here : row.1.1 = space <;> simp [here]

theorem perform_archiveSessions (distinct : (x.sessions.map (·.1)).Nodup) (legible : x.Legible space) :
    ∃ count, x.perform (.archiveSessions space) = (.ok count, x.archived space) := by
  cases x with
  | memory m => exact ⟨_, rfl⟩
  | tables t =>
    have keys : (t.sessions.map (·.1)).Nodup := by
      rwa [sessions, List.map_map] at distinct
    have readable : Store.Legible space t.sessions := List.forall_mem_map.1 legible
    refine ⟨currentRows space t.sessions, ?_⟩
    show (((Script.archiveSessions space).run t).1, tables ((Script.archiveSessions space).run t).2) = _
    rw [Script.run_archiveSessions keys readable]
    rfl

theorem perform_archiveSessions_error (damaged : ¬ x.Legible space) :
    ∃ e, (x.perform (.archiveSessions space)).1 = .error e := by
  cases x with
  | memory m => exact absurd (List.forall_mem_map.2 fun _ _ _ => rfl) damaged
  | tables t =>
    have unreadable : ¬ Store.Legible space t.sessions := fun legible => damaged (List.forall_mem_map.2 legible)
    obtain ⟨e, fails⟩ := Script.run_archiveSessions_error unreadable
    exact ⟨e, congrArg Prod.fst fails⟩

theorem archived_of_noCurrent (none : ∀ row ∈ x.sessions, row.1.1 = space → row.2.map Session.archive = row.2) :
    x.archived space = x := by
  cases x with
  | memory m =>
    have same : Memory.archive space m.sessions = m.sessions.map id := by
      refine List.map_congr_left fun row there => ?_
      by_cases here : row.1.1 = space
      · have kept : some row.2.archive = some row.2 := none _ (List.mem_map_of_mem there) here
        rw [if_pos here, Option.some.inj kept, id]
      · rw [if_neg here, id]
    rw [archived, same, List.map_id]
  | tables t =>
    have same : archivedRows space t.sessions = t.sessions.map id := by
      refine List.map_congr_left fun row there => ?_
      by_cases here : row.1.1 = space
      · have kept : row.2.session?.map Session.archive = row.2.session? := none _ (List.mem_map_of_mem there) here
        rw [if_pos here, id, Cell.archived_of_noCurrent kept]
      · rw [if_neg here, id]
    rw [archived, same, List.map_id]

/-! ## Sender keys -/

theorem perform_clearSenderKeys : x.perform .clearSenderKeys = (.ok x.senderKeyCount, x.withoutSenderKeys) := by
  cases x <;> rfl

theorem withoutSenderKeys_of_none (none : x.senderKeyCount = 0) : x.withoutSenderKeys = x := by
  cases x with
  | memory m => rw [withoutSenderKeys, ← List.eq_nil_of_length_eq_zero none]
  | tables t => rw [withoutSenderKeys, ← List.eq_nil_of_length_eq_zero none]

@[simp] theorem senderKeyCount_withoutSenderKeys : x.withoutSenderKeys.senderKeyCount = 0 := by cases x <;> rfl

/-! ## All else -/

@[simp] theorem apart_write : (x.write key value).apart = x.apart := by cases x <;> rfl

@[simp] theorem apart_erase : (x.perform (.erase key)).2.apart = x.apart := by cases x <;> rfl

@[simp] theorem apart_archived : (x.archived space).apart = x.apart := by cases x <;> rfl

@[simp] theorem apart_withoutSenderKeys : x.withoutSenderKeys.apart = x.apart := by cases x <;> rfl

end Stock

namespace DataStore

def stock (s : DataStore) (t : Thread) : Stock :=
  match s with
  | memory m => .memory m
  | database d => .tables (d.view t)

/-- Leaves a store as a thread worked on what it found. -/
def shelve (s : DataStore) (t : Thread) (x : Stock) : DataStore :=
  match s, x with
  | database d, .tables tables => database (d.keep t tables)
  | _, .memory m => memory m
  | memory m, .tables _ => memory m

/-- A thread can write, and works on what is of the store's kind. -/
def Ready (s : DataStore) (t : Thread) (x : Stock) : Prop :=
  match s, x with
  | memory _, .memory _ => True
  | database d, .tables _ => d.Free t
  | _, _ => False

variable {s : DataStore} {t : Thread} {x : Stock}

theorem Ready.write (ready : s.Ready t x) (key : String) (value : Json) : s.Ready t (x.write key value) := by
  cases s <;> cases x <;> exact ready

theorem Ready.archived (ready : s.Ready t x) (space : Namespace) : s.Ready t (x.archived space) := by
  cases s <;> cases x <;> exact ready

theorem Ready.withoutSenderKeys (ready : s.Ready t x) : s.Ready t x.withoutSenderKeys := by
  cases s <;> cases x <;> exact ready

theorem perform_shelve (ready : s.Ready t x) (op : Operation) :
    (s.shelve t x).perform t op = ((x.perform op).1, s.shelve t (x.perform op).2) := by
  cases s with
  | memory m =>
    cases x with
    | memory m' => rfl
    | tables tables => exact ready.elim
  | database d =>
    cases x with
    | memory m => exact ready.elim
    | tables tables =>
      have free : (d.keep t tables).Free t :=
        ⟨(Database.crowdedOut_keep _ _ _).trans ready.connected, (Database.writeLocked_keep _ _ _).trans ready.unlocked⟩
      obtain ⟨answers, seen, changes⟩ := Database.perform_of_free free op
      rw [Database.view_keep] at answers seen changes
      have kept : ((d.keep t tables).perform t op).2 = d.keep t ((Script.ofOperation op).run tables).2 := by
        obtain unchanged | kept := changes
        · rw [unchanged, Database.view_keep] at seen
          rw [unchanged, ← seen]
        · rw [kept, Database.keep_keep]
      exact Prod.ext answers (congrArg database kept)

theorem perform_write_of_ok {key : String} {value : Json} (done : (s.perform t (.write key value)).1 = .ok ()) :
    s.Ready t (s.stock t) ∧ (s.perform t (.write key value)).2 = s.shelve t ((s.stock t).write key value) := by
  cases s with
  | memory m => exact ⟨trivial, rfl⟩
  | database d =>
    have free : d.Free t := Database.free_of_written done
    refine ⟨free, ?_⟩
    show database (d.perform t (.write key value)).2 = _
    rw [Database.perform_write_of_free free]
    rfl

theorem perform_read_stock (ready : s.Ready t (s.stock t)) (key : String) :
    (s.perform t (.read key)).1 = (s.stock t).read key := by
  cases s with
  | memory m => rfl
  | database d => exact (Database.perform_of_free ready (.read key)).1

theorem stock_shelve (ready : s.Ready t x) : (s.shelve t x).stock t = x := by
  cases s with
  | memory m =>
    cases x with
    | memory m' => rfl
    | tables tables => exact ready.elim
  | database d =>
    cases x with
    | memory m => exact ready.elim
    | tables tables => exact congrArg Stock.tables (Database.view_keep _ _ _)

theorem stock_shelve_cases (ready : s.Ready t x) (u : Thread) :
    (s.shelve t x).stock u = s.stock u ∨ (s.shelve t x).stock u = x ∧ s.stock u = s.stock t := by
  cases s with
  | memory m =>
    cases x with
    | memory m' => exact Or.inr ⟨rfl, rfl⟩
    | tables tables => exact ready.elim
  | database d =>
    cases x with
    | memory m => exact ready.elim
    | tables tables =>
      exact (Database.view_keep_cases d t u tables).imp (congrArg Stock.tables)
        (And.imp (congrArg Stock.tables) (congrArg Stock.tables))

theorem untouched_shelve {β : Type} (part : Stock → β) (ready : s.Ready t x) (same : part x = part (s.stock t)) (u : Thread) :
    part ((s.shelve t x).stock u) = part (s.stock u) := by
  obtain unseen | ⟨seen, alike⟩ := stock_shelve_cases ready u
  · rw [unseen]
  · rw [seen, alike, same]

end DataStore
end Store
end Enrolment
