import Enrolment.Proofs.Store.Database
/-!
Transactions within transactions. Whatever a thread begins, does and ends in any order, the scopes
open at a time make one transaction, which goes back to where the first of them was opened unless each
was committed. Main result: `scopes_end_together`.

What a thread did is listed with the last move first.
-/
namespace Enrolment.Store

/-- How the guard of a scope is let go; one that goes out of use is abandoned. -/
inductive Ending
  | commit
  | rollBack
  | abandon
  deriving DecidableEq

inductive Move
  | opens (guard : Nat)
  | performs (op : Operation)
  | ends (guard : Nat) (how : Ending)

namespace Move

def openGuards : List Move → List Nat
  | [] => []
  | opens guard :: past => guard :: openGuards past
  | performs _ :: past => openGuards past
  | ends guard _ :: past => (openGuards past).erase guard

/-- Each guard is new when its scope is opened, and is let go only while the scope is open. -/
def Proper : List Move → Prop
  | [] => True
  | opens guard :: past => Proper past ∧ guard ∉ openGuards past
  | performs _ :: past => Proper past
  | ends guard _ :: past => Proper past ∧ guard ∈ openGuards past

/-- The moves since the first scope of those now open was opened. -/
def outermost : List Move → List Move
  | [] => []
  | move :: past => if openGuards (move :: past) = [] then [] else move :: outermost past

def before : List Move → List Move
  | [] => []
  | move :: past => if openGuards (move :: past) = [] then move :: past else before past

theorem of_noneOpen {past : List Move} (noneOpen : openGuards past = []) : before past = past ∧ outermost past = [] := by
  cases past with
  | nil => exact ⟨rfl, rfl⟩
  | cons move past => exact ⟨if_pos noneOpen, if_pos noneOpen⟩

theorem of_someOpen {move : Move} {past : List Move} (someOpen : openGuards (move :: past) ≠ []) :
    before (move :: past) = before past ∧ outermost (move :: past) = move :: outermost past :=
  ⟨if_neg someOpen, if_neg someOpen⟩

def AllCommitted (moves : List Move) : Prop := ∀ guard how, ends guard how ∈ moves → how = .commit

@[simp] theorem allCommitted_nil : AllCommitted [] := by simp [AllCommitted]

@[simp] theorem allCommitted_opens (guard : Nat) (moves : List Move) :
    AllCommitted (opens guard :: moves) ↔ AllCommitted moves := by
  simp [AllCommitted]

@[simp] theorem allCommitted_performs (op : Operation) (moves : List Move) :
    AllCommitted (performs op :: moves) ↔ AllCommitted moves := by
  simp [AllCommitted]

@[simp] theorem allCommitted_ends (guard : Nat) (how : Ending) (moves : List Move) :
    AllCommitted (ends guard how :: moves) ↔ how = .commit ∧ AllCommitted moves := by
  constructor
  · intro all
    exact ⟨all guard how (by simp), fun other how' there => all other how' (by simp [there])⟩
  · rintro ⟨rfl, all⟩ other how' there
    obtain same | there := List.mem_cons.1 there
    · cases same
      rfl
    · exact all other how' there

theorem length_openGuards_ends {past : List Move} {guard : Nat} (isOpen : guard ∈ openGuards past) (how : Ending) :
    (openGuards (ends guard how :: past)).length + 1 = (openGuards past).length := by
  have someOpen : 0 < (openGuards past).length := List.length_pos_of_mem isOpen
  have fewer : (openGuards (ends guard how :: past)).length = _ := List.length_erase_of_mem isOpen
  omega

/-- What the operations among some moves make of the tables. -/
def written (tables : Tables) : List Move → Tables
  | [] => tables
  | performs op :: past => ((Script.ofOperation op).run (written tables past)).2
  | _ :: past => written tables past

end Move

namespace Database

def move (d : Database) (t : Thread) : Move → Database
  | .opens _ => (d.openScope t).2
  | .performs op => (d.perform t op).2
  | .ends _ how => (d.closeScope t (how = .commit)).2

def moved (d : Database) (t : Thread) : List Move → Database
  | [] => d
  | move :: past => (d.moved t past).move t move

structure Idle (d : Database) (t : Thread) : Prop where
  free : d.Free t
  outside : d.transactions.get? t = none

/-- Since `start`, a thread has opened this many more scopes than it ended, and sees these tables. -/
structure Nested (start d : Database) (t : Thread) (depth : Nat) (rollbackOnly : Bool) (tables : Tables) : Prop where
  transaction : ∃ written, d.transactions.get? t = some ⟨depth, rollbackOnly, written⟩
  committed : d.committed = start.committed
  others : d.others t = start.transactions
  shared : d.shared = start.shared
  view : d.view t = tables

variable {start d : Database} {t : Thread} {depth : Nat} {rollbackOnly : Bool} {tables : Tables}

theorem others_of_outside (outside : d.transactions.get? t = none) : d.others t = d.transactions := by
  unfold Table.get? at outside
  rw [Option.map_eq_none_iff, List.find?_eq_none] at outside
  exact List.filter_eq_self.2 fun row there => by simpa using outside row there

theorem Idle.others (idle : d.Idle t) : d.others t = d.transactions := others_of_outside idle.outside

theorem Idle.view (idle : d.Idle t) : d.view t = d.committed := by
  simp [Database.view, idle.outside]

theorem Idle.openScope (idle : d.Idle t) :
    (d.openScope t).1 = .ok () ∧ d.Nested (d.openScope t).2 t 1 false d.committed := by
  have opened : d.openScope t = (.ok (), { d with transactions := d.transactions.put t ⟨1, false, none⟩ }) := by
    simp [Database.openScope, idle.outside, idle.free.connected]
  rw [opened]
  refine ⟨rfl, ⟨none, by simp [Table.get?_put]⟩, rfl, ?_, rfl, ?_⟩
  · exact (Table.erase_put _ _ _).trans idle.others
  · simp [Database.view, Table.get?_put]

theorem Idle.perform (idle : d.Idle t) (op : Operation) : (d.perform t op).2.Idle t := by
  refine ⟨idle.free.perform op, ?_⟩
  obtain ⟨-, -, unchanged | kept⟩ := perform_of_free idle.free op
  · rw [unchanged, idle.outside]
  · rw [kept]
    simp [keep, idle.outside]

namespace Nested

variable (nested : start.Nested d t depth rollbackOnly tables)

include nested

theorem free (idle : start.Idle t) : d.Free t := by
  obtain ⟨written, there⟩ := nested.transaction
  refine ⟨by simp [crowdedOut, inTransaction, there], ?_⟩
  have unlocked := idle.free.unlocked
  rwa [writeLocked, idle.others, ← nested.others] at unlocked

theorem sees {written : Option Tables} (there : d.transactions.get? t = some ⟨depth, rollbackOnly, written⟩) :
    written.getD d.committed = tables := by
  have seen := nested.view
  simpa [Database.view, there] using seen

theorem put {written : Option Tables} (there : d.transactions.get? t = some ⟨depth, rollbackOnly, written⟩)
    (depth' : Nat) (rollbackOnly' : Bool) :
    start.Nested { d with transactions := d.transactions.put t ⟨depth', rollbackOnly', written⟩ } t depth' rollbackOnly'
      tables := by
  refine ⟨⟨written, by simp [Table.get?_put]⟩, nested.committed, ?_, nested.shared, ?_⟩
  · exact (Table.erase_put _ _ _).trans nested.others
  · simpa [Database.view, Table.get?_put] using nested.sees there

theorem openScope :
    (d.openScope t).1 = .ok () ∧ start.Nested (d.openScope t).2 t (depth + 1) rollbackOnly tables := by
  obtain ⟨written, there⟩ := nested.transaction
  have opened : d.openScope t =
      (.ok (), { d with transactions := d.transactions.put t ⟨depth + 1, rollbackOnly, written⟩ }) := by
    simp [Database.openScope, there]
  rw [opened]
  exact ⟨rfl, nested.put there _ _⟩

theorem perform (idle : start.Idle t) (op : Operation) :
    (d.perform t op).1 = ((Script.ofOperation op).run tables).1 ∧
      start.Nested (d.perform t op).2 t depth rollbackOnly ((Script.ofOperation op).run tables).2 := by
  obtain ⟨written, there⟩ := nested.transaction
  obtain ⟨answers, seen, outcome⟩ := perform_of_free (nested.free idle) op
  rw [nested.view] at answers seen outcome
  refine ⟨answers, ?_⟩
  obtain unchanged | kept := outcome
  · rw [unchanged] at seen ⊢
    exact ⟨nested.transaction, nested.committed, nested.others, nested.shared, seen⟩
  · refine ⟨⟨some ((Script.ofOperation op).run tables).2, ?_⟩, ?_, ?_, ?_, seen⟩
    · simp [kept, keep, there, Table.get?_put]
    · simpa [kept, keep, there] using nested.committed
    · rw [kept, others_keep, nested.others]
    · simpa [kept, keep, there] using nested.shared

theorem closeScope_inner (inner : 1 < depth) (commit : Bool) :
    (d.closeScope t commit).1 = .ok () ∧
      start.Nested (d.closeScope t commit).2 t (depth - 1) (rollbackOnly || !commit) tables := by
  obtain ⟨written, there⟩ := nested.transaction
  have closed : d.closeScope t commit =
      (.ok (), { d with transactions := d.transactions.put t ⟨depth - 1, rollbackOnly || !commit, written⟩ }) := by
    simp [Database.closeScope, there, inner]
  rw [closed]
  exact ⟨rfl, nested.put there _ _⟩

theorem closeScope_last (last : depth = 1) (commit : Bool) :
    d.closeScope t commit =
      if rollbackOnly || !commit then (if commit then .error (.of .rolledBack) else .ok (), start)
      else (.ok (), { start with committed := tables }) := by
  obtain ⟨written, there⟩ := nested.transaction
  have closed (kept : Tables) : Database.mk kept (d.transactions.erase t) d.shared = { start with committed := kept } := by
    have gone : d.transactions.erase t = start.transactions := nested.others
    rw [gone, nested.shared]
  have back : Database.mk d.committed (d.transactions.erase t) d.shared = start := by rw [closed, nested.committed]
  simp only [Database.closeScope, there, last, Nat.lt_irrefl, if_false, nested.sees there, back, closed tables]

end Nested

/-! ## Runs -/

open Move

/-- How a database stands after a thread's moves: nothing is open, or what is open is one transaction. -/
structure Stands (d : Database) (t : Thread) (past : List Move) : Prop where
  idle : (d.moved t (before past)).Idle t
  nested : openGuards past ≠ [] → ∃ rollbackOnly, (rollbackOnly = false ↔ AllCommitted (outermost past)) ∧
    (d.moved t (before past)).Nested (d.moved t past) t (openGuards past).length rollbackOnly
      (written (d.moved t (before past)).committed (outermost past))

namespace Stands

variable {past : List Move}

theorem of_idle (noneOpen : openGuards past = []) (idle : (d.moved t past).Idle t) : d.Stands t past :=
  ⟨by rwa [(of_noneOpen noneOpen).1], fun someOpen => absurd noneOpen someOpen⟩

theorem of_nested {move : Move} (someOpen : openGuards (move :: past) ≠ []) (idle : (d.moved t (before past)).Idle t)
    {rollbackOnly : Bool} (marked : rollbackOnly = false ↔ AllCommitted (move :: outermost past))
    (nested : (d.moved t (before past)).Nested (d.moved t (move :: past)) t (openGuards (move :: past)).length rollbackOnly
      (written (d.moved t (before past)).committed (move :: outermost past))) :
    d.Stands t (move :: past) := by
  obtain ⟨start, since⟩ := of_someOpen someOpen
  refine ⟨by rwa [start], fun _ => ⟨rollbackOnly, ?_, ?_⟩⟩
  · rwa [since]
  · rwa [start, since]

variable (stands : d.Stands t past)

include stands

theorem idle_now (noneOpen : openGuards past = []) : (d.moved t past).Idle t := by
  have idle := stands.idle
  rwa [(of_noneOpen noneOpen).1] at idle

theorem opens (guard : Nat) : d.Stands t (.opens guard :: past) := by
  have someOpen : openGuards (.opens guard :: past) ≠ [] := List.cons_ne_nil _ _
  by_cases noneOpen : openGuards past = []
  · have begun := (stands.idle_now noneOpen).openScope.2
    obtain ⟨all, nothing⟩ := of_noneOpen noneOpen
    refine of_nested someOpen stands.idle (show false = false ↔ _ by simp [nothing]) ?_
    rw [all, nothing, openGuards, noneOpen]
    exact begun
  · obtain ⟨rollbackOnly, marked, nested⟩ := stands.nested noneOpen
    exact of_nested someOpen stands.idle (by simpa using marked) nested.openScope.2

theorem performs (op : Operation) : d.Stands t (.performs op :: past) := by
  by_cases noneOpen : openGuards past = []
  · exact of_idle noneOpen ((stands.idle_now noneOpen).perform op)
  · obtain ⟨rollbackOnly, marked, nested⟩ := stands.nested noneOpen
    exact of_nested noneOpen stands.idle (by simpa using marked) (nested.perform stands.idle op).2

theorem ends {guard : Nat} (isOpen : guard ∈ openGuards past) (how : Ending) : d.Stands t (.ends guard how :: past) := by
  have length := length_openGuards_ends isOpen how
  obtain ⟨rollbackOnly, marked, nested⟩ := stands.nested (List.ne_nil_of_mem isOpen)
  by_cases last : openGuards (.ends guard how :: past) = []
  · refine of_idle last ?_
    have ended := nested.closeScope_last (by simpa [last] using length.symm) (how = .commit)
    show ((d.moved t past).closeScope t (how = .commit)).2.Idle t
    rw [ended]
    obtain ⟨free, outside⟩ := stands.idle
    split
    · exact ⟨free, outside⟩
    · exact ⟨⟨free.connected, free.unlocked⟩, outside⟩
  · have others := List.length_pos_iff.2 last
    have closed := (nested.closeScope_inner (by omega) (how = .commit)).2
    have sound : (rollbackOnly || !decide (how = .commit)) = false ↔ AllCommitted (.ends guard how :: outermost past) := by
      simp [marked, and_comm]
    refine of_nested last stands.idle sound ?_
    rwa [show (openGuards (.ends guard how :: past)).length = (openGuards past).length - 1 by omega]

theorem inTransaction_iff : (d.moved t past).inTransaction t = true ↔ openGuards past ≠ [] := by
  by_cases noneOpen : openGuards past = []
  · simp [inTransaction, (stands.idle_now noneOpen).outside, noneOpen]
  · obtain ⟨_, -, nested⟩ := stands.nested noneOpen
    obtain ⟨_, there⟩ := nested.transaction
    simp [inTransaction, there, noneOpen]

theorem answers (op : Operation) : ((d.moved t past).perform t op).1 =
    ((Script.ofOperation op).run (written (d.moved t (before past)).committed (outermost past))).1 := by
  by_cases noneOpen : openGuards past = []
  · have idle := stands.idle_now noneOpen
    obtain ⟨all, nothing⟩ := of_noneOpen noneOpen
    rw [all, nothing, (perform_of_free idle.free op).1, idle.view]
    rfl
  · obtain ⟨_, -, nested⟩ := stands.nested noneOpen
    exact (nested.perform stands.idle op).1

theorem openScope_ok : ((d.moved t past).openScope t).1 = .ok () := by
  by_cases noneOpen : openGuards past = []
  · exact (stands.idle_now noneOpen).openScope.1
  · obtain ⟨_, -, nested⟩ := stands.nested noneOpen
    exact nested.openScope.1

variable {guard : Nat} (isOpen : guard ∈ openGuards past) (how : Ending)

include isOpen

theorem closeScope_inner (others : (openGuards past).erase guard ≠ []) :
    ((d.moved t past).closeScope t (how = .commit)).1 = .ok () := by
  have length := length_openGuards_ends isOpen how
  have someOpen : 0 < (openGuards (.ends guard how :: past)).length := List.length_pos_iff.2 others
  obtain ⟨_, -, nested⟩ := stands.nested (List.ne_nil_of_mem isOpen)
  exact (nested.closeScope_inner (by omega) _).1

theorem closeScope_last (last : (openGuards past).erase guard = []) :
    let start := d.moved t (before past)
    let kept := how = .commit ∧ AllCommitted (outermost past)
    (kept → (d.moved t past).closeScope t (how = .commit) =
        (.ok (), { start with committed := written start.committed (outermost past) })) ∧
      (¬ kept → (d.moved t past).closeScope t (how = .commit) =
        (if how = .commit then .error (.of .rolledBack) else .ok (), start)) := by
  have length := length_openGuards_ends isOpen how
  have gone : (openGuards (.ends guard how :: past)).length = 0 := List.length_eq_zero_iff.2 last
  obtain ⟨rollbackOnly, marked, nested⟩ := stands.nested (List.ne_nil_of_mem isOpen)
  have closed := nested.closeScope_last (by omega) (how = .commit)
  have sound : (rollbackOnly || !decide (how = .commit)) = false ↔ how = .commit ∧ AllCommitted (outermost past) := by
    simp [marked, and_comm]
  intro start kept
  constructor
  · intro good
    rw [closed, sound.2 good]
    rfl
  · intro bad
    rw [closed, if_pos (Bool.of_not_eq_false fun clean => bad (sound.1 clean))]
    simp [start]

end Stands

theorem stands_moved (free : d.Free t) (outside : d.transactions.get? t = none) {past : List Move} (proper : Proper past) :
    d.Stands t past := by
  induction past with
  | nil => exact .of_idle rfl ⟨free, outside⟩
  | cons move past ih =>
    cases move with
    | opens guard => exact (ih proper.1).opens guard
    | performs op => exact (ih proper).performs op
    | ends guard how => exact (ih proper.1).ends proper.2 how

/-- The scopes that a thread has open at a time end together. Inside them it sees what it wrote, and to
end one that is not the last always succeeds. The last one, if it and all that were open with it are
committed, keeps all that was written since the first was opened; else the database is again as it was
before that, and only a commit says so. -/
theorem scopes_end_together (free : d.Free t) (outside : d.inTransaction t = false) {past : List Move}
    (proper : Proper past) :
    let start := d.moved t (before past)
    let now := d.moved t past
    let tables := written start.committed (outermost past)
    (now.inTransaction t = true ↔ openGuards past ≠ []) ∧
      (∀ op, (now.perform t op).1 = ((Script.ofOperation op).run tables).1) ∧
      (now.openScope t).1 = .ok () ∧
      ∀ guard ∈ openGuards past, ∀ how : Ending,
        let ended := now.closeScope t (how = .commit)
        let kept := how = .commit ∧ AllCommitted (outermost past)
        ((openGuards past).erase guard ≠ [] → ended.1 = .ok ()) ∧
          ((openGuards past).erase guard = [] →
            (kept → ended = (.ok (), { start with committed := tables })) ∧
              (¬ kept → ended = (if how = .commit then .error (.of .rolledBack) else .ok (), start))) := by
  have absent : d.transactions.get? t = none := by simpa [inTransaction] using outside
  have stands := stands_moved free absent proper
  refine ⟨stands.inTransaction_iff, stands.answers, stands.openScope_ok, fun guard isOpen how => ⟨?_, ?_⟩⟩
  · exact stands.closeScope_inner isOpen how
  · exact stands.closeScope_last isOpen how

/-- The outer guard goes out of use first; the commit of the inner one then fails. -/
theorem scopes_end_together_out_of_order :
    let past : List Move := [.ends 0 .abandon, .performs (.write "name" .null), .opens 1, .opens 0]
    ((new .empty false).moved default past).closeScope default true = (.error (.of .rolledBack), new .empty false) := by
  have proper : Proper [.ends 0 .abandon, .performs (.write "name" .null), .opens 1, .opens 0] :=
    ⟨⟨⟨trivial, by decide⟩, by decide⟩, by decide⟩
  have free : (new .empty false).Free default := ⟨rfl, rfl⟩
  obtain ⟨-, -, -, ends⟩ := scopes_end_together free rfl proper
  obtain ⟨-, last⟩ := ends 1 (by decide) .commit
  have givenUp : ¬ AllCommitted [.ends 0 .abandon, .performs (.write "name" .null), .opens 1, .opens 0] := by simp
  exact (last (by decide)).2 fun kept => givenUp kept.2

end Database
end Enrolment.Store
