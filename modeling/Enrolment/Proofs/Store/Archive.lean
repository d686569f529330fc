import Enrolment.Proofs.Record.RoundTrip
import Enrolment.Proofs.Store.Rows
import Enrolment.Proofs.Store.Script
/-!
The sessions of a namespace are archived row by row. If all of them can be read, all are archived
(`run_archiveSessions`); a row that cannot be read may come after any number of rows that were written again, and
then nothing of that is left (`run_archiveSessions_error`).
-/
namespace Enrolment.Store

/-! ## Rows -/

def Cell.session? (cell : Cell) : Option Session := cell.text?.bind fun text => (Json.document? text).bind Session.ofJson?

/-- The cell after its session is archived. One without a current state is not written again. -/
def Cell.archived (cell : Cell) : Cell :=
  match cell.session? with
  | some session => if session.hasCurrent then .text (sessionText session.archive) else cell
  | none => cell

theorem Cell.session?_sessionText (s : Session) : (Cell.text (sessionText s)).session? = some s := by
  rw [session?, text?, Option.bind_some, sessionText, Json.document?_render s.isPlain_toJson, Option.bind_some,
    s.ofJson?_toJson]

theorem Session.archive_of_noCurrent {s : Session} (without : s.hasCurrent = false) : s.archive = s := by
  obtain ⟨_ | current, previous⟩ := s
  · rfl
  · cases without

theorem Cell.session?_archived (cell : Cell) : cell.archived.session? = cell.session?.map Session.archive := by
  cases shown : cell.session? with
  | none => simp [archived, shown]
  | some s =>
    simp only [archived, shown, Option.map_some]
    cases current : s.hasCurrent with
    | true => exact session?_sessionText _
    | false => simpa [Session.archive_of_noCurrent current] using shown

theorem Cell.archived_of_noCurrent {cell : Cell} (without : cell.session?.map Session.archive = cell.session?) :
    cell.archived = cell := by
  cases shown : cell.session? with
  | none => simp [archived, shown]
  | some s =>
    rw [shown, Option.map_some, Option.some.injEq] at without
    have none : s.hasCurrent = false := by rw [← without]; rfl
    simp [archived, shown, none]

def rowsOf (space : Namespace) (rows : Table (Namespace × String) Cell) : List (String × Cell) :=
  rows.filterMap fun row => if row.1.1 = space then some (row.1.2, row.2) else none

def archivedRows (space : Namespace) (rows : Table (Namespace × String) Cell) : Table (Namespace × String) Cell :=
  rows.map fun row => if row.1.1 = space then (row.1, row.2.archived) else row

def currentRows (space : Namespace) (rows : Table (Namespace × String) Cell) : Nat :=
  rows.countP fun row => row.1.1 = space && row.2.session?.any (·.hasCurrent)

theorem rowsOf_cons (space : Namespace) (row : (Namespace × String) × Cell) (rows : Table (Namespace × String) Cell) :
    rowsOf space (row :: rows) = if row.1.1 = space then (row.1.2, row.2) :: rowsOf space rows else rowsOf space rows := by
  by_cases here : row.1.1 = space <;> simp [rowsOf, here]

/-- Every session of a namespace can be read. -/
def Legible (space : Namespace) (rows : Table (Namespace × String) Cell) : Prop :=
  ∀ row ∈ rows, row.1.1 = space → row.2.session?.isSome

/-- What archiving makes of a row. -/
structure ArchivedRow (space : Namespace) (row row' : (Namespace × String) × Cell) : Prop where
  key : row'.1 = row.1
  archived : row.1.1 = space → ∃ s, row.2.session? = some s ∧ row'.2.session? = some s.archive
  spared : row.1.1 ≠ space → row'.2 = row.2

theorem forall₂_archivedRows {space : Namespace} {rows : Table (Namespace × String) Cell} (legible : Legible space rows) :
    List.Forall₂ (ArchivedRow space) rows (archivedRows space rows) := by
  rw [archivedRows, List.forall₂_map_right_iff, List.forall₂_same]
  intro row there
  by_cases here : row.1.1 = space
  · rw [if_pos here]
    obtain ⟨s, shown⟩ := Option.isSome_iff_exists.1 (legible row there here)
    exact ⟨rfl, fun _ => ⟨s, shown, by simp [Cell.session?_archived, shown]⟩, fun other => absurd here other⟩
  · rw [if_neg here]
    exact ⟨rfl, fun same => absurd same here, fun _ => rfl⟩

namespace Script

theorem run_sessionOf_ok {cell : Cell} {s : Session} (shown : cell.session? = some s) (t : Tables) :
    (sessionOf cell).run t = (.ok s, t) := by
  obtain ⟨text, isText, read⟩ := Option.bind_eq_some_iff.1 shown
  simp [sessionOf, column, isText, read]

theorem run_sessionOf_error {cell : Cell} (unreadable : cell.session? = none) (t : Tables) :
    ∃ e, (sessionOf cell).run t = (.error e, t) := by
  cases isText : cell.text? with
  | none =>
    refine ⟨.ofMedium .sql, ?_⟩
    simp [sessionOf, column, isText]
  | some text =>
    rw [Cell.session?, isText, Option.bind_some] at unreadable
    refine ⟨.during (.ofMedium .json) .readingSession, ?_⟩
    simp [sessionOf, column, isText, unreadable]

/-- The rows are gone through from first to last; those before are done and those after still to do. -/
theorem run_archiveRows {space : Namespace} {before after : Table (Namespace × String) Cell}
    (distinct : ((before ++ after).map (·.1)).Nodup) (legible : Legible space after) (t : Tables)
    (whole : t.sessions = before ++ after) :
    (archiveRows space (rowsOf space after)).run t =
      (.ok (currentRows space after), { t with sessions := before ++ archivedRows space after }) := by
  induction after generalizing before t with
  | nil => simp [rowsOf, archiveRows, currentRows, archivedRows, ← whole]
  | cons row after ih =>
    obtain ⟨name, cell⟩ := row
    -- Whatever becomes of the first row, the others are archived behind it.
    have go (cell' : Cell) (t' : Tables) (whole' : t'.sessions = before ++ (name, cell') :: after) :
        (archiveRows space (rowsOf space after)).run t' = (.ok (currentRows space after),
          { t' with sessions := before ++ (name, cell') :: archivedRows space after }) := by
      rw [@ih (before ++ [(name, cell')]) (by simpa using distinct)
        (fun row there => legible row (List.mem_cons_of_mem _ there)) t' (by simpa using whole')]
      simp
    rw [rowsOf_cons]
    by_cases here : name.1 = space
    · rw [if_pos here]
      obtain ⟨s, shown⟩ := Option.isSome_iff_exists.1 (legible (name, cell) List.mem_cons_self here)
      have absent : name ∉ before.map (·.1) := by
        rw [List.map_append, List.map_cons] at distinct
        intro member
        exact (List.nodup_append.1 distinct).2.2 name member name List.mem_cons_self rfl
      cases current : s.hasCurrent with
      | true =>
        have put : t.sessions.put (space, name.2) (.text (sessionText s.archive)) =
            before ++ (name, .text (sessionText s.archive)) :: after := by
          rw [whole, ← here]
          exact Table.put_append absent _ _ _
        have later := go _ { t with sessions := before ++ (name, .text (sessionText s.archive)) :: after } rfl
        simp [archiveRows, archivedRows, currentRows, run_sessionOf_ok shown, shown, current, putSession, put, later, here,
          Cell.archived, Except.map]
      | false =>
        have later := go cell t whole
        simp [archiveRows, archivedRows, currentRows, run_sessionOf_ok shown, shown, current, later, here, Cell.archived]
    · rw [if_neg here, go cell t whole]
      simp [archivedRows, currentRows, here]

/-- Wherever a row stands that cannot be read, the rows are gone through no further. -/
theorem archiveRows_error {space : Namespace} {rows : Table (Namespace × String) Cell} (damaged : ¬ Legible space rows)
    (t : Tables) : ∃ e, ((archiveRows space (rowsOf space rows)).run t).1 = .error e := by
  induction rows generalizing t with
  | nil => exact absurd (by simp [Legible]) damaged
  | cons row rows ih =>
    rw [rowsOf_cons]
    by_cases here : row.1.1 = space
    · rw [if_pos here]
      cases shown : row.2.session? with
      | none =>
        obtain ⟨e, fails⟩ := run_sessionOf_error shown t
        exact ⟨e, by rw [archiveRows, run_bind, fails]⟩
      | some s =>
        have others : ¬ Legible space rows := by simpa [Legible, shown] using damaged
        by_cases current : s.hasCurrent = true
        · obtain ⟨e, fails⟩ := ih others
            { t with sessions := t.sessions.put (space, row.1.2) (.text (sessionText s.archive)) }
          refine ⟨e, ?_⟩
          simp [archiveRows, run_sessionOf_ok shown, current, putSession, fails, Except.map]
        · obtain ⟨e, fails⟩ := ih others t
          exact ⟨e, by simpa [archiveRows, run_sessionOf_ok shown, current] using fails⟩
    · rw [if_neg here]
      have others : ¬ Legible space rows := by simpa [Legible, here] using damaged
      exact ih others t

/-! ## The call -/

def archiving (space : Namespace) : Script Nat := do
  let rows ← query fun t => rowsOf space t.sessions
  archiveRows space rows

theorem archiveSessions_eq (space : Namespace) : archiveSessions space = atomically (archiving space) := rfl

variable {space : Namespace} {t : Tables}

theorem run_archiveSessions (distinct : (t.sessions.map (·.1)).Nodup) (legible : Legible space t.sessions) :
    (archiveSessions space).run t =
      (.ok (currentRows space t.sessions), { t with sessions := archivedRows space t.sessions }) := by
  have ran := @run_archiveRows space [] t.sessions distinct legible t rfl
  simp [archiveSessions_eq, archiving, ran, Except.toOption]

theorem run_archiveSessions_error (damaged : ¬ Legible space t.sessions) :
    ∃ e, (archiveSessions space).run t = (.error e, t) := by
  obtain ⟨e, fails⟩ := archiveRows_error damaged t
  refine ⟨e, ?_⟩
  simp [archiveSessions_eq, archiving, fails, Except.toOption]

end Script

end Enrolment.Store
