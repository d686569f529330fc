/-!
The values of a TOML document and the two ways in which its tables grow: a value put under a dotted
key, and a table opened by a heading.

Each table remembers how it came about, because that decides who may still add to it.
-/
namespace Enrolment.Toml

inductive Origin where
  /-- Opened by a heading of its own. -/
  | heading
  /-- Passed through by the heading of a table further in. -/
  | implied
  /-- Passed through by a dotted key. -/
  | dotted
  /-- Written in braces; nothing can be added. -/
  | closed
  deriving DecidableEq, Inhabited

/-- A value. Reals and times are kept as they are written. -/
inductive Value where
  | text (s : String)
  | integer (n : Int)
  | real (written : String)
  | boolean (b : Bool)
  | time (written : String)
  | array (items : List Value)
  | table (origin : Origin) (entries : List (String × Value))
  /-- Tables opened by double headings. Only the last one grows. -/
  | tables (earlier : List Value) (last : List (String × Value))
  deriving Inhabited

abbrev Entries := List (String × Value)

namespace Entries

def get? (entries : Entries) (key : String) : Option Value := (entries.find? (·.1 = key)).map (·.2)

def alter (key : String) (change : Option Value → Option Value) : Entries → Option Entries
  | [] => (change none).map fun v => [(key, v)]
  | (k, v) :: rest =>
    if k = key then (change (some v)).map fun v => (k, v) :: rest
    else (alter key change rest).map ((k, v) :: ·)

/-- Puts a value under a key that is still free. The keys before the last lead through tables that
dotted keys made. An implied table and a table of several may be passed, but not added to. -/
def put : List String → Value → Entries → Option Entries
  | [], _, _ => none
  | [key], v, entries => entries.alter key fun
    | none => some v
    | some _ => none
  | key :: next :: rest, v, entries => entries.alter key fun
    | none => (put (next :: rest) v []).map (.table .dotted)
    | some (.table .dotted inner) => (put (next :: rest) v inner).map (.table .dotted)
    | some (.table .implied inner) =>
      if rest.isEmpty then none else (put (next :: rest) v inner).map (.table .implied)
    | some (.tables earlier last) =>
      if rest.isEmpty then none else (put (next :: rest) v last).map (.tables earlier)
    | some _ => none

def within (change : Entries → Option Entries) : List String → Entries → Option Entries
  | [], entries => change entries
  | key :: rest, entries => entries.alter key fun
    | none => (within change rest []).map (.table .implied)
    | some (.table .closed _) => none
    | some (.table origin inner) => (within change rest inner).map (.table origin)
    | some (.tables earlier last) => (within change rest last).map (.tables earlier)
    | some _ => none

/-- Opens a table under a heading. It may have been passed through before, but not opened. -/
def openTable (path : List String) (entries : Entries) : Option Entries :=
  match path.getLast? with
  | none => none
  | some key =>
    entries.within (alter key fun
      | none => some (.table .heading [])
      | some (.table .implied inner) => some (.table .heading inner)
      | some _ => none) path.dropLast

def openElement (path : List String) (entries : Entries) : Option Entries :=
  match path.getLast? with
  | none => none
  | some key =>
    entries.within (alter key fun
      | none => some (.tables [] [])
      | some (.tables earlier last) => some (.tables (earlier ++ [.table .heading last]) [])
      | some _ => none) path.dropLast

theorem get?_nil (key : String) : get? [] key = none := rfl

theorem get?_cons (entry : String × Value) (rest : Entries) (key : String) :
    get? (entry :: rest) key = if entry.1 = key then some entry.2 else get? rest key := by
  by_cases h : entry.1 = key <;> simp [get?, h]

theorem get?_alter {key : String} {change : Option Value → Option Value} {entries grown : Entries}
    (altered : entries.alter key change = some grown) (other : String) :
    grown.get? other = if key = other then change (entries.get? key) else entries.get? other := by
  induction entries generalizing grown with
  | nil =>
    obtain ⟨v, changed, rfl⟩ := Option.map_eq_some_iff.1 altered
    simp [get?_cons, get?_nil, changed]
  | cons entry rest ih =>
    obtain ⟨k, v⟩ := entry
    rw [alter] at altered
    split at altered
    · obtain ⟨v', changed, rfl⟩ := Option.map_eq_some_iff.1 altered
      subst k
      simp only [get?_cons]
      split <;> simp_all
    · obtain ⟨grown', altered', rfl⟩ := Option.map_eq_some_iff.1 altered
      have inner := ih altered'
      simp only [get?_cons, inner]
      split <;> split <;> simp_all

end Entries

end Enrolment.Toml
