import Enrolment.Store.Database
/-!
Writing a single column of the account database as it is, past all that the store knows of its form.
Its affinity is kept, and so is the rule that some columns are never empty.
-/
namespace Enrolment.Store

inductive RecipientColumn where
  | aci
  | pni
  | number
  | registered
  | profileKey
  deriving DecidableEq, Inhabited

inductive GroupColumn where
  | revision
  | members
  deriving DecidableEq, Inhabited

inductive Column where
  | value (key : String)
  /-- The record of every session of a namespace. -/
  | sessions (space : Namespace)
  | recipient (id : RecipientId) (name : RecipientColumn)
  | group (id : GroupId) (name : GroupColumn)
  deriving DecidableEq, Inhabited

namespace Column

def affinity : Column → Affinity
  | recipient _ .profileKey => .bytes
  | group _ .revision => .integer
  | _ => .text

def mayBeEmpty : Column → Bool
  | recipient _ .registered => false
  | recipient _ _ => true
  | _ => false

def setRecipient (cell : Cell) (r : RecipientRow) : RecipientColumn → RecipientRow
  | .aci => { r with aci := cell }
  | .pni => { r with pni := cell }
  | .number => { r with number := cell }
  | .registered => { r with registered := cell }
  | .profileKey => { r with profileKey := cell }

def setGroup (cell : Cell) (r : GroupRow) : GroupColumn → GroupRow
  | .revision => { r with revision := cell }
  | .members => { r with members := cell }

/-- How many rows a column is written in. A value gets a row if it has none. -/
def rowCount (t : Tables) : Column → Nat
  | value _ => 1
  | sessions space => (t.sessions.filter (·.1.1 = space)).length
  | recipient id _ => if (t.recipients.get? id).isSome then 1 else 0
  | group id _ => if (t.groups.get? id).isSome then 1 else 0

def put (t : Tables) (cell : Cell) : Column → Tables
  | value key => { t with values := t.values.put key cell }
  | sessions space =>
    { t with sessions := t.sessions.map fun row => if row.1.1 = space then (row.1, cell) else row }
  | recipient id name => { t with recipients := t.recipients.modify id (setRecipient cell · name) }
  | group id name => { t with groups := t.groups.modify id (setGroup cell · name) }

end Column

def Database.overwrite (d : Database) (column : Column) (cell : Cell) : Except Fault Nat × Database :=
  let count := column.rowCount d.committed
  if d.transactions.any (·.2.written.isSome) || (cell = .null && !column.mayBeEmpty && count ≠ 0) then
    (.error (.ofMedium .sql), d)
  else (.ok count, { d with committed := column.put d.committed (column.affinity.store cell) })

end Enrolment.Store
