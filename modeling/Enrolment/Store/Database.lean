import Enrolment.Lock.Reentrant
import Enrolment.Store.Script
/-!
The account database and the transactions that threads have open on it.

The scopes that a thread opens inside each other make one transaction. It is kept only if every one
of them was committed, and then as a whole when the last one ends. A thread sees what its own
transaction wrote and otherwise what is committed; while a transaction has written something, no
other thread can write.
-/
namespace Enrolment.Store

structure Transaction where
  /-- How many scopes are open; there are never 2^32 of them at once (see `Build`). -/
  depth : Nat
  /-- One of the scopes was given up. -/
  rollbackOnly : Bool
  /-- The tables with all that was written, once something was. -/
  written : Option Tables
  deriving DecidableEq, Inhabited

structure Database where
  committed : Tables
  transactions : Table Thread Transaction
  /-- All threads share one connection, which an open transaction keeps to itself. -/
  shared : Bool
  deriving DecidableEq, Inhabited

namespace Database

def new (tables : Tables) (shared : Bool) : Database := ⟨tables, [], shared⟩

def inTransaction (d : Database) (t : Thread) : Bool := (d.transactions.get? t).isSome

def view (d : Database) (t : Thread) : Tables :=
  ((d.transactions.get? t).bind (·.written)).getD d.committed

def others (d : Database) (t : Thread) : Table Thread Transaction := d.transactions.erase t

def writeLocked (d : Database) (t : Thread) : Bool := (d.others t).any (·.2.written.isSome)

/-- Whether a thread has no connection to work on. -/
def crowdedOut (d : Database) (t : Thread) : Bool :=
  d.shared && !d.inTransaction t && !(d.others t).isEmpty

/-- Puts the outcome of a thread's work where it belongs. -/
def keep (d : Database) (t : Thread) (tables : Tables) : Database :=
  match d.transactions.get? t with
  | some transaction =>
    { d with transactions := d.transactions.put t { transaction with written := some tables } }
  | none => { d with committed := tables }

def runScript {α : Type} (d : Database) (t : Thread) (script : Script α) : Except Fault α × Database :=
  if d.crowdedOut t then (.error (.ofMedium .sql), d)
  else
    match script.runNoting (d.view t) with
    | (result, _, false) => (result, d)
    | (result, tables, true) =>
      if d.writeLocked t then (.error (.ofMedium .sql), d) else (result, d.keep t tables)

def perform (d : Database) (t : Thread) (op : Operation) : Except Fault op.Result × Database :=
  d.runScript t (.ofOperation op)

/-! ## Transactions -/

/-- Opens a scope, which joins the transaction that the thread has open. -/
def openScope (d : Database) (t : Thread) : Except Fault Unit × Database :=
  match d.transactions.get? t with
  | some transaction =>
    (.ok (), { d with transactions := d.transactions.put t { transaction with depth := transaction.depth + 1 } })
  | none =>
    if d.crowdedOut t then (.error (.during (.ofMedium .sql) .openingTransaction), d)
    else (.ok (), { d with transactions := d.transactions.put t ⟨1, false, none⟩ })

def closeScope (d : Database) (t : Thread) (commit : Bool) : Except Fault Unit × Database :=
  match d.transactions.get? t with
  | none => (.ok (), d)
  | some transaction =>
    let rollbackOnly := transaction.rollbackOnly || !commit
    if 1 < transaction.depth then
      (.ok (), { d with transactions :=
        d.transactions.put t { transaction with depth := transaction.depth - 1, rollbackOnly } })
    else
      let closed := { d with transactions := d.transactions.erase t }
      if rollbackOnly then (if commit then .error (.of .rolledBack) else .ok (), closed)
      else (.ok (), { closed with committed := transaction.written.getD d.committed })

def reopened (d : Database) : Database := new d.committed d.shared

end Database
end Enrolment.Store
