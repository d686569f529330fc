import Enrolment.Store.Database
import Enrolment.Store.Memory
/-!
A data store is kept in memory or in a database. Both answer the same operations.
-/
namespace Enrolment.Store

inductive DataStore where
  | memory (m : Memory)
  | database (d : Database)
  deriving Inhabited

namespace DataStore

def perform (s : DataStore) (t : Thread) (op : Operation) : Except Fault op.Result × DataStore :=
  match s with
  | memory m =>
    let (result, m) := m.perform op
    (result, memory m)
  | database d =>
    let (result, d) := d.perform t op
    (result, database d)

def inTransaction (s : DataStore) (t : Thread) : Bool :=
  match s with
  | memory m => m.inTransaction t
  | database d => d.inTransaction t

def openScope (s : DataStore) (t : Thread) : Except Fault Unit × DataStore :=
  match s with
  | memory m => (.ok (), memory (m.openScope t))
  | database d =>
    let (result, d) := d.openScope t
    (result, database d)

/-- Ends a scope. In memory there is nothing to undo. -/
def closeScope (s : DataStore) (t : Thread) (commit : Bool) : Except Fault Unit × DataStore :=
  match s with
  | memory m => (.ok (), memory (m.closeScope t))
  | database d =>
    let (result, d) := d.closeScope t commit
    (result, database d)

end DataStore
end Enrolment.Store
