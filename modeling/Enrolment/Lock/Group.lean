import Enrolment.Lock.Nesting
/-!
The lock that changes of group membership are made under. There is one for all groups; who waits
longer than its timeout for it is told who held it, and may try again.
-/
namespace Enrolment.Lock

structure GroupLock where
  lock : Reentrant
  /-- In milliseconds. -/
  timeout : Nat
  checker : Checker
  deriving DecidableEq, Inhabited

inductive BusyError where
  | timeout (owner : String) (waited : Nat)
  | interrupted (owner : String)
  deriving DecidableEq, Inhabited

def GroupLock.lockName : String := "group-processing"

def noOwner : String := "none"

namespace BusyError

def owner : BusyError → String
  | timeout owner _ | interrupted owner => owner

def message : BusyError → String
  | timeout owner waited =>
    "group processing lock busy: held by '" ++ owner ++ "' after waiting " ++ Text.decimalText waited ++ " ms"
  | interrupted owner => "interrupted while waiting for group processing lock held by '" ++ owner ++ "'"

/-- What waiting for `wait` milliseconds in vain is reported as; more than 64 bits are not told. -/
def ofAcquire (e : AcquireError) (wait : Nat) : BusyError :=
  let owner := e.owner.getD noOwner
  match e with
  | .timedOut _ => timeout owner (min wait (UInt64.size - 1))
  | .interrupted _ => interrupted owner

end BusyError

namespace GroupLock

def new (timeout : Nat) (checker : Checker) : GroupLock := ⟨.free lockName, timeout, checker⟩

def ownerName (g : GroupLock) : String := g.lock.ownerName.getD noOwner

/-- Which rule a thread breaks by asking for the lock; the owner may always ask again. -/
def violation? (g : GroupLock) (t : Thread) (s : Situation) : Option Violation :=
  if g.lock.heldBy t then none else g.checker.violation? s

end GroupLock
end Enrolment.Lock
