import Enrolment.Lock.Reentrant
import Enrolment.Text.Printable
/-!
The order of locks. The group lock comes first: a thread that is inside a transaction of the data
store, or holds the protocol lock, must not ask for it, and neither must a thread that may never
block.
-/
namespace Enrolment.Lock

structure Situation where
  latencyCritical : Bool
  inTransaction : Bool
  holdsProtocolLock : Bool
  deriving DecidableEq, Inhabited

inductive Violation where
  | latencyCritical
  | openTransaction
  | holdsLock (name : String)
  deriving DecidableEq, Inhabited

inductive Checker where
  | strict (protocolLock : String)
  | lenient
  deriving DecidableEq, Inhabited

def Violation.reason : Violation → String
  | latencyCritical => "the calling thread is latency-critical"
  | openTransaction => "a data-store transaction is open on the calling thread"
  | holdsLock name => "the calling thread holds the '" ++ name ++ "' lock"

def Violation.message (requested : String) (v : Violation) : String :=
  "lock ordering violation: '" ++ requested ++ "' requested while " ++ v.reason

namespace Checker

def of (strict : Bool) (protocolLock : String) : Checker :=
  if strict then .strict protocolLock else .lenient

def violation? : Checker → Situation → Option Violation
  | lenient, _ => none
  | strict protocolLock, s =>
    if s.latencyCritical then some .latencyCritical
    else if s.inTransaction then some .openTransaction
    else if s.holdsProtocolLock then some (.holdsLock protocolLock)
    else none

def description : Checker → String
  | strict protocolLock =>
    "StrictNestingChecker \x7b protocol_lock: " ++ Text.quoted protocolLock ++ ", .. \x7d"
  | lenient => "NoopNestingChecker"

end Checker
end Enrolment.Lock
