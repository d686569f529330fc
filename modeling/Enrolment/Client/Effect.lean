import Enrolment.Job
import Enrolment.KeyFactory
import Enrolment.Lock.Yard
import Enrolment.Plan
import Enrolment.Service.Request
import Enrolment.Store.Slot
import Enrolment.Store.Operation
/-!
The calls that the activities of a client are made of: one step each on the data store, the key
source, the account service, the job queue and the locks. Between two calls of one activity others
may make theirs.
-/
namespace Enrolment

inductive Effect where
  | store (op : Store.Operation)
  | keys (request : KeyRequest)
  | service (request : Service.Request)
  | enqueue (job : JobSpec)
  | enqueueChain (jobs : List JobSpec)
  | clearBackoff
  /-- Waits until no other evaluation of the completion gate is going on. -/
  | enterGate
  | leaveGate
  | enterGroups
  | leaveGroups
  | pause (span : Nat)
  deriving Inhabited

@[reducible] def Effect.Answer : Effect → Type
  | store op => Except Fault op.Result
  | keys request => Except Fault request.Result
  | service request => Except Service.NetworkError request.Result
  | enterGroups => Lock.Outcome
  | enqueue _ | enqueueChain _ | clearBackoff | enterGate | leaveGate | leaveGroups | pause _ => Unit

@[reducible] def effects : Interface.{0} := ⟨Effect, Effect.Answer⟩

/-- An activity that can fail. -/
abbrev Activity (ε : Type) := ExceptT ε (Plan effects)

namespace Activity

variable {ε ε' α : Type}

def call (e : Effect) : Activity ε e.Answer := ExceptT.lift (Plan.call (I := effects) e)

def store (op : Store.Operation) : Activity Fault op.Result := ExceptT.mk (Plan.call (I := effects) (.store op))

def keys (request : KeyRequest) : Activity Fault request.Result :=
  ExceptT.mk (Plan.call (I := effects) (.keys request))

def service (request : Service.Request) : Activity Service.NetworkError request.Result :=
  ExceptT.mk (Plan.call (I := effects) (.service request))

def mapError (f : ε → ε') (a : Activity ε α) : Activity ε' α := ExceptT.mk (Except.mapError f <$> a.run)

def during (doing : Doing) (a : Activity Fault α) : Activity Fault α := a.mapError (·.during doing)

/-! ## Values of the account -/

open Store

def get? (slot : Slot α) : Activity Fault (Option α) := do
  let stored ← store (.read slot.key)
  ExceptT.mk (pure (slot.interpret stored))

def getOr (slot : Slot α) (default : α) : Activity Fault α := do return (← get? slot).getD default

def put (slot : Slot α) (a : α) : Activity Fault Unit := store (.write slot.key (slot.encode a))

def remove (slot : Slot α) : Activity Fault Unit := store (.erase slot.key)

end Activity
end Enrolment
