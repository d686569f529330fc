import Enrolment.Client.Account
/-!
The completion gate. It is passed once, by the first evaluation that finds the enrolment complete;
that one records it, makes the number discoverable unless its owner has decided, and queues the
work that follows. Evaluations of one gate take turns.
-/
namespace Enrolment.Client

open Activity Store

/-- The work that follows completion, in this order. -/
def completionJobs : List JobSpec := [Job.refreshAttributes, .storageSync, .directoryRefresh].map Job.spec

/-- One evaluation, while no other one is going on. Tells whether this one passed the gate. -/
def evaluateGuarded : Activity Fault Bool := do
  let inputs ← readCompletionInputs
  if inputs.shouldComplete then
    put Account.complete true
    if (← getOr Account.discoverability .undecided) = .undecided then
      put Account.discoverability .discoverable
    call (.enqueueChain completionJobs)
    return true
  else return false

/-- Evaluates the gate; a failed evaluation leaves it open for others too. -/
def evaluate : Activity Fault Bool :=
  ExceptT.mk do
    Plan.call (I := effects) .enterGate
    let result ← evaluateGuarded.run
    Plan.call (I := effects) .leaveGate
    return result

end Enrolment.Client
