import Enrolment.Client.Effect
import Enrolment.Store.DataStore
/-!
A client: a data store, a job queue and the locks, with a source of keys and an account service that
have states of their own. Main definition: how it answers the calls of an activity.
-/
namespace Enrolment.Client

open Store Lock

def protocolLockName : String := "protocol-store"

structure Installation (κ σ : Type) where
  store : DataStore
  queue : JobQueue
  yard : Yard
  keyFactory : KeyFactory κ
  keys : κ
  accountService : Service.AccountService σ
  service : σ

namespace Installation

variable {κ σ ε α : Type}

def new (store : DataStore) (strict : Bool) (groupTimeout : Nat) (keyFactory : KeyFactory κ) (keys : κ)
    (accountService : Service.AccountService σ) (service : σ) : Installation κ σ :=
  ⟨store, [], .new protocolLockName strict groupTimeout, keyFactory, keys, accountService, service⟩

/-- Waits for the group lock. A wait without end is given up like any other. -/
def awaitGroups (y : Yard) (t : Thread) : Outcome × Yard :=
  (y.await t).getD (.refused (.busy (.timeout y.groupLock.ownerName y.groupLock.timeout)), y)

def handle (t : Thread) : (e : Effect) → Installation κ σ → e.Answer × Installation κ σ
  | .store op, c =>
    let (result, store) := c.store.perform t op
    (result, { c with store })
  | .keys request, c =>
    let (result, keys) := c.keyFactory request c.keys
    (result, { c with keys })
  | .service request, c =>
    let (result, service) := c.accountService request c.service
    (result, { c with service })
  | .enqueue job, c => ((), { c with queue := JobQueue.enqueue c.queue job })
  | .enqueueChain jobs, c => ((), { c with queue := JobQueue.enqueueChain c.queue jobs })
  | .clearBackoff, c =>
    ((), { c with queue := JobQueue.update c.queue fun spec => { spec with retryInterval := 0 } })
  | .enterGate, c => ((), c)
  | .leaveGate, c => ((), c)
  | .enterGroups, c =>
    let (outcome, yard) :=
      awaitGroups (c.yard.askGroup t (c.store.inTransaction t) c.yard.groupLock.timeout none) t
    (outcome, { c with yard })
  | .leaveGroups, c => ((), { c with yard := (c.yard.leave t .group).getD c.yard })
  | .pause span, c => ((), { c with yard := c.yard.pass span })

/-- Runs an activity on a thread, while the other threads rest. -/
def run (c : Installation κ σ) (t : Thread) (a : Activity ε α) : Except ε α × Installation κ σ := Plan.run (handle t) a.run c

end Installation
end Enrolment.Client
