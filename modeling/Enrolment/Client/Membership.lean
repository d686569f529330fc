import Enrolment.Client.Effect
/-!
Changes of group membership, made under the group lock. A change that has an effect makes the next
revision of the group; one without leaves the stored group alone. A revision or an attempt that has no next number
stops the call, as sums do in a development build (see `Build`).
-/
namespace Enrolment.Client

open Activity

inductive MembershipChange where
  | add (members : List Aci)
  | remove (members : List Aci)
  deriving DecidableEq, Inhabited

inductive GroupError where
  | busy (e : Lock.BusyError)
  | store (f : Fault)
  | violation (v : Lock.Violation)
  | revisionOverflow
  | attemptOverflow
  deriving DecidableEq, Inhabited

namespace GroupError

/-- Only a lock that is held by others is worth another try. -/
def isRetryable : GroupError → Bool
  | busy _ => true
  | _ => false

def message : GroupError → String
  | busy e => e.message
  | store f => "group store failure: " ++ f.message
  | violation v => v.message Lock.GroupLock.lockName
  | revisionOverflow | attemptOverflow => "attempt to add with overflow"

end GroupError

def MembershipChange.apply (members : Members) : MembershipChange → Members
  | add acis => acis.foldl Members.insert members
  | remove acis => acis.foldl Members.erase members

/-- Makes a change, one account after another, and tells whether any of it made a difference. -/
def MembershipChange.carryOut (members : Members) : MembershipChange → Bool × Members
  | add acis => acis.foldl (fun (changed, members) a => (!members.contains a || changed, members.insert a)) (false, members)
  | remove acis => acis.foldl (fun (changed, members) a => (members.contains a || changed, members.erase a)) (false, members)

def changeGuarded (id : GroupId) (change : MembershipChange) : Activity GroupError Group := do
  let stored ← mapError GroupError.store (store (.group id))
  let before := stored.getD (.new id)
  let (changed, members) := change.carryOut before.members
  if changed then
    if before.revision.toNat + 1 < UInt32.size then
      let after := { before with revision := before.revision + 1, members }
      mapError GroupError.store (store (.putGroup after))
      return after
    else throw .revisionOverflow
  else return before

def changeMembership (id : GroupId) (change : MembershipChange) : Activity GroupError Group :=
  ExceptT.mk do
    match ← Plan.call (I := effects) .enterGroups with
    | .granted =>
      let result ← (changeGuarded id change).run
      Plan.call (I := effects) .leaveGroups
      return result
    | .refused (.busy e) => return .error (.busy e)
    | .refused (.violation v) => return .error (.violation v)
    | .refused (.acquire e) => return .error (.busy (.ofAcquire e 0))

theorem toNat_add_one {n : UInt32} (bounded : n.toNat + 1 < UInt32.size) : (n + 1).toNat = n.toNat + 1 := by
  rw [UInt32.toNat_add]
  exact Nat.mod_eq_of_lt bounded

/-- Attempts are numbered from one. After one that was turned away as busy the next one is made, unless all of them
were. -/
def retryMembership (id : GroupId) (change : MembershipChange) (attempts : UInt32) (backoff : Nat) (attempt : UInt32) :
    Activity GroupError Group :=
  ExceptT.mk do
    match ← (changeMembership id change).run with
    | .error (.busy e) =>
      if attempt < attempts then
        Plan.call (I := effects) (.pause backoff)
        if bounded : attempt.toNat + 1 < UInt32.size then
          (retryMembership id change attempts backoff (attempt + 1)).run
        else return .error .attemptOverflow
      else return .error (.busy e)
    | result => return result
termination_by UInt32.size - attempt.toNat
decreasing_by
  rw [toNat_add_one bounded]
  omega

/-- Makes a change in at most `attempts` attempts, but at least one, with a pause between them. -/
def changeWithRetry (id : GroupId) (change : MembershipChange) (attempts : UInt32) (backoff : Nat) :
    Activity GroupError Group :=
  retryMembership id change attempts backoff 1

end Enrolment.Client
