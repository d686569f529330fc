import Enrolment.Text.Digits
/-!
Locks that a thread may take again while it holds them. A lock counts how often its owner entered,
and is free again once the owner left as often.
-/
namespace Enrolment

structure Thread where
  id : Nat
  name : Option String
  deriving DecidableEq, Inhabited

def Thread.label (t : Thread) : String := t.name.getD ("ThreadId(" ++ Text.decimalText t.id ++ ")")

namespace Lock

structure Reentrant where
  name : String
  owner : Option Thread
  ownerName : Option String
  /-- How often the owner entered; there are never 2^32 holds at once (see `Build`). -/
  holdCount : Nat
  deriving DecidableEq, Inhabited

namespace Reentrant

def free (name : String) : Reentrant := ⟨name, none, none, 0⟩

def heldBy (l : Reentrant) (t : Thread) : Bool := l.owner = some t

def canEnter (l : Reentrant) (t : Thread) : Bool := l.owner.isNone || l.heldBy t

def enter (l : Reentrant) (t : Thread) : Reentrant :=
  match l.owner with
  | none => ⟨l.name, some t, some t.label, l.holdCount + 1⟩
  | some _ => { l with holdCount := l.holdCount + 1 }

def leave (l : Reentrant) : Reentrant :=
  if l.holdCount ≤ 1 then free l.name else { l with holdCount := l.holdCount - 1 }

end Reentrant

/-! ## Waiting -/

/-- The longest wait that can be asked for, in milliseconds; no clock gets to the end of it. -/
def longestWait : Nat := 18446744073709551615999

def clockLimit : Nat := 9223372036854775808 * 1000

/-- A waiting thread that can be interrupted looks at the lock at least this often. -/
def pollInterval : Nat := 20

/-- The end of a wait, if the clock gets there. -/
def deadline? (now wait : Nat) : Option Nat := if now + wait < clockLimit then some (now + wait) else none

inductive Patience where
  | forever
  | until (deadline : Option Nat) (interrupt : Option String)
  deriving DecidableEq, Inhabited

/-- Why a thread gave up, and the label of the owner at that moment. -/
inductive AcquireError where
  | timedOut (owner : Option String)
  | interrupted (owner : Option String)
  deriving DecidableEq, Inhabited

def AcquireError.owner : AcquireError → Option String
  | timedOut owner | interrupted owner => owner

inductive Turn where
  | enter
  | fail (e : AcquireError)
  | sleep (limit : Option Nat)
  deriving DecidableEq, Inhabited

/-- One look at the lock. A lock that can be entered is entered whatever else holds; an interrupt
counts before a deadline. -/
def Reentrant.look (l : Reentrant) (t : Thread) (fired : String → Bool) (now : Nat) : Patience → Turn
  | .forever => if l.canEnter t then .enter else .sleep none
  | .until deadline interrupt =>
    if l.canEnter t then .enter
    else if interrupt.any fired then .fail (.interrupted l.ownerName)
    else
      match deadline with
      | none => .sleep (some pollInterval)
      | some deadline =>
        if deadline ≤ now then .fail (.timedOut l.ownerName)
        else if interrupt.isSome then .sleep (some (min (deadline - now) pollInterval))
        else .sleep (some (deadline - now))

end Lock
end Enrolment
