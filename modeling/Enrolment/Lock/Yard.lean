import Enrolment.Lock.Group
/-!
Threads that share a protocol lock and the group lock, and the clock they wait by.

A thread asks for a lock and either has its answer at once or waits. A lock that becomes free wakes
everyone who waits for it, in the order they came; apart from that a wait ends when its deadline or,
after an interrupt, the next look at the lock comes. Time passes only while someone is awaited.
-/
namespace Enrolment.Lock

inductive Which where
  | protocol
  | group
  deriving DecidableEq, Inhabited

inductive Refusal where
  | acquire (e : AcquireError)
  | busy (e : BusyError)
  | violation (v : Violation)
  deriving DecidableEq, Inhabited

inductive Outcome where
  | granted
  | refused (r : Refusal)
  deriving DecidableEq, Inhabited

structure Wish where
  thread : Thread
  which : Which
  wait : Nat
  patience : Patience
  deriving DecidableEq, Inhabited

structure Alarm where
  time : Nat
  thread : Thread
  deriving DecidableEq, Inhabited

structure Yard where
  now : Nat
  protocolLock : Reentrant
  groupLock : GroupLock
  /-- Threads that may never block. -/
  critical : List Thread
  interrupted : List String
  waiting : List Wish
  /-- Answers that were not asked for yet. -/
  answered : List (Thread × Outcome)
  alarms : List Alarm
  deriving DecidableEq, Inhabited

namespace Yard

def new (protocolLock : String) (strict : Bool) (groupTimeout : Nat) : Yard :=
  { now := 0, protocolLock := .free protocolLock, groupLock := .new groupTimeout (.of strict protocolLock),
    critical := [], interrupted := [], waiting := [], answered := [], alarms := [] }

def lock (y : Yard) : Which → Reentrant
  | .protocol => y.protocolLock
  | .group => y.groupLock.lock

def setLock (y : Yard) (l : Reentrant) : Which → Yard
  | .protocol => { y with protocolLock := l }
  | .group => { y with groupLock := { y.groupLock with lock := l } }

def hasFired (y : Yard) (interrupt : String) : Bool := y.interrupted.contains interrupt

def situation (y : Yard) (t : Thread) (inTransaction : Bool) : Situation :=
  ⟨y.critical.contains t, inTransaction, y.protocolLock.heldBy t⟩

def Wish.refusal (w : Wish) (e : AcquireError) : Refusal :=
  match w.which with
  | .protocol => .acquire e
  | .group => .busy (.ofAcquire e w.wait)

def look (y : Yard) (w : Wish) : Option Outcome × Yard :=
  match (y.lock w.which).look w.thread y.hasFired y.now w.patience with
  | .enter => (some .granted, y.setLock ((y.lock w.which).enter w.thread) w.which)
  | .fail e => (some (.refused (Wish.refusal w e)), y)
  | .sleep _ => (none, y)

def lookAll (y : Yard) : List Wish → Yard
  | [] => y
  | w :: rest =>
    match y.look w with
    | (some answer, y) => lookAll { y with answered := y.answered ++ [(w.thread, answer)] } rest
    | (none, y) => lookAll { y with waiting := y.waiting ++ [w] } rest

def wake (y : Yard) (which : Which) : Yard :=
  lookAll { y with waiting := y.waiting.filter (·.which ≠ which) } (y.waiting.filter (·.which = which))

def ask (y : Yard) (w : Wish) : Yard := y.lookAll [w]

/-- A thread leaves a lock that it holds; the others are woken when the lock is free. -/
def leave (y : Yard) (t : Thread) (which : Which) : Option Yard :=
  if (y.lock which).heldBy t then
    let l := (y.lock which).leave
    let y := y.setLock l which
    some (if l.owner.isNone then y.wake which else y)
  else none

def Wish.nextLook? (y : Yard) (w : Wish) : Option Nat :=
  match w.patience with
  | .forever => none
  | .until deadline interrupt =>
    if interrupt.any y.hasFired then some (min (y.now + pollInterval) (deadline.getD (y.now + pollInterval)))
    else deadline

inductive Event where
  | release (a : Alarm)
  | look (w : Wish)
  deriving DecidableEq, Inhabited

/-- What happens next by itself, and when. A release comes before a look at the same time. -/
def nextEvent? (y : Yard) : Option (Nat × Event) :=
  let releases := y.alarms.map fun a => (a.time, Event.release a)
  let looks := y.waiting.filterMap fun w => (Wish.nextLook? y w).map (·, Event.look w)
  (releases ++ looks).foldl (fun best e =>
    match best with
    | none => some e
    | some b => if e.1 < b.1 then some e else some b) none

def happen (y : Yard) : Event → Yard
  | .release a =>
    let y := { y with alarms := y.alarms.erase a }
    (y.leave a.thread .group).getD y
  | .look w => lookAll { y with waiting := y.waiting.erase w } [w]

/-- Waits until a thread has its answer, through at most `fuel` events. -/
def awaitWithin : Nat → Yard → Thread → Option (Outcome × Yard)
  | fuel, y, t =>
    match y.answered.find? (·.1 = t) with
    | some entry => some (entry.2, { y with answered := y.answered.erase entry })
    | none =>
      match fuel, y.nextEvent? with
      | fuel + 1, some (time, event) => awaitWithin fuel (happen { y with now := max y.now time } event) t
      | _, _ => none

/-- Waits for a thread's answer; there is none if it waits for ever. -/
def await (y : Yard) (t : Thread) : Option (Outcome × Yard) :=
  awaitWithin (y.waiting.length + y.alarms.length + 1) y t

def boundedWish (y : Yard) (t : Thread) (which : Which) (wait : Nat) (interrupt : Option String) : Wish :=
  ⟨t, which, wait, .until (deadline? y.now wait) interrupt⟩

def askGroup (y : Yard) (t : Thread) (inTransaction : Bool) (wait : Nat) (interrupt : Option String) : Yard :=
  match y.groupLock.violation? t (y.situation t inTransaction) with
  | some v => { y with answered := y.answered ++ [(t, .refused (.violation v))] }
  | none => y.ask (y.boundedWish t .group wait interrupt)

def passWithin : Nat → Yard → Nat → Yard
  | fuel, y, target =>
    match fuel, y.nextEvent? with
    | fuel + 1, some (time, event) =>
      if time ≤ target then passWithin fuel (happen { y with now := max y.now time } event) target
      else { y with now := max y.now target }
    | _, _ => { y with now := max y.now target }

def pass (y : Yard) (span : Nat) : Yard := passWithin (y.waiting.length + y.alarms.length + 1) y (y.now + span)

end Yard
end Enrolment.Lock
