import Enrolment.Client.Gate
import Enrolment.Proofs.Client.Journal
import Enrolment.Proofs.Store.Current
import Enrolment.Proofs.Store.Slot
/-!
Where a thread stands with the completion gate. Its calls, and what they are answered, bring it from
one stand to the next, and at each stand only some calls are in order. Main statement: there are no
other ways from one stand to the next than a few (`Stand.moves`).
-/
namespace Enrolment.Client

open Store

/-- Where a thread stands with the completion gate. -/
inductive Stand where
  | outside
  /-- Outside, and about to store a choice of discoverability. -/
  | choosing
  | inside
  /-- Inside, having read that no completion is recorded. -/
  | clear
  | recorded
  /-- The completion is recorded, and discoverability was read to be undecided. -/
  | defaulting
  | queued
  | passed
  /-- Outside again, with the completion recorded and nothing queued. -/
  | lapsed
  deriving DecidableEq

namespace Stand

def isInside : Stand → Bool
  | inside | clear | recorded | defaulting | queued => true
  | _ => false

def isClear : Stand → Bool
  | clear => true
  | _ => false

def isDeciding : Stand → Bool
  | choosing | defaulting => true
  | _ => false

def isOver : Stand → Bool
  | passed | lapsed => true
  | _ => false

def hasRecorded : Stand → Bool
  | recorded | defaulting | queued | passed | lapsed => true
  | _ => false

def hasQueued : Stand → Bool
  | queued | passed => true
  | _ => false

def afterRead (key : String) (answer : Except Fault (Option Json)) : Stand → Stand
  | inside => if key = Account.complete.key ∧ Account.complete.valueOr false answer = .ok false then clear else inside
  | recorded =>
    if key = Account.discoverability.key ∧ Account.discoverability.valueOr .undecided answer = .ok .undecided
    then defaulting else recorded
  | k => k

def afterWrite (key : String) (answer : Except Fault Unit) : Stand → Stand
  | choosing => outside
  | clear => if key = Account.complete.key ∧ answer = .ok () then recorded else clear
  | defaulting => if key = Account.discoverability.key ∧ answer = .ok () then recorded else defaulting
  | k => k

def afterLeave : Stand → Stand
  | inside | clear => outside
  | recorded | defaulting => lapsed
  | queued => passed
  | k => k

def after : (call : Effect) → call.Answer → Stand → Stand
  | .enterGate, _, _ => inside
  | .leaveGate, _, k => k.afterLeave
  | .enqueueChain _, _, _ => queued
  | .store (.read key), answer, k => k.afterRead key answer
  | .store (.write key _), answer, k => k.afterWrite key answer
  | _, _, k => k

/-- The calls that are in order. -/
def Permits (k : Stand) : Effect → Prop
  | .enterGate => k = outside
  | .leaveGate => k.isInside = true
  | .enqueueChain jobs => jobs = completionJobs ∧ k = recorded
  | .store op =>
    k.isOver = false ∧
      (op.edited? = some Account.complete.key → k = clear ∧ op = .write Account.complete.key (.bool true)) ∧
      (op.edited? = some Account.discoverability.key → (k = choosing ∨ k = defaulting) ∧
        ∃ value, value.isPlain = true ∧ op = .write Account.discoverability.key value)
  | _ => k.isOver = false

theorem isInside_of_isClear {k : Stand} (clear : k.isClear = true) : k.isInside = true := by
  cases k with
  | clear => rfl
  | _ => cases clear

theorem hasRecorded_of_hasQueued {k : Stand} (queued : k.hasQueued = true) : k.hasRecorded = true := by
  cases k with
  | queued | passed => rfl
  | _ => cases queued

theorem isDeciding_afterLeave {k : Stand} (undeciding : k.isDeciding = false) : k.afterLeave.isDeciding = false := by
  cases k with
  | choosing => cases undeciding
  | _ => rfl

end Stand

/-- A call that leaves what lies under a key as it is: it does not edit it, or it fails to. -/
def Spares (key : String) : (call : Effect) → call.Answer → Prop
  | .store (.write edited value), answer => edited = key → value.isPlain = true ∧ ∃ e, answer = .error e
  | .store (.erase edited), _ => edited ≠ key
  | _, _ => True

/-- A call that has nothing to do with the gate or with the work that follows it. -/
def Besides : Effect → Prop
  | .enterGate | .leaveGate | .enqueueChain _ => False
  | _ => True

def insideAfter (inside : Bool) : Effect → Bool
  | .enterGate => true
  | .leaveGate => false
  | _ => inside

inductive Stand.Moves : (call : Effect) → call.Answer → Stand → Stand → Prop
  | stays {call : Effect} {answer : call.Answer} (k : Stand) : Besides call →
    Spares Account.complete.key call answer → Spares Account.discoverability.key call answer → Moves call answer k k
  | enters : Moves .enterGate () outside inside
  | leaves {k : Stand} : k.isInside = true → Moves .leaveGate () k k.afterLeave
  | finds {answer : Except Fault (Option Json)} : Account.complete.valueOr false answer = .ok false →
    Moves (.store (.read Account.complete.key)) answer inside clear
  | records : Moves (.store (.write Account.complete.key (.bool true))) (.ok ()) clear recorded
  | hesitates {answer : Except Fault (Option Json)} :
    Account.discoverability.valueOr .undecided answer = .ok .undecided →
    Moves (.store (.read Account.discoverability.key)) answer recorded defaulting
  | defaults {value : Json} : Moves (.store (.write Account.discoverability.key value)) (.ok ()) defaulting recorded
  | queues : Moves (.enqueueChain completionJobs) () recorded queued
  | chooses {key : String} {value : Json} {answer : Except Fault Unit} : key ≠ Account.complete.key →
    Moves (.store (.write key value)) answer choosing outside

private theorem Stand.moves_read (k : Stand) (key : String) (answer : Except Fault (Option Json)) :
    Moves (.store (.read key)) answer k (k.afterRead key answer) := by
  cases k with
  | inside =>
    by_cases told : key = Account.complete.key ∧ Account.complete.valueOr false answer = .ok false
    · obtain ⟨rfl, unrecorded⟩ := told
      rw [show afterRead _ answer inside = clear from if_pos ⟨rfl, unrecorded⟩]
      exact .finds unrecorded
    · rw [show afterRead _ answer inside = inside from if_neg told]
      exact .stays inside trivial trivial trivial
  | recorded =>
    by_cases told : key = Account.discoverability.key ∧ Account.discoverability.valueOr .undecided answer = .ok .undecided
    · obtain ⟨rfl, undecided⟩ := told
      rw [show afterRead _ answer recorded = defaulting from if_pos ⟨rfl, undecided⟩]
      exact .hesitates undecided
    · rw [show afterRead _ answer recorded = recorded from if_neg told]
      exact .stays recorded trivial trivial trivial
  | _ => exact .stays _ trivial trivial trivial

private theorem failed_of_ne_ok {answer : Except Fault Unit} (failed : answer ≠ .ok ()) : ∃ e, answer = .error e := by
  cases answer with
  | ok _ => exact absurd rfl failed
  | error e => exact ⟨e, rfl⟩

private theorem Stand.moves_write {k : Stand} {key : String} {value : Json} (permits : k.Permits (.store (.write key value)))
    (answer : Except Fault Unit) : Moves (.store (.write key value)) answer k (k.afterWrite key answer) := by
  obtain ⟨going, recording, deciding⟩ := permits
  have unrecording (other : k ≠ clear) : key ≠ Account.complete.key := fun same => other (recording (congrArg some same)).1
  cases k with
  | choosing => exact .chooses (unrecording nofun)
  | clear =>
    have undeciding : key ≠ Account.discoverability.key := by
      intro same
      rcases (deciding (congrArg some same)).1 with is | is <;> cases is
    by_cases told : key = Account.complete.key ∧ answer = .ok ()
    · obtain ⟨rfl, rfl⟩ := told
      cases (recording rfl).2
      exact .records
    · rw [show afterWrite key answer clear = clear from if_neg told]
      refine .stays clear trivial ?_ fun same => absurd same undeciding
      rintro rfl
      cases (recording rfl).2
      exact ⟨rfl, failed_of_ne_ok fun done => told ⟨rfl, done⟩⟩
  | defaulting =>
    by_cases told : key = Account.discoverability.key ∧ answer = .ok ()
    · obtain ⟨rfl, rfl⟩ := told
      exact .defaults
    · rw [show afterWrite key answer defaulting = defaulting from if_neg told]
      refine .stays defaulting trivial (fun same => absurd same (unrecording nofun)) ?_
      rintro rfl
      obtain ⟨-, _, plain, is⟩ := deciding rfl
      cases is
      exact ⟨plain, failed_of_ne_ok fun done => told ⟨rfl, done⟩⟩
  | _ =>
    refine .stays _ trivial (fun same => absurd same (unrecording nofun)) ?_
    intro same
    rcases (deciding (congrArg some same)).1 with is | is <;> cases is

theorem Stand.moves {k : Stand} {call : Effect} (permits : k.Permits call) (answer : call.Answer) :
    Moves call answer k (k.after call answer) := by
  cases call with
  | store op =>
    cases op with
    | read key => exact moves_read k key answer
    | write key value => exact moves_write permits answer
    | erase key =>
      refine .stays k trivial ?_ ?_
      · rintro rfl
        cases (permits.2.1 rfl).2
      · rintro rfl
        obtain ⟨-, value, -, is⟩ := permits.2.2 rfl
        cases is
    | _ => exact .stays k trivial trivial trivial
  | enterGate =>
    obtain rfl : k = outside := permits
    exact .enters
  | leaveGate => exact .leaves permits
  | enqueueChain jobs =>
    obtain ⟨rfl, rfl⟩ := permits
    exact .queues
  | _ => exact .stays k trivial trivial trivial

namespace Stand.Moves

variable {call : Effect} {answer : call.Answer} {k k' : Stand}

theorem inside_eq (moves : Moves call answer k k') : k'.isInside = insideAfter k.isInside call := by
  cases moves with
  | stays k besides =>
    cases call with
    | enterGate | leaveGate => exact besides.elim
    | _ => rfl
  | leaves => cases k <;> rfl
  | _ => rfl

theorem clear_or_recorded (moves : Moves call answer k k') (recorded : k'.hasRecorded = true) :
    k.hasRecorded = true ∨ k.isClear = true := by
  cases moves with
  | stays => exact Or.inl recorded
  | leaves =>
    cases k with
    | outside | choosing | inside | clear => cases recorded
    | _ => exact Or.inl rfl
  | records => exact Or.inr rfl
  | hesitates | defaults | queues => exact Or.inl rfl
  | enters | finds | chooses => cases recorded

theorem queued_cases (moves : Moves call answer k k') :
    k'.hasQueued = k.hasQueued ∧ Journal.chains [⟨call, answer⟩] = [] ∨
      k.hasQueued = false ∧ k'.hasQueued = true ∧ Journal.chains [⟨call, answer⟩] = [completionJobs] := by
  cases moves with
  | stays k besides =>
    cases call with
    | enqueueChain jobs => exact besides.elim
    | _ => exact Or.inl ⟨rfl, rfl⟩
  | leaves => cases k <;> exact Or.inl ⟨rfl, rfl⟩
  | queues => exact Or.inr ⟨rfl, rfl, rfl⟩
  | _ => exact Or.inl ⟨rfl, rfl⟩

end Stand.Moves

/-- A stand, and what was asked and answered on the way there from the entrance of the gate. -/
structure Progress where
  stand : Stand
  said : Journal

namespace Progress

def after (call : Effect) (answer : call.Answer) (p : Progress) : Progress where
  stand := p.stand.after call answer
  said := match call, answer with
    | .enterGate, _ => []
    | call, answer => p.said ++ [⟨call, answer⟩]

end Progress

def passage : Plan.Contract effects Progress where
  allowed call p := p.stand.Permits call
  answered call p answer p' := p' = p.after call answer

end Enrolment.Client
