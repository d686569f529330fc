import Enrolment.Proofs.Lock.House
import Enrolment.Proofs.Store.Scopes
/-!
What threads are told that come to the group lock, whether the order of the locks is watched or not.
Main result: who breaks a rule is told so at once and does nothing, anyone else is treated as if
nobody watched (`verdicts`).

A thread that was told of a rule it broke goes on, as one does that lets go of its guards on the way
out. What happened is listed with the last note first.
-/
namespace Enrolment.Lock

open Store

inductive Entrance
  | plain
  | within (wait : Nat)
  | interruptible (name : String)

def Entrance.how (timeout : Nat) : Entrance → Asking
  | plain => .tryFor timeout
  | within wait => .tryFor wait
  | interruptible name => .tryInterruptible timeout name

def Entrance.wait (timeout : Nat) : Entrance → Nat
  | plain | interruptible _ => timeout
  | within wait => wait

/-- Something that happens at the locks, or that makes a difference to the rules about them. -/
inductive Deed
  | comes (t : Thread) (entrance : Entrance)
  | group (act : Act)
  | protocol (act : Act)
  | performs (t : Thread) (op : Operation)
  | opensScope (t : Thread)
  | closesScope (t : Thread) (commit : Bool)
  | turnsCritical (t : Thread)

inductive Answer
  | silent
  | granted
  | failed (e : AcquireError)
  | busy (e : BusyError)
  | violates (v : Violation)
  | performed (op : Operation) (result : Except Fault op.Result)
  | scope (result : Except Fault Unit)

def Room.told (r : Room) (gaveUp : Thread → AcquireError → Answer) : Act → Answer
  | .looks t _ =>
    match r.place t with
    | .looking patience =>
      match r.lock.look t r.fired r.now patience with
      | .enter => .granted
      | .fail e => gaveUp t e
      | .sleep _ => .silent
    | _ => .silent
  | _ => .silent

/-- Both locks, and for how long each thread meant to wait when it last came to the group lock. -/
structure Attended where
  house : House
  wait : Thread → Nat

namespace Attended

def admitted (a : Attended) (t : Thread) (entrance : Entrance) : Attended where
  house := { a.house with
    group := a.house.group.put t (.looking ((entrance.how a.house.timeout).patience a.house.group.now)) }
  wait := Function.update a.wait t (entrance.wait a.house.timeout)

inductive Does (a : Attended) : Deed → Answer → Attended → Prop
  | comes {t : Thread} (entrance : Entrance) (idle : a.house.Idle t) (obeys : a.house.violation? t = none) :
    Does a (.comes t entrance) .silent (a.admitted t entrance)
  | breaks {t : Thread} (entrance : Entrance) (idle : a.house.Idle t) {v : Violation} (told : a.house.violation? t = some v) :
    Does a (.comes t entrance) (.violates v) a
  | group {act : Act} {room : Room} (step : Room.Step a.house.group act room) (other : ∀ t how, act ≠ .asks t how)
    (free : ∀ t, act.chooser? = some t → a.house.protocol.place t = .outside) :
    Does a (.group act) (a.house.group.told (fun t e => .busy (.ofAcquire e (a.wait t))) act)
      { a with house := { a.house with group := room } }
  | protocol {act : Act} {room : Room} (step : Room.Step a.house.protocol act room)
    (free : ∀ t, act.chooser? = some t → a.house.group.place t = .outside) :
    Does a (.protocol act) (a.house.protocol.told (fun _ e => .failed e) act)
      { a with house := { a.house with protocol := room } }
  | performs (t : Thread) (op : Operation) (idle : a.house.Idle t) :
    Does a (.performs t op) (.performed op (a.house.store.perform t op).1)
      { a with house := { a.house with store := (a.house.store.perform t op).2 } }
  | opensScope (t : Thread) (idle : a.house.Idle t) :
    Does a (.opensScope t) (.scope (a.house.store.openScope t).1)
      { a with house := { a.house with store := (a.house.store.openScope t).2 } }
  | closesScope (t : Thread) (commit : Bool) (idle : a.house.Idle t) :
    Does a (.closesScope t commit) (.scope (a.house.store.closeScope t commit).1)
      { a with house := { a.house with store := (a.house.store.closeScope t commit).2 } }
  | turnsCritical (t : Thread) (idle : a.house.Idle t) :
    Does a (.turnsCritical t) .silent { a with house := { a.house with critical := Function.update a.house.critical t true } }

end Attended

structure Note where
  deed : Deed
  answer : Answer
  after : Attended

namespace Attended

inductive Run (start : Attended) : List Note → Attended → Prop
  | nil : Run start [] start
  | cons {notes : List Note} {a a' : Attended} {deed : Deed} {answer : Answer} (run : Run start notes a)
    (does : Does a deed answer a') : Run start (⟨deed, answer, a'⟩ :: notes) a'

structure Fresh (a : Attended) : Prop where
  protocol : a.house.protocol.Fresh
  group : a.house.group.Fresh
  strict : a.house.checker = .strict a.house.protocol.lock.name
  able : ∀ t, a.house.critical t = false
  outside : ∀ t, a.house.store.inTransaction t = false

/-- The same without anyone who watches. -/
def lenient (a : Attended) : Attended := { a with house := { a.house with checker := .lenient } }

end Attended

def Note.lenient (n : Note) : Note := { n with after := n.after.lenient }

/-! ## What a thread did -/

/-- What the rules have to know of a thread. -/
structure Standing where
  critical : Bool
  scopes : Nat
  protocolGuards : Nat
  groupGuards : Nat

namespace Standing

def initial : Standing := ⟨false, 0, 0, 0⟩

def tally (t : Thread) (guards : Nat) : Act → Answer → Nat
  | .looks u _, .granted => if u = t then guards + 1 else guards
  | .drops g, _ => if g.thread = t then guards - 1 else guards
  | _, _ => guards

/-- What a deed, answered so, makes of where a thread stands. -/
def after (t : Thread) (s : Standing) : Deed → Answer → Standing
  | .group act, answer => { s with groupGuards := tally t s.groupGuards act answer }
  | .protocol act, answer => { s with protocolGuards := tally t s.protocolGuards act answer }
  | .opensScope u, .scope (.ok _) => { s with scopes := if u = t then s.scopes + 1 else s.scopes }
  | .closesScope u _, _ => { s with scopes := if u = t then s.scopes - 1 else s.scopes }
  | .turnsCritical u, _ => { s with critical := s.critical || u = t }
  | _, _ => s

def of (t : Thread) : List Note → Standing
  | [] => initial
  | n :: notes => (of t notes).after t n.deed n.answer

/-- The first of the rules that a thread breaks who now asks for the group lock. -/
inductive Breaks (protocolLock : String) (s : Standing) : Violation → Prop
  | latencyCritical (stranger : s.groupGuards = 0) (critical : s.critical = true) : Breaks protocolLock s .latencyCritical
  | openTransaction (stranger : s.groupGuards = 0) (able : s.critical = false) (inside : 0 < s.scopes) :
    Breaks protocolLock s .openTransaction
  | holdsLock (stranger : s.groupGuards = 0) (able : s.critical = false) (outside : s.scopes = 0) (holds : 0 < s.protocolGuards) :
    Breaks protocolLock s (.holdsLock protocolLock)

end Standing

theorem Room.told_cases (r : Room) (gaveUp : Thread → AcquireError → Answer) (act : Act) :
    r.told gaveUp act = .silent ∨ r.told gaveUp act = .granted ∨
      ∃ t number patience e, act = .looks t number ∧ r.place t = .looking patience ∧
        r.lock.look t r.fired r.now patience = .fail e ∧ r.told gaveUp act = gaveUp t e := by
  unfold told
  split
  · rename_i t number
    split
    · rename_i patience looking
      split
      · exact Or.inr (Or.inl rfl)
      · exact Or.inr (Or.inr ⟨t, number, patience, _, rfl, looking, ‹_›, rfl⟩)
      · exact Or.inl rfl
    · exact Or.inl rfl
  · exact Or.inl rfl

theorem Room.Step.tally {r r' : Room} {act : Act} (step : Room.Step r act r') (gaveUp : Thread → AcquireError → Answer)
    (never : ∀ t e, gaveUp t e ≠ .granted) (t : Thread) : r'.guards.countP (·.thread = t) =
      Standing.tally t (r.guards.countP (·.thread = t)) act (r.told gaveUp act) := by
  cases step with
  | @looks u patience looking number new =>
    unfold told looked
    simp only [looking]
    cases r.lock.look u r.fired r.now patience with
    | enter =>
      rw [List.countP_cons]
      by_cases same : u = t <;> simp [Standing.tally, same]
    | fail e =>
      have other := never u e
      show _ = Standing.tally _ _ _ (gaveUp u e)
      generalize gaveUp u e = answer at other
      cases answer with
      | granted => exact absurd rfl other
      | _ => rfl
    | sleep limit => rfl
  | @drops g live outside =>
    have counted := (List.perm_cons_erase live).countP_eq (fun g => decide (g.thread = t))
    rw [List.countP_cons] at counted
    show (r.guards.erase g).countP _ = if g.thread = t then _ else _
    by_cases same : g.thread = t
    · simp only [same, decide_true, if_true] at counted ⊢
      omega
    · simpa [same] using counted.symm
  | asks | wakes | notifies | passes | interrupts => rfl

theorem Room.Step.unique {r r₁ r₂ : Room} {act : Act} (one : Room.Step r act r₁) (two : Room.Step r act r₂) : r₁ = r₂ := by
  cases one with
  | looks looking =>
    cases two with
    | looks looking' =>
      cases looking.symm.trans looking'
      rfl
  | wakes asleep =>
    cases two with
    | wakes asleep' =>
      cases asleep.symm.trans asleep'
      rfl
  | asks | drops | notifies | passes | interrupts =>
    cases two
    rfl

namespace Attended

variable {start a a' : Attended} {notes : List Note} {deed : Deed} {answer : Answer} {t : Thread}

theorem Does.step (does : Does a deed answer a') : a'.house = a.house ∨ House.Step a.house a'.house := by
  cases does with
  | comes entrance idle obeys =>
    refine Or.inr (.group (.asks _ idle.2) (fun u same => ?_) fun u how same => ?_)
    · cases same
      exact idle.1
    · cases same
      exact obeys
  | breaks => exact Or.inl rfl
  | group step other free => exact Or.inr (.group step free fun t how is => absurd is (other t how))
  | protocol step free => exact Or.inr (.protocol step free)
  | performs t op idle => exact Or.inr (.performs t op idle)
  | opensScope t idle => exact Or.inr (.opensScope t idle)
  | closesScope t commit idle => exact Or.inr (.closesScope t commit idle)
  | turnsCritical t idle => exact Or.inr (.turnsCritical t idle)

/-- What is so of the locks, and of all that the rules ask for, is what the threads have done. -/
structure Accounts (start a : Attended) (standing : Thread → Standing) : Prop where
  reachable : House.Reachable a.house
  strict : a.house.checker = .strict start.house.protocol.lock.name
  critical : ∀ t, a.house.critical t = (standing t).critical
  scopes : ∀ t, a.house.store.depth? t = depthOf? (standing t).scopes
  protocolGuards : ∀ t, a.house.protocol.guards.countP (·.thread = t) = (standing t).protocolGuards
  groupGuards : ∀ t, a.house.group.guards.countP (·.thread = t) = (standing t).groupGuards

private theorem depthOf_update {standing : Thread → Standing} {depth? : Thread → Option Nat}
    (scopes : ∀ t, depth? t = depthOf? (standing t).scopes) (f : Nat → Nat) (u : Thread) :
    Function.update depth? t (depthOf? (f (standing t).scopes)) u =
      depthOf? (if t = u then f (standing u).scopes else (standing u).scopes) := by
  rw [Function.update_apply, scopes]
  by_cases same : t = u
  · simp [same]
  · simp [same, Ne.symm same]

theorem Does.accounts {standing : Thread → Standing} (does : Does a deed answer a') (accounts : Accounts start a standing) :
    Accounts start a' fun t => (standing t).after t deed answer := by
  have reachable : House.Reachable a'.house := by
    obtain same | step := does.step
    · exact same ▸ accounts.reachable
    · exact accounts.reachable.step step
  obtain ⟨-, strict, critical, scopes, protocolGuards, groupGuards⟩ := accounts
  cases does with
  | comes | breaks => exact ⟨reachable, strict, critical, scopes, protocolGuards, groupGuards⟩
  | group step other free =>
    refine ⟨reachable, strict, critical, scopes, protocolGuards, fun t => ?_⟩
    have counted := step.tally (fun t e => .busy (.ofAcquire e (a.wait t))) (fun _ _ => nofun) t
    rwa [groupGuards] at counted
  | protocol step free =>
    refine ⟨reachable, strict, critical, scopes, fun t => ?_, groupGuards⟩
    have counted := step.tally (fun _ e => .failed e) (fun _ _ => nofun) t
    rwa [protocolGuards] at counted
  | performs t op idle =>
    exact ⟨reachable, strict, critical, fun u => (DataStore.depth_perform ..).trans (scopes u), protocolGuards, groupGuards⟩
  | opensScope t idle =>
    obtain ⟨done, more⟩ | ⟨⟨e, failed⟩, same⟩ := DataStore.depth_openScope (scopes t)
    · rw [done]
      refine ⟨reachable, strict, critical, fun u => ?_, protocolGuards, groupGuards⟩
      show (a.house.store.openScope t).2.depth? u = depthOf? (if t = u then (standing u).scopes + 1 else (standing u).scopes)
      rw [more]
      exact depthOf_update scopes (· + 1) u
    · rw [failed]
      exact ⟨reachable, strict, critical, fun u => (congrFun same u).trans (scopes u), protocolGuards, groupGuards⟩
  | closesScope t commit idle =>
    refine ⟨reachable, strict, critical, fun u => ?_, protocolGuards, groupGuards⟩
    show (a.house.store.closeScope t commit).2.depth? u = depthOf? (if t = u then (standing u).scopes - 1 else (standing u).scopes)
    rw [DataStore.depth_closeScope (scopes t)]
    exact depthOf_update scopes (· - 1) u
  | turnsCritical t idle =>
    refine ⟨reachable, strict, fun u => ?_, scopes, protocolGuards, groupGuards⟩
    show Function.update a.house.critical t true u = ((standing u).critical || decide (t = u))
    rw [Function.update_apply, critical]
    by_cases same : t = u
    · simp [same]
    · simp [same, Ne.symm same]

theorem Run.accounts (fresh : start.Fresh) (run : Run start notes a) : Accounts start a fun t => .of t notes := by
  induction run with
  | nil =>
    obtain ⟨protocol, group, strict, able, outside⟩ := fresh
    refine ⟨.fresh ⟨protocol, group, _, strict⟩, strict, able, fun t => ?_, fun t => ?_, fun t => ?_⟩
    · exact Option.not_isSome_iff_eq_none.1 (by simp [← DataStore.inTransaction_eq, outside])
    · rw [protocol.2.1]
      rfl
    · rw [group.2.1]
      rfl
  | cons run does ih => exact does.accounts ih

theorem Accounts.heldBy_eq {standing : Thread → Standing} (accounts : Accounts start a standing) :
    a.house.group.lock.heldBy t = decide (0 < (standing t).groupGuards) ∧
      a.house.situation t =
        ⟨(standing t).critical, decide (0 < (standing t).scopes), decide (0 < (standing t).protocolGuards)⟩ := by
  have rooms := accounts.reachable.rooms
  have owns (r : Room) (reachable : Room.Reachable r) :
      r.lock.heldBy t = decide (0 < r.guards.countP (·.thread = t)) := by
    rw [Bool.eq_iff_iff, reachable.sound.held.heldBy_iff, decide_eq_true_iff, List.countP_pos_iff]
    simp
  have inside : a.house.store.inTransaction t = decide (0 < (standing t).scopes) := by
    rw [DataStore.inTransaction_eq, accounts.scopes]
    unfold depthOf?
    split
    · simp [*]
    · simp only [Option.isSome_some, true_eq_decide_iff]
      omega
  refine ⟨by rw [owns _ rooms.2, accounts.groupGuards], ?_⟩
  unfold House.situation
  rw [accounts.critical, inside, owns _ rooms.1, accounts.protocolGuards]

theorem Accounts.violation?_eq_some {standing : Thread → Standing} (accounts : Accounts start a standing) {v : Violation} :
    a.house.violation? t = some v ↔ (standing t).Breaks start.house.protocol.lock.name v := by
  obtain ⟨owns, situation⟩ := accounts.heldBy_eq (t := t)
  unfold House.violation? GroupLock.violation? House.groupLock
  dsimp only
  rw [owns, situation, accounts.strict]
  generalize standing t = s
  obtain ⟨critical, scopes, protocolGuards, groupGuards⟩ := s
  simp only [Checker.violation?, decide_eq_true_iff]
  constructor
  · intro told
    split at told
    · cases told
    rename_i stranger
    split at told
    · cases told
      exact .latencyCritical (by simpa using stranger) ‹_›
    rename_i able
    split at told
    · cases told
      exact .openTransaction (by simpa using stranger) (by simpa using able) ‹_›
    rename_i outside
    split at told
    · cases told
      exact .holdsLock (by simpa using stranger) (by simpa using able) (by simpa using outside) ‹_›
    · cases told
  · intro breaks
    cases breaks with
    | latencyCritical stranger critical => simp_all
    | openTransaction stranger able inside => simp_all
    | holdsLock stranger able outside holds => simp_all

/-! ## With and without anyone who watches -/

/-- Whatever a thread is told but that it broke a rule, it would also be told if nobody watched. -/
theorem Does.lenient (does : Does a deed answer a') (fine : ∀ v, answer ≠ .violates v) :
    Does a.lenient deed answer a'.lenient := by
  cases does with
  | comes entrance idle obeys =>
    refine .comes (a := a.lenient) entrance idle ?_
    unfold House.violation? GroupLock.violation?
    split <;> rfl
  | breaks => exact absurd rfl (fine _)
  | group step other free => exact .group (a := a.lenient) step other free
  | protocol step free => exact .protocol (a := a.lenient) step free
  | performs t op idle => exact .performs (a := a.lenient) t op idle
  | opensScope t idle => exact .opensScope (a := a.lenient) t idle
  | closesScope t commit idle => exact .closesScope (a := a.lenient) t commit idle
  | turnsCritical t idle => exact .turnsCritical (a := a.lenient) t idle

theorem Run.lenient (run : Run start notes a) (fine : ∀ n ∈ notes, ∀ v, n.answer ≠ .violates v) :
    Run start.lenient (notes.map Note.lenient) a.lenient := by
  induction run with
  | nil => exact .nil
  | cons run does ih =>
    rw [List.forall_mem_cons] at fine
    exact (ih fine.2).cons (does.lenient fine.1)

theorem Does.unique {answer' : Answer} {a'' : Attended} (one : Does a deed answer a') (two : Does a deed answer' a'') :
    answer = answer' ∧ a' = a'' := by
  cases one with
  | comes entrance idle obeys =>
    cases two with
    | comes => exact ⟨rfl, rfl⟩
    | breaks _ _ told => cases obeys.symm.trans told
  | breaks entrance idle told =>
    cases two with
    | comes _ _ obeys => cases obeys.symm.trans told
    | breaks _ _ told' =>
      cases told.symm.trans told'
      exact ⟨rfl, rfl⟩
  | group step =>
    cases two with
    | group step' => exact ⟨rfl, by rw [step.unique step']⟩
  | protocol step =>
    cases two with
    | protocol step' => exact ⟨rfl, by rw [step.unique step']⟩
  | performs | opensScope | closesScope | turnsCritical =>
    cases two
    exact ⟨rfl, rfl⟩

theorem Run.unique {notes' : List Note} {a'' : Attended} (one : Run start notes a) (two : Run start notes' a'')
    (same : notes'.map (·.deed) = notes.map (·.deed)) : notes' = notes ∧ a'' = a := by
  induction one generalizing notes' a'' with
  | nil =>
    obtain rfl := List.map_eq_nil_iff.1 same
    cases two
    exact ⟨rfl, rfl⟩
  | cons run does ih =>
    cases two with
    | nil => cases same
    | cons run' does' =>
      obtain ⟨rfl, earlier⟩ := List.cons.inj same
      obtain ⟨rfl, rfl⟩ := ih run' earlier
      obtain ⟨rfl, rfl⟩ := does'.unique does
      exact ⟨rfl, rfl⟩

theorem Does.of_busy {standing : Thread → Standing} (accounts : Accounts start a standing) {e : BusyError}
    (does : Does a deed (.busy e) a') : ∃ t number, deed = .group (.looks t number) ∧ (standing t).groupGuards = 0 ∧
      ∀ v, ¬ (standing t).Breaks start.house.protocol.lock.name v := by
  generalize is : Answer.busy e = answer at does
  cases does with
  | @group act =>
    obtain silent | granted | ⟨t, number, patience, e', rfl, looking, failed, -⟩ := a.house.group.told_cases _ act
    · cases is.trans silent
    · cases is.trans granted
    have shut : a.house.group.lock.canEnter t = false := by
      by_contra can
      have enters := Reentrant.look_of_canEnter (eq_true_of_ne_false can) a.house.group.fired a.house.group.now patience
      cases enters.symm.trans failed
    have stranger := Reentrant.heldBy_of_shut shut
    obtain ⟨owns, situation⟩ := accounts.heldBy_eq (t := t)
    rw [stranger] at owns
    rw [accounts.reachable.sound.clear t (.looking looking) stranger] at situation
    obtain ⟨able, outside, without⟩ := (Situation.mk.injEq ..).mp situation
    refine ⟨t, number, rfl, by simpa using owns.symm, fun v breaks => ?_⟩
    cases breaks with
    | latencyCritical _ critical => cases able.trans critical
    | openTransaction _ _ inside => simp [inside] at outside
    | holdsLock _ _ _ holds => simp [holds] at without
  | @protocol act =>
    obtain silent | granted | ⟨_, _, _, _, _, _, _, failed⟩ := a.house.protocol.told_cases _ act
    · cases is.trans silent
    · cases is.trans granted
    · cases is.trans failed
  | _ => cases is

theorem Does.of_violates {v : Violation} (does : Does a deed (.violates v) a') :
    a' = a ∧ ∃ t entrance, deed = .comes t entrance := by
  generalize is : Answer.violates v = answer at does
  cases does with
  | @breaks t entrance => exact ⟨rfl, t, entrance, rfl⟩
  | @group act =>
    obtain silent | granted | ⟨_, _, _, _, _, _, _, busy⟩ := a.house.group.told_cases _ act
    · cases is.trans silent
    · cases is.trans granted
    · cases is.trans busy
  | @protocol act =>
    obtain silent | granted | ⟨_, _, _, _, _, _, _, failed⟩ := a.house.protocol.told_cases _ act
    · cases is.trans silent
    · cases is.trans granted
    · cases is.trans failed
  | _ => cases is

/-- However threads come to the locks, nest them, open transactions and become such as may never block, as
long as the order of the locks is watched: a thread that comes to the group lock, by whichever entrance and
whoever has the lock, is told of the first rule that it breaks, if it breaks one, and nothing else happens. Who
is turned away as busy breaks none. A run in which nobody is told of a rule is, step for step, the only one
that the same deeds make where nobody watches. -/
theorem verdicts (fresh : start.Fresh) (run : Run start notes a) :
    let breaks (t : Thread) := (Standing.of t notes).Breaks start.house.protocol.lock.name
    (∀ t entrance, a.house.Idle t → ∀ answer a', Does a (.comes t entrance) answer a' ↔
      (∃ v, breaks t v ∧ answer = .violates v ∧ a' = a) ∨
        (∀ v, ¬ breaks t v) ∧ answer = .silent ∧ a' = a.admitted t entrance) ∧
    (∀ deed v a', Does a deed (.violates v) a' → a' = a ∧ ∃ t entrance, deed = .comes t entrance) ∧
    (∀ deed e a', Does a deed (.busy e) a' → ∃ t number, deed = .group (.looks t number) ∧
      (Standing.of t notes).groupGuards = 0 ∧ ∀ v, ¬ breaks t v) ∧
    ((∀ n ∈ notes, ∀ v, n.answer ≠ .violates v) →
      Run start.lenient (notes.map Note.lenient) a.lenient ∧
        ∀ notes' a', Run start.lenient notes' a' → notes'.map (·.deed) = notes.map (·.deed) →
          notes' = notes.map Note.lenient ∧ a' = a.lenient) := by
  intro breaks
  have accounts := run.accounts fresh
  refine ⟨fun t entrance idle answer a' => ⟨fun does => ?_, ?_⟩, fun deed v a' => Does.of_violates,
    fun deed e a' => Does.of_busy accounts,
    fun fine => ⟨run.lenient fine, fun notes' a' run' same => (run.lenient fine).unique run' ?_⟩⟩
  · cases does with
    | comes _ _ obeys =>
      refine Or.inr ⟨fun v broken => ?_, rfl, rfl⟩
      cases obeys.symm.trans (accounts.violation?_eq_some.2 broken)
    | breaks _ _ told => exact Or.inl ⟨_, accounts.violation?_eq_some.1 told, rfl, rfl⟩
  · rintro (⟨v, broken, rfl, rfl⟩ | ⟨fine, rfl, rfl⟩)
    · exact .breaks entrance idle (accounts.violation?_eq_some.2 broken)
    · refine .comes entrance idle (Option.eq_none_iff_forall_ne_some.2 fun v told => ?_)
      exact fine v (accounts.violation?_eq_some.1 told)
  · rw [same, List.map_map]
    rfl

/-- One thread has the group lock, another one a transaction: it is told so, however short it means to wait. -/
theorem verdicts_of_two : ∃ start notes a, Fresh start ∧ Run start notes a ∧ a.house.group.lock.owner = some ⟨1, none⟩ ∧
    (∀ answer a', Does a (.comes ⟨2, none⟩ (.within 0)) answer a' → answer = .violates .openTransaction ∧ a' = a) ∧
    Run start.lenient (notes.map Note.lenient) a.lenient := by
  let room (name : String) : Room := ⟨.free name, [], fun _ => .outside, 0, fun _ => false⟩
  let start : Attended :=
    ⟨⟨room "protocol", room GroupLock.lockName, 5000, .strict "protocol", .memory .empty, fun _ => false⟩, fun _ => 0⟩
  have fresh : start.Fresh := ⟨⟨⟨_, rfl⟩, rfl, fun _ => rfl⟩, ⟨⟨_, rfl⟩, rfl, fun _ => rfl⟩, rfl, fun _ => rfl, fun _ => rfl⟩
  have begun : Run start [] start := .nil
  have asked := begun.cons (.comes (t := ⟨1, none⟩) .plain ⟨rfl, rfl⟩ rfl)
  have entered := asked.cons (.group (.looks (t := ⟨1, none⟩) rfl 0 (by simp [admitted, Room.put, start, room]))
    (by rintro _ _ ⟨⟩) (by rintro _ ⟨⟩))
  have run := entered.cons (.opensScope ⟨2, none⟩ ⟨rfl, rfl⟩)
  obtain ⟨comes, -, -, unwatched⟩ := verdicts fresh run
  refine ⟨start, _, _, fresh, run, rfl, fun answer a' does => ?_, (unwatched ?_).1⟩
  · have verdict := (comes ⟨2, none⟩ (.within 0) ⟨rfl, rfl⟩ answer a').1 does
    beta_reduce at verdict
    rw [show Standing.of ⟨2, none⟩ _ = ⟨false, 1, 0, 0⟩ from rfl] at verdict
    obtain ⟨v, breaks, rfl, same⟩ | ⟨fine, -⟩ := verdict
    · cases breaks with
      | latencyCritical _ critical => cases critical
      | openTransaction => exact ⟨rfl, same⟩
      | holdsLock _ _ _ holds => cases holds
    · exact absurd (.openTransaction rfl rfl (by decide)) (fine .openTransaction)
  · refine List.forall_mem_cons.2 ⟨?_, List.forall_mem_cons.2 ⟨?_, List.forall_mem_cons.2 ⟨?_, List.forall_mem_nil _⟩⟩⟩ <;>
      rintro _ ⟨⟩

end Attended
end Enrolment.Lock
