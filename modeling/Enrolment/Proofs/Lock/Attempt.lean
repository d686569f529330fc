import Enrolment.Proofs.Lock.House
/-!
Attempts to get the lock that last only so long. The clock may have any resolution, and may read
anything that is not earlier than before; the other threads do as they like. Main result: what each
look at the lock comes to (`attempt_answered`).

A look reads the interrupt before the clock. What fires between the two counts as fired after the look.
-/
namespace Enrolment.Lock

/-- When a thread set out for the lock, how long it may take, and what can interrupt it. -/
structure Attempt where
  start : Nat
  wait : Nat
  interrupt : Option String
  deriving DecidableEq

/-- The clock tells the seconds before this one. -/
def clockSeconds : Nat := 9223372036854775808

namespace Attempt

/-- A clock with this many ticks to the second gets to the end of an attempt. -/
def Ends (resolution : Nat) (a : Attempt) : Prop := a.start + a.wait < clockSeconds * resolution

instance (resolution : Nat) (a : Attempt) : Decidable (a.Ends resolution) := inferInstanceAs (Decidable (_ < _))

def patience (resolution : Nat) : Option Attempt → Patience
  | none => .forever
  | some a => .until (if a.Ends resolution then some (a.start + a.wait) else none) a.interrupt

def Interrupted (a : Attempt) (r : Room) : Prop := ∃ name, a.interrupt = some name ∧ r.fired name = true

end Attempt

def Asking.attempt? (now : Nat) : Asking → Option Attempt
  | acquire => none
  | tryFor wait => some ⟨now, wait, none⟩
  | tryInterruptible wait interrupt => some ⟨now, wait, some interrupt⟩

theorem Asking.patience_attempt? (how : Asking) (now : Nat) : Attempt.patience 1000 (how.attempt? now) = how.patience now := by
  cases how <;> rfl

def Act.Asks : Act → Prop
  | asks _ _ => True
  | _ => False

def Place.patience? : Place → Option Patience
  | looking patience | asleep patience => some patience
  | _ => none

structure Watched where
  room : Room
  attempts : Thread → Option Attempt

namespace Watched

def asked (resolution : Nat) (w : Watched) (t : Thread) (how : Asking) : Watched where
  room := w.room.put t (.looking (Attempt.patience resolution (how.attempt? w.room.now)))
  attempts := Function.update w.attempts t (how.attempt? w.room.now)

inductive Step (resolution : Nat) (w : Watched) : Watched → Prop
  | asks {t : Thread} (how : Asking) (outside : w.room.place t = .outside) : Step resolution w (w.asked resolution t how)
  | goesOn {act : Act} {r : Room} (other : ¬ act.Asks) (step : Room.Step w.room act r) :
    Step resolution w { w with room := r }

inductive Reachable (resolution : Nat) : Watched → Prop
  | fresh {w : Watched} (fresh : w.room.Fresh) : Reachable resolution w
  | step {w w' : Watched} (reachable : Reachable resolution w) (step : Step resolution w w') : Reachable resolution w'

def Kept (resolution : Nat) (w : Watched) : Prop :=
  ∀ t p, (w.room.place t).patience? = some p → p = Attempt.patience resolution (w.attempts t)

variable {resolution : Nat} {w w' : Watched} {t : Thread}

theorem exists_of_reachable {r : Room} (reachable : Room.Reachable r) : ∃ attempts, Reachable 1000 ⟨r, attempts⟩ := by
  induction reachable with
  | fresh fresh => exact ⟨fun _ => none, .fresh fresh⟩
  | @step r r' act _ step ih =>
    obtain ⟨attempts, reached⟩ := ih
    cases step with
    | asks how outside =>
      have asked := reached.step (.asks how outside)
      rw [Watched.asked, Asking.patience_attempt?] at asked
      exact ⟨_, asked⟩
    | looks looking number new => exact ⟨_, reached.step (.goesOn id (.looks looking number new))⟩
    | wakes asleep => exact ⟨_, reached.step (.goesOn id (.wakes asleep))⟩
    | drops live outside => exact ⟨_, reached.step (.goesOn id (.drops live outside))⟩
    | notifies waking => exact ⟨_, reached.step (.goesOn id (.notifies waking))⟩
    | passes now later => exact ⟨_, reached.step (.goesOn id (.passes now later))⟩
    | interrupts name => exact ⟨_, reached.step (.goesOn id (.interrupts name))⟩

theorem Step.sound (step : Step resolution w w') (sound : w.room.Sound) : w'.room.Sound := by
  cases step with
  | asks how outside => exact ⟨sound.held, sound.distinct⟩
  | goesOn other step => exact step.sound sound

theorem patience?_of_moves {r : Room} {act : Act} (other : ¬ act.Asks) {place place' : Place}
    (moves : Room.Moves r act t place place') {p : Patience} (patient : place'.patience? = some p) :
    place.patience? = some p := by
  cases moves with
  | asks is => exact absurd (is ▸ trivial) other
  | stays | sleeps | rises => exact patient
  | ends | frees | wakes => cases patient

theorem Step.kept (step : Step resolution w w') (kept : w.Kept resolution) : w'.Kept resolution := by
  intro u p patient
  cases step with
  | @asks t how outside =>
    simp only [asked, Room.place_put, Function.update_apply] at patient ⊢
    split at patient
    · rename_i same
      rw [if_pos same]
      exact (Option.some.inj patient).symm
    · rename_i different
      rw [if_neg different]
      exact kept u p patient
  | goesOn other step => exact kept u p (patience?_of_moves other (step.moves u) patient)

theorem Reachable.invariants (reachable : Reachable resolution w) : w.room.Sound ∧ w.Kept resolution := by
  induction reachable with
  | @fresh w fresh =>
    refine ⟨(Room.Reachable.fresh fresh).sound, fun t p patient => ?_⟩
    rw [fresh.2.2 t] at patient
    cases patient
  | step _ step ih => exact ⟨step.sound ih.1, step.kept ih.2⟩

end Watched

/-! ## One look -/

namespace Attempt

variable {resolution : Nat} {r : Room} {t : Thread} {a : Attempt}

/-- Another thread has the lock, and goes by this label. -/
def Blocked (r : Room) (t : Thread) (label : Option String) : Prop :=
  ∃ owner, r.lock.owner = some owner ∧ owner ≠ t ∧ label = some owner.label

/-- What a look at the lock is to come to. -/
structure Answered (resolution : Nat) (r : Room) (t : Thread) (a : Attempt) (turn : Turn) : Prop where
  enters : turn = .enter ↔ r.lock.owner = none ∨ r.lock.owner = some t
  interrupted : ∀ label, turn = .fail (.interrupted label) ↔ Blocked r t label ∧ a.Interrupted r
  timedOut : ∀ label, turn = .fail (.timedOut label) ↔
    Blocked r t label ∧ ¬ a.Interrupted r ∧ a.Ends resolution ∧ a.start + a.wait ≤ r.now
  busy : ∀ e, turn = .fail e → ∀ waited, Blocked r t (some (BusyError.ofAcquire e waited).owner)

theorem canEnter_iff : r.lock.canEnter t = true ↔ r.lock.owner = none ∨ r.lock.owner = some t := by
  simp [Reentrant.canEnter, Reentrant.heldBy]

theorem not_blocked_of_canEnter (can : r.lock.canEnter t = true) (label : Option String) : ¬ Blocked r t label := by
  rintro ⟨owner, owned, other, -⟩
  obtain free | own := canEnter_iff.1 can
  · cases owned.symm.trans free
  · exact other (Option.some.inj (owned.symm.trans own))

theorem blocked_iff (sound : r.Sound) (shut : ¬ r.lock.canEnter t = true) (label : Option String) :
    Blocked r t label ↔ r.lock.ownerName = label := by
  have names := sound.held.ownerName_eq
  obtain ⟨taken, other⟩ := not_or.1 (mt canEnter_iff.2 shut)
  obtain ⟨owner, owned⟩ := Option.ne_none_iff_exists'.1 taken
  rw [names, owned]
  constructor
  · rintro ⟨owner', owned', -, rfl⟩
    rw [Option.some.inj (owned.symm.trans owned'), Option.map_some]
  · rintro rfl
    exact ⟨owner, owned, fun same => other (same ▸ owned), rfl⟩

theorem interrupted_iff : a.Interrupted r ↔ a.interrupt.any r.fired = true := by
  simp [Interrupted, Option.any_eq_true]

theorem blocked_busy (sound : r.Sound) (shut : ¬ r.lock.canEnter t = true) {e : AcquireError}
    (names : e.owner = r.lock.ownerName) (waited : Nat) : Blocked r t (some (BusyError.ofAcquire e waited).owner) := by
  obtain ⟨label, named⟩ : ∃ label, r.lock.ownerName = some label := by
    obtain ⟨owner, owned⟩ := Option.ne_none_iff_exists'.1 (not_or.1 (mt canEnter_iff.2 shut)).1
    exact ⟨owner.label, by rw [sound.held.ownerName_eq, owned, Option.map_some]⟩
  have told : (BusyError.ofAcquire e waited).owner = e.owner.getD noOwner := by cases e <;> rfl
  rw [blocked_iff sound shut, told, names, named, Option.getD_some]

theorem answered_of_canEnter (can : r.lock.canEnter t = true) : Answered resolution r t a .enter where
  enters := iff_of_true rfl (canEnter_iff.1 can)
  interrupted label := iff_of_false Turn.noConfusion fun both => not_blocked_of_canEnter can label both.1
  timedOut label := iff_of_false Turn.noConfusion fun all => not_blocked_of_canEnter can label all.1
  busy _ fails := Turn.noConfusion fails

section

variable (sound : r.Sound) (shut : ¬ r.lock.canEnter t = true)

include sound shut

theorem answered_of_interrupted (fired : a.Interrupted r) :
    Answered resolution r t a (.fail (.interrupted r.lock.ownerName)) where
  enters := iff_of_false Turn.noConfusion (mt canEnter_iff.2 shut)
  interrupted label := by simp [blocked_iff sound shut, fired]
  timedOut label := by simp [fired]
  busy := by
    rintro _ ⟨⟩
    exact blocked_busy sound shut rfl

theorem answered_of_timedOut (unfired : ¬ a.Interrupted r) (ends : a.Ends resolution) (past : a.start + a.wait ≤ r.now) :
    Answered resolution r t a (.fail (.timedOut r.lock.ownerName)) where
  enters := iff_of_false Turn.noConfusion (mt canEnter_iff.2 shut)
  interrupted label := by simp [unfired]
  timedOut label := by simp [blocked_iff sound shut, unfired, ends, past]
  busy := by
    rintro _ ⟨⟩
    exact blocked_busy sound shut rfl

omit sound in
theorem answered_of_sleep (unfired : ¬ a.Interrupted r) (going : a.Ends resolution → r.now < a.start + a.wait)
    (limit : Option Nat) : Answered resolution r t a (.sleep limit) where
  enters := iff_of_false Turn.noConfusion (mt canEnter_iff.2 shut)
  interrupted label := by simp [unfired]
  timedOut label := iff_of_false Turn.noConfusion fun ⟨_, _, ends, past⟩ => absurd past (Nat.not_le_of_lt (going ends))
  busy _ fails := Turn.noConfusion fails

end

theorem answered (sound : r.Sound) (t : Thread) (a : Attempt) :
    Answered resolution r t a (r.lock.look t r.fired r.now (patience resolution (some a))) := by
  by_cases can : r.lock.canEnter t = true
  · rw [Reentrant.look_of_canEnter can]
    exact answered_of_canEnter can
  simp only [patience, Reentrant.look, if_neg can]
  by_cases fired : a.Interrupted r
  · rw [if_pos (interrupted_iff.1 fired)]
    exact answered_of_interrupted sound can fired
  rw [if_neg (mt interrupted_iff.2 fired)]
  by_cases ends : a.Ends resolution
  · simp only [if_pos ends]
    by_cases past : a.start + a.wait ≤ r.now
    · rw [if_pos past]
      exact answered_of_timedOut sound can fired ends past
    · rw [if_neg past]
      split <;> exact answered_of_sleep can fired (fun _ => Nat.not_le.1 past) _
  · simp only [if_neg ends]
    exact answered_of_sleep can fired (fun ends' => absurd ends' ends) _

end Attempt

namespace Watched

variable {resolution : Nat} {w : Watched}

/-- However long an attempt may take and whatever goes on beside it, a thread that finds the lock free or
its own has it with its first look. With a later look it has it as well; it is turned away only by
another thread that has the lock at that moment and that it is told of. It is told that it was interrupted
just when that is so, and that its time is over just when the clock got there without an interrupt,
which it never does where it cannot tell the end. -/
theorem attempt_answered (reachable : Reachable resolution w) (t : Thread) :
    (w.room.place t = .outside → w.room.lock.owner = none ∨ w.room.lock.owner = some t → ∀ how number,
      let asked := w.asked resolution t how
      let got := asked.room.looked t (Attempt.patience resolution (how.attempt? w.room.now)) number
      Step resolution w asked ∧ got.now = w.room.now ∧ got.place t = .outside ∧
        got.guards = ⟨number, t⟩ :: w.room.guards ∧ got.lock.owner = some t ∧
        got.lock.holdCount = w.room.lock.holdCount + 1) ∧
      ∀ a p, w.attempts t = some a → w.room.place t = .looking p →
        Attempt.Answered resolution w.room t a (w.room.lock.look t w.room.fired w.room.now p) := by
  obtain ⟨sound, kept⟩ := reachable.invariants
  refine ⟨fun outside free how number => ?_, fun a p attempt looking => ?_⟩
  · have can := Attempt.canEnter_iff.2 free
    intro asked got
    have gets : got = { asked.room.put t .outside with
        lock := w.room.lock.enter t, guards := ⟨number, t⟩ :: w.room.guards } := by
      show asked.room.looked _ _ _ = _
      unfold Room.looked
      rw [show asked.room.lock = w.room.lock from rfl, Reentrant.look_of_canEnter can]
      rfl
    have held := sound.held.enter can number
    rw [gets]
    refine ⟨.asks how outside, rfl, by simp [Room.put], rfl, ?_, ?_⟩
    · exact held.owner_of_mem List.mem_cons_self
    · show (w.room.lock.enter t).holdCount = _
      rw [held.holdCount_eq, sound.held.holdCount_eq, List.length_cons]
  · obtain rfl := kept t p (by rw [looking]; rfl)
    rw [attempt]
    exact Attempt.answered sound t a

/-- The time of an attempt is over as it begins, and it is interrupted as well. -/
theorem attempt_answered_interrupted : ∃ w p, Reachable 1000000000 w ∧ w.room.place ⟨2, none⟩ = .looking p ∧
    w.room.lock.look ⟨2, none⟩ w.room.fired w.room.now p = .fail (.interrupted (some "main")) := by
  let main : Thread := ⟨1, some "main"⟩
  let other : Thread := ⟨2, none⟩
  let start : Watched := ⟨⟨.free "group-processing", [], fun _ => .outside, 7, fun _ => false⟩, fun _ => none⟩
  have fresh : Reachable 1000000000 start := .fresh ⟨⟨_, rfl⟩, rfl, fun _ => rfl⟩
  have taken := (fresh.step (.asks (t := main) .acquire rfl)).step
    (.goesOn (id : ¬ (Act.looks main 0).Asks) (.looks rfl 0 (by simp [asked, Room.put, start])))
  have asks := taken.step (.asks (t := other) (.tryInterruptible 0 "stop") rfl)
  have fires := asks.step (.goesOn (id : ¬ (Act.interrupts "stop").Asks) (.interrupts "stop"))
  refine ⟨_, _, fires, rfl, ?_⟩
  obtain ⟨-, looks⟩ := attempt_answered fires other
  exact ((looks ⟨7, 0, some "stop"⟩ _ rfl rfl).interrupted _).2 ⟨⟨main, rfl, by decide, rfl⟩, "stop", rfl, rfl⟩

end Watched
end Enrolment.Lock
