import Enrolment.Lock.Group
import Enrolment.Proofs.Lock.Sleep
import Enrolment.Proofs.Store.Sight
import Mathlib.Logic.Relation
/-!
The protocol lock and the group lock, with the rules about their order. Any number of threads ask for
both, nest them, open transactions and become such as may never block; a thread that asks for the
group lock against the rules does not get to wait for it. Main result: threads never wait for each
other in a circle (`acyclic_waits`).
-/
namespace Enrolment.Lock

namespace Reentrant

variable {l : Reentrant} {t u : Thread}

theorem heldBy_iff_owner : l.heldBy t = true ↔ l.owner = some t := decide_eq_true_iff

theorem heldBy_of_enter (held : (l.enter t).heldBy u = true) : u = t ∨ l.heldBy u = true := by
  rw [heldBy_iff_owner] at held ⊢
  unfold enter at held
  split at held
  · exact Or.inl (Option.some.inj held).symm
  · exact Or.inr held

theorem heldBy_of_leave (held : l.leave.heldBy u = true) : l.heldBy u = true := by
  rw [heldBy_iff_owner] at held ⊢
  unfold leave at held
  split at held
  · cases held
  · exact held

theorem heldBy_of_shut (shut : l.canEnter t = false) : l.heldBy t = false := by
  unfold canEnter at shut
  exact (Bool.or_eq_false_iff.1 shut).2

end Reentrant

def Act.chooser? : Act → Option Thread
  | asks t _ => some t
  | drops g => some g.thread
  | _ => none

namespace Room

variable {r r' : Room} {act : Act} {t u : Thread}

/-- All that a step can make of a thread's place. -/
inductive Moves (r : Room) (act : Act) (t : Thread) : Place → Place → Prop
  | stays (place : Place) : Moves r act t place place
  | asks {how : Asking} {patience : Patience} : act = .asks t how → Moves r act t .outside (.looking patience)
  | ends {patience : Patience} : Moves r act t (.looking patience) .outside
  | sleeps {patience : Patience} : r.lock.canEnter t = false → Moves r act t (.looking patience) (.asleep patience)
  | rises {patience : Patience} : Moves r act t (.asleep patience) (.looking patience)
  | frees {g : Guard} : act = .drops g → g.thread = t → Moves r act t .outside .waking
  | wakes : Moves r act t .waking .outside

private theorem shut_of_sleep {patience : Patience} {limit : Option Nat}
    (sleeps : r.lock.look t r.fired r.now patience = .sleep limit) : r.lock.canEnter t = false := by
  by_contra can
  have entered := Reentrant.look_of_canEnter (eq_true_of_ne_false can) r.fired r.now patience
  exact Turn.noConfusion (sleeps.symm.trans entered)

private theorem moves_put {place : Place} (moves : Moves r act u (r.place u) place) :
    Moves r act t (r.place t) ((r.put u place).place t) := by
  rw [place_put]
  split
  · rename_i same
    rwa [same]
  · exact .stays _

theorem Step.moves (step : Step r act r') (t : Thread) : Moves r act t (r.place t) (r'.place t) := by
  cases step with
  | asks how outside => exact moves_put (by rw [outside]; exact .asks rfl)
  | @looks u patience looking number new =>
    unfold looked
    cases turn : r.lock.look u r.fired r.now patience with
    | enter => exact moves_put (by rw [looking]; exact .ends)
    | fail e => exact moves_put (by rw [looking]; exact .ends)
    | sleep limit => exact moves_put (by rw [looking]; exact .sleeps (shut_of_sleep turn))
  | wakes asleep => exact moves_put (by rw [asleep]; exact .rises)
  | @drops g live outside =>
    refine moves_put (r := r) ?_
    rw [outside]
    split
    · exact .frees rfl rfl
    · exact .stays _
  | @notifies u waking =>
    by_cases same : t = u
    · subst same
      rw [waking]
      simpa [roused] using Moves.wakes
    · cases here : r.place t with
      | asleep patience =>
        rw [place_roused_of_asleep here waking]
        exact .rises
      | _ => simpa [roused, same, here] using Moves.stays _
  | passes | interrupts => exact .stays _

theorem Step.heldBy (step : Step r act r') (held : r'.lock.heldBy t = true) :
    r.lock.heldBy t = true ∨ ∃ patience, r.place t = .looking patience ∧ r'.place t = .outside := by
  cases step with
  | @looks u patience looking number new =>
    unfold looked at held ⊢
    split at held
    · obtain rfl | before := Reentrant.heldBy_of_enter held
      · exact Or.inr ⟨patience, looking, by simp [*, place_put]⟩
      · exact Or.inl before
    · exact Or.inl held
    · exact Or.inl held
  | drops live outside => exact Or.inl (Reentrant.heldBy_of_leave held)
  | asks | wakes | notifies | passes | interrupts => exact Or.inl held

theorem Step.mem_guards (step : Step r act r') {g : Guard} (live : g ∈ r.guards)
    (kept : ∀ other, act = .drops other → g ≠ other) : g ∈ r'.guards := by
  obtain ⟨-, same⟩ | ⟨u, number, -, -, -, -, more⟩ | ⟨other, -, drops, -, fewer⟩ := step.effect
  · rwa [same]
  · rw [more]
    exact List.mem_cons_of_mem _ live
  · rw [fewer]
    exact (List.mem_erase_of_ne (kept other drops)).2 live

inductive Queues (r : Room) (t : Thread) : Prop
  | looking {patience : Patience} : r.place t = .looking patience → Queues r t
  | asleep {patience : Patience} : r.place t = .asleep patience → Queues r t

/-- A thread cannot go on before another one leaves the lock. -/
inductive Waits (r : Room) (t : Thread) : Prop
  | looking {patience : Patience} : r.place t = .looking patience → r.lock.canEnter t = false → Waits r t
  | asleep {patience : Patience} : r.place t = .asleep patience → Waits r t

theorem Waits.queues (waits : r.Waits t) : r.Queues t := by
  cases waits with
  | looking looking shut => exact .looking looking
  | asleep asleep => exact .asleep asleep

theorem Queues.not_outside (queues : r.Queues t) : r.place t ≠ .outside := by
  intro outside
  cases queues with
  | looking looking => cases outside.symm.trans looking
  | asleep asleep => cases outside.symm.trans asleep

theorem Step.outside_of_outside (step : Step r act r') (outside : r.place t = .outside) (other : act.chooser? ≠ some t) :
    r'.place t = .outside := by
  have moves := step.moves t
  rw [outside] at moves
  generalize r'.place t = after at moves ⊢
  cases moves with
  | stays => rfl
  | asks is => exact absurd (by rw [is, Act.chooser?]) other
  | frees is same => exact absurd (by rw [is, Act.chooser?, same]) other

theorem Step.queues (step : Step r act r') (queues : r'.Queues t) : r.Queues t ∨ ∃ how, act = .asks t how := by
  have moves := step.moves t
  generalize before : r.place t = place at moves
  obtain @⟨patience, here⟩ | @⟨patience, here⟩ := queues
  · rw [here] at moves
    cases moves with
    | stays => exact Or.inl (.looking before)
    | asks is => exact Or.inr ⟨_, is⟩
    | rises => exact Or.inl (.asleep before)
  · rw [here] at moves
    cases moves with
    | stays => exact Or.inl (.asleep before)
    | sleeps => exact Or.inl (.looking before)

theorem Reachable.not_heldBy_of_asleep (reachable : Reachable r) {patience : Patience}
    (asleep : r.place t = .asleep patience) : r.lock.heldBy t = false := by
  induction reachable with
  | fresh fresh =>
    obtain ⟨-, -, outside⟩ := fresh
    cases (outside t).symm.trans asleep
  | @step r r' act _ step ih =>
    by_contra held
    obtain before | ⟨_, -, outside⟩ := step.heldBy (eq_true_of_ne_false held)
    · have moves := step.moves t
      rw [asleep] at moves
      generalize here : r.place t = place at moves
      cases moves with
      | stays => exact Bool.noConfusion (before.symm.trans (ih here))
      | sleeps shut => exact Bool.noConfusion (before.symm.trans (Reentrant.heldBy_of_shut shut))
    · cases outside.symm.trans asleep

theorem Reachable.not_heldBy_of_waits (reachable : Reachable r) (waits : r.Waits t) : r.lock.heldBy t = false := by
  cases waits with
  | looking looking shut => exact Reentrant.heldBy_of_shut shut
  | asleep asleep => exact reachable.not_heldBy_of_asleep asleep

theorem Step.heldBy_of_queues (step : Step r act r') (reachable : Reachable r) (queues : r.Queues t)
    (held : r.lock.heldBy t = true) : r'.lock.heldBy t = true := by
  rw [Reentrant.heldBy_iff_owner] at held ⊢
  obtain ⟨same, -⟩ | ⟨u, number, -, can, -, entered, -⟩ | ⟨g, live, rfl, left, -⟩ := step.effect
  · rw [same, held]
  · rw [entered, Reentrant.enter, held]
  · have owner := reachable.sound.held.owner_of_mem live
    obtain rfl : g.thread = t := Option.some.inj (owner.symm.trans held)
    cases step with
    | drops live outside => exact absurd outside queues.not_outside

end Room

/-- Both locks, and all that the rules about their order depend on. -/
structure House where
  protocol : Room
  group : Room
  timeout : Nat
  checker : Checker
  store : Store.DataStore
  /-- Threads that may never block. -/
  critical : Thread → Bool

namespace House

def groupLock (h : House) : GroupLock := ⟨h.group.lock, h.timeout, h.checker⟩

def situation (h : House) (t : Thread) : Situation := ⟨h.critical t, h.store.inTransaction t, h.protocol.lock.heldBy t⟩

def violation? (h : House) (t : Thread) : Option Violation := h.groupLock.violation? t (h.situation t)

def Idle (h : House) (t : Thread) : Prop := h.protocol.place t = .outside ∧ h.group.place t = .outside

structure Fresh (h : House) : Prop where
  protocol : h.protocol.Fresh
  group : h.group.Fresh
  strict : ∃ name, h.checker = .strict name

inductive Step (h : House) : House → Prop
  | protocol {act : Act} {room : Room} (step : Room.Step h.protocol act room)
    (free : ∀ t, act.chooser? = some t → h.group.place t = .outside) : Step h { h with protocol := room }
  | group {act : Act} {room : Room} (step : Room.Step h.group act room)
    (free : ∀ t, act.chooser? = some t → h.protocol.place t = .outside)
    (obeys : ∀ t how, act = .asks t how → h.violation? t = none) : Step h { h with group := room }
  | performs (t : Thread) (op : Store.Operation) (idle : h.Idle t) : Step h { h with store := (h.store.perform t op).2 }
  | opensScope (t : Thread) (idle : h.Idle t) : Step h { h with store := (h.store.openScope t).2 }
  | closesScope (t : Thread) (commit : Bool) (idle : h.Idle t) :
    Step h { h with store := (h.store.closeScope t commit).2 }
  | turnsCritical (t : Thread) (idle : h.Idle t) : Step h { h with critical := Function.update h.critical t true }

inductive Reachable : House → Prop
  | fresh {h : House} (fresh : h.Fresh) : Reachable h
  | step {h h' : House} (reachable : Reachable h) (step : Step h h') : Reachable h'

variable {h h' : House} {t u : Thread}

theorem Reachable.rooms (reachable : Reachable h) : Room.Reachable h.protocol ∧ Room.Reachable h.group := by
  induction reachable with
  | fresh fresh => exact ⟨.fresh fresh.protocol, .fresh fresh.group⟩
  | step _ step ih =>
    cases step with
    | protocol step _ => exact ⟨ih.1.step step, ih.2⟩
    | group step _ _ => exact ⟨ih.1, ih.2.step step⟩
    | performs | opensScope | closesScope | turnsCritical => exact ih

/-- Whom the rules let pass: the owner, and who is in none of the situations that they name. -/
theorem clear_of_violation?_eq_none (strict : ∃ name, h.checker = .strict name) (obeys : h.violation? t = none)
    (other : h.group.lock.heldBy t = false) : h.situation t = ⟨false, false, false⟩ := by
  obtain ⟨name, strict⟩ := strict
  unfold violation? GroupLock.violation? groupLock at obeys
  rw [if_neg (by simp [other]), strict] at obeys
  generalize h.situation t = s at obeys ⊢
  obtain ⟨critical, inTransaction, holds⟩ := s
  simp only [Checker.violation?] at obeys
  grind

structure Sound (h : House) : Prop where
  strict : ∃ name, h.checker = .strict name
  alone : ∀ t, h.protocol.place t = .outside ∨ h.group.place t = .outside
  clear : ∀ t, h.group.Queues t → h.group.lock.heldBy t = false → h.situation t = ⟨false, false, false⟩

theorem Sound.of_idle (sound : h.Sound) (idle : h.Idle t) {store : Store.DataStore} {critical : Thread → Bool}
    (sameStore : ∀ u, t ≠ u → store.inTransaction u = h.store.inTransaction u)
    (sameCritical : ∀ u, t ≠ u → critical u = h.critical u) : Sound { h with store, critical } where
  strict := sound.strict
  alone := sound.alone
  clear u queues other := by
    have different : t ≠ u := fun same => queues.not_outside (same ▸ idle.2)
    rw [← sound.clear u queues other]
    exact congrArg₂ (Situation.mk · · _) (sameCritical u different) (sameStore u different)

theorem Step.sound (step : Step h h') (reachable : Reachable h) (sound : h.Sound) : h'.Sound := by
  cases step with
  | @protocol act room step free =>
    refine ⟨sound.strict, fun t => ?_, fun t queues other => ?_⟩
    · by_cases inside : h.group.place t = .outside
      · exact Or.inr inside
      · have outside := (sound.alone t).resolve_right inside
        exact Or.inl (step.outside_of_outside outside fun chooses => inside (free t chooses))
    · have outside := (sound.alone t).resolve_right queues.not_outside
      have clear := sound.clear t queues other
      have unheld : room.lock.heldBy t = false := by
        by_contra held
        obtain before | ⟨_, looking, -⟩ := step.heldBy (eq_true_of_ne_false held)
        · simp [situation, before] at clear
        · cases outside.symm.trans looking
      simp only [situation, Situation.mk.injEq] at clear ⊢
      exact ⟨clear.1, clear.2.1, unheld⟩
  | @group act room step free obeys =>
    refine ⟨sound.strict, fun t => ?_, fun t queues other => ?_⟩
    · by_cases inside : h.protocol.place t = .outside
      · exact Or.inl inside
      · have outside := (sound.alone t).resolve_left inside
        exact Or.inr (step.outside_of_outside outside fun chooses => inside (free t chooses))
    · obtain before | ⟨how, rfl⟩ := step.queues queues
      · refine sound.clear t before ?_
        by_contra held
        have kept := step.heldBy_of_queues reachable.rooms.2 before (eq_true_of_ne_false held)
        exact Bool.noConfusion (kept.symm.trans other)
      · show h.situation t = _
        refine clear_of_violation?_eq_none sound.strict (obeys t how rfl) ?_
        cases step
        exact other
  | performs t op idle =>
    exact sound.of_idle idle (fun u _ => h.store.inTransaction_perform t u op) fun _ _ => rfl
  | opensScope t idle => exact sound.of_idle idle (fun u other => h.store.inTransaction_openScope other) fun _ _ => rfl
  | closesScope t commit idle =>
    exact sound.of_idle idle (fun u other => h.store.inTransaction_closeScope other commit) fun _ _ => rfl
  | turnsCritical t idle =>
    exact sound.of_idle idle (fun _ _ => rfl) fun u other => Function.update_of_ne (Ne.symm other) _ _

theorem Reachable.sound (reachable : Reachable h) : h.Sound := by
  induction reachable with
  | fresh fresh =>
    obtain ⟨⟨-, -, -⟩, ⟨-, -, outside⟩, strict⟩ := fresh
    exact ⟨strict, fun t => Or.inr (outside t), fun t queues => absurd (outside t) queues.not_outside⟩
  | step reachable step ih => exact step.sound reachable ih

/-! ## Who waits for whom -/

/-- A thread waits for a lock that another one owns. -/
def WaitsFor (h : House) (t u : Thread) : Prop :=
  h.protocol.Waits t ∧ h.protocol.lock.owner = some u ∨ h.group.Waits t ∧ h.group.lock.owner = some u

open Classical in
/-- How many threads can at most stand in a row behind each other from here: nobody waits for one who
waits for the group lock. -/
noncomputable def rank (h : House) (t : Thread) : Nat :=
  if h.group.Waits t then 2 else if h.protocol.Waits t then 1 else 0

theorem Reachable.clear_of_waits (reachable : Reachable h) (waits : h.group.Waits t) :
    h.situation t = ⟨false, false, false⟩ :=
  reachable.sound.clear t waits.queues (reachable.rooms.2.not_heldBy_of_waits waits)

theorem Reachable.rank_lt (reachable : Reachable h) (waitsFor : h.WaitsFor t u) : h.rank u < h.rank t := by
  obtain ⟨protocol, group⟩ := reachable.rooms
  obtain ⟨waits, owner⟩ | ⟨waits, owner⟩ := waitsFor
  · have owned : h.protocol.lock.heldBy u = true := Reentrant.heldBy_iff_owner.2 owner
    have notProtocol : ¬ h.protocol.Waits u := fun again =>
      Bool.noConfusion (owned.symm.trans (protocol.not_heldBy_of_waits again))
    have notGroup : ¬ h.group.Waits u := fun again => by
      have clear := reachable.clear_of_waits again
      simp [situation, owned] at clear
    have elsewhere : ¬ h.group.Waits t := fun both =>
      (reachable.sound.alone t).elim waits.queues.not_outside both.queues.not_outside
    simp [rank, notProtocol, notGroup, elsewhere, waits]
  · have owned : h.group.lock.heldBy u = true := Reentrant.heldBy_iff_owner.2 owner
    have notGroup : ¬ h.group.Waits u := fun again =>
      Bool.noConfusion (owned.symm.trans (group.not_heldBy_of_waits again))
    unfold rank
    rw [if_neg notGroup, if_pos waits]
    split <;> decide

theorem Reachable.rank_lt_of_transGen (reachable : Reachable h) (chain : Relation.TransGen h.WaitsFor t u) :
    h.rank u < h.rank t := by
  induction chain with
  | single waitsFor => exact reachable.rank_lt waitsFor
  | tail _ waitsFor ih => exact Nat.lt_trans (reachable.rank_lt waitsFor) ih

/-- As long as the order of the locks is watched, threads never wait for each other in a circle. Who
waits for the group lock has neither the protocol lock nor an open transaction, and may block; who has
the group lock can ask for either lock without breaking a rule, and gets the group lock at once. -/
theorem acyclic_waits (reachable : Reachable h) :
    (∀ t, ¬ Relation.TransGen h.WaitsFor t t) ∧
      (∀ t, h.group.Waits t →
        h.protocol.lock.heldBy t = false ∧ h.store.inTransaction t = false ∧ h.critical t = false) ∧
      ∀ t, h.group.lock.heldBy t = true → h.violation? t = none ∧
        (∀ fired now patience, h.group.lock.look t fired now patience = .enter) ∧
        (h.Idle t → ∀ how : Asking,
          Step h { h with protocol := h.protocol.put t (.looking (how.patience h.protocol.now)) } ∧
          Step h { h with group := h.group.put t (.looking (how.patience h.group.now)) }) := by
  refine ⟨fun t circle => Nat.lt_irrefl _ (reachable.rank_lt_of_transGen circle), fun t waits => ?_, fun t owner => ?_⟩
  · have clear := reachable.clear_of_waits waits
    simp only [situation, Situation.mk.injEq] at clear
    exact ⟨clear.2.2, clear.2.1, clear.1⟩
  · have obeys : h.violation? t = none := if_pos owner
    have can : h.group.lock.canEnter t = true := by simp [Reentrant.canEnter, owner]
    refine ⟨obeys, Reentrant.look_of_canEnter can, fun idle how => ⟨?_, ?_⟩⟩
    · exact .protocol (.asks how idle.1) fun u same => by cases same; exact idle.2
    · exact .group (.asks how idle.2) (fun u same => by cases same; exact idle.1)
        fun u how same => by cases same; exact obeys

set_option maxRecDepth 8192 in
/-- A thread has both locks and a transaction open; another one waits for the group lock, and a third
one for the protocol lock. -/
theorem acyclic_waits_of_three : ∃ h, Reachable h ∧ h.WaitsFor ⟨2, none⟩ ⟨1, none⟩ ∧ h.WaitsFor ⟨3, none⟩ ⟨1, none⟩ ∧
    h.situation ⟨1, none⟩ = ⟨false, true, true⟩ ∧ h.violation? ⟨1, none⟩ = none ∧
    (∀ t, ¬ Relation.TransGen h.WaitsFor t t) ∧ h.protocol.lock.heldBy ⟨2, none⟩ = false := by
  let room (name : String) : Room := ⟨.free name, [], fun _ => .outside, 0, fun _ => false⟩
  let start : House := ⟨room "protocol", room GroupLock.lockName, 5000, .strict "protocol", .memory .empty, fun _ => false⟩
  have fresh : Reachable start := .fresh ⟨⟨⟨_, rfl⟩, rfl, fun _ => rfl⟩, ⟨⟨_, rfl⟩, rfl, fun _ => rfl⟩, _, rfl⟩
  have asked := fresh.step (.group (.asks (t := ⟨1, none⟩) (.tryFor 5000) rfl)
    (by rintro _ ⟨⟩; rfl) (by rintro _ _ ⟨⟩; rfl))
  have first := asked.step (.group (.looks (t := ⟨1, none⟩) rfl 0 (by simp [Room.put, start, room]))
    (by rintro _ ⟨⟩) (by rintro _ _ ⟨⟩))
  have nested := first.step (.protocol (.asks (t := ⟨1, none⟩) .acquire rfl) (by rintro _ ⟨⟩; rfl))
  have both := nested.step (.protocol (.looks (t := ⟨1, none⟩) rfl 0 (by simp [Room.put, start, room])) (by rintro _ ⟨⟩))
  have inside := both.step (.opensScope ⟨1, none⟩ ⟨rfl, rfl⟩)
  have third := inside.step (.protocol (.asks (t := ⟨3, none⟩) .acquire rfl) (by rintro _ ⟨⟩; rfl))
  have waits := third.step (.protocol (.looks (t := ⟨3, none⟩) rfl 1 (by decide)) (by rintro _ ⟨⟩))
  have second := waits.step (.group (.asks (t := ⟨2, none⟩) (.tryFor 5000) rfl)
    (by rintro _ ⟨⟩; rfl) (by rintro _ _ ⟨⟩; rfl))
  have all := second.step (.group (.looks (t := ⟨2, none⟩) rfl 1 (by decide)) (by rintro _ ⟨⟩) (by rintro _ _ ⟨⟩))
  obtain ⟨acyclic, clear, owner⟩ := acyclic_waits all
  exact ⟨_, all, Or.inr ⟨.asleep rfl, rfl⟩, Or.inl ⟨.asleep rfl, rfl⟩, rfl, (owner ⟨1, none⟩ rfl).1, acyclic,
    (clear ⟨2, none⟩ (.asleep rfl)).1⟩

end House
end Enrolment.Lock
