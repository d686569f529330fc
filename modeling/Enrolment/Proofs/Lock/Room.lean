import Enrolment.Lock.Reentrant
import Mathlib.Data.List.Nodup
import Mathlib.Logic.Function.Basic
/-!
Threads around one lock. They ask for it, look at it, sleep, wake and drop guards in any order; a look
and a drop each have the lock's state to themselves, and a drop that frees the lock wakes those asleep
only afterwards. Main result: `guards_of_owner`.

Holds are counted here without a bound, so a counter of 32 bits does the same as long as fewer than
2^32 guards live at a time.
-/
namespace Enrolment.Lock

/-- One level of ownership. It stays with the thread that got it. -/
structure Guard where
  number : Nat
  thread : Thread
  deriving DecidableEq

inductive Asking
  | acquire
  | tryFor (wait : Nat)
  | tryInterruptible (wait : Nat) (interrupt : String)

def Asking.patience (now : Nat) : Asking → Patience
  | acquire => .forever
  | tryFor wait => .until (deadline? now wait) none
  | tryInterruptible wait interrupt => .until (deadline? now wait) (some interrupt)

inductive Place
  | outside
  | looking (patience : Patience)
  | asleep (patience : Patience)
  /-- Has freed the lock, and has yet to wake those asleep. -/
  | waking

structure Room where
  lock : Reentrant
  /-- The guards that were not dropped, the latest first. -/
  guards : List Guard
  place : Thread → Place
  now : Nat
  fired : String → Bool

inductive Act
  | asks (t : Thread) (how : Asking)
  /-- Looks at the lock and, where it enters, has a guard of this number. -/
  | looks (t : Thread) (number : Nat)
  /-- Wakes at a deadline, at the end of a slice, or for no reason. -/
  | wakes (t : Thread)
  | drops (g : Guard)
  | notifies (t : Thread)
  | passes (now : Nat)
  | interrupts (name : String)

theorem Reentrant.canEnter_of_look {l : Reentrant} {t : Thread} {fired : String → Bool} {now : Nat} {patience : Patience}
    (enters : l.look t fired now patience = .enter) : l.canEnter t = true := by
  by_contra taken
  cases patience with
  | forever => simp [look, taken] at enters
  | «until» deadline interrupt =>
    simp only [look, taken] at enters
    grind

namespace Room

def Fresh (r : Room) : Prop :=
  (∃ name, r.lock = .free name) ∧ r.guards = [] ∧ ∀ t, r.place t = .outside

def put (r : Room) (t : Thread) (place : Place) : Room := { r with place := Function.update r.place t place }

/-- What becomes of a thread's look. How long it means to sleep is left out: it may wake at any time. -/
def looked (r : Room) (t : Thread) (patience : Patience) (number : Nat) : Room :=
  match r.lock.look t r.fired r.now patience with
  | .enter => { r.put t .outside with lock := r.lock.enter t, guards := ⟨number, t⟩ :: r.guards }
  | .fail _ => r.put t .outside
  | .sleep _ => r.put t (.asleep patience)

def dropped (r : Room) (g : Guard) : Room :=
  let after : Place := if r.lock.leave.owner.isNone then .waking else .outside
  { r.put g.thread after with lock := r.lock.leave, guards := r.guards.erase g }

def roused (r : Room) (t : Thread) : Room :=
  let place := fun u =>
    match r.place u with
    | .asleep patience => .looking patience
    | place => place
  { r with place := Function.update place t .outside }

inductive Step (r : Room) : Act → Room → Prop
  | asks {t : Thread} (how : Asking) (outside : r.place t = .outside) :
    Step r (.asks t how) (r.put t (.looking (how.patience r.now)))
  | looks {t : Thread} {patience : Patience} (looking : r.place t = .looking patience) (number : Nat)
    (new : ∀ g ∈ r.guards, g.number ≠ number) : Step r (.looks t number) (r.looked t patience number)
  | wakes {t : Thread} {patience : Patience} (asleep : r.place t = .asleep patience) :
    Step r (.wakes t) (r.put t (.looking patience))
  | drops {g : Guard} (live : g ∈ r.guards) (outside : r.place g.thread = .outside) : Step r (.drops g) (r.dropped g)
  | notifies {t : Thread} (waking : r.place t = .waking) : Step r (.notifies t) (r.roused t)
  | passes (now : Nat) (later : r.now ≤ now) : Step r (.passes now) { r with now }
  | interrupts (name : String) : Step r (.interrupts name) { r with fired := Function.update r.fired name true }

inductive Reachable : Room → Prop
  | fresh {r : Room} (fresh : r.Fresh) : Reachable r
  | step {r r' : Room} {act : Act} (reachable : Reachable r) (step : Step r act r') : Reachable r'

variable {r r' : Room} {t : Thread} {patience : Patience}

/-! ## What one step does -/

theorem Step.effect {act : Act} (step : Step r act r') :
    (r'.lock = r.lock ∧ r'.guards = r.guards) ∨
      (∃ t number, act = .looks t number ∧ r.lock.canEnter t = true ∧ (∀ g ∈ r.guards, g.number ≠ number) ∧
        r'.lock = r.lock.enter t ∧ r'.guards = ⟨number, t⟩ :: r.guards) ∨
      ∃ g ∈ r.guards, act = .drops g ∧ r'.lock = r.lock.leave ∧ r'.guards = r.guards.erase g := by
  cases step with
  | @looks t patience looking number new =>
    unfold looked
    cases turn : r.lock.look t r.fired r.now patience with
    | enter => exact Or.inr (Or.inl ⟨t, number, rfl, Reentrant.canEnter_of_look turn, new, rfl, rfl⟩)
    | fail e => exact Or.inl ⟨rfl, rfl⟩
    | sleep limit => exact Or.inl ⟨rfl, rfl⟩
  | drops live outside => exact Or.inr (Or.inr ⟨_, live, rfl, rfl, rfl⟩)
  | asks _ _ | wakes _ | notifies _ | passes _ _ | interrupts _ => exact Or.inl ⟨rfl, rfl⟩

end Room

/-- A lock stands as its live guards tell. -/
inductive Reentrant.Held : Reentrant → List Guard → Prop
  | free (name : String) : Held (.free name) []
  | taken (name : String) (t : Thread) (guards : List Guard) (live : guards ≠ []) (own : ∀ g ∈ guards, g.thread = t) :
    Held ⟨name, some t, some t.label, guards.length⟩ guards

namespace Reentrant

variable {l : Reentrant} {guards : List Guard}

theorem Held.enter (held : l.Held guards) {t : Thread} (can : l.canEnter t = true) (number : Nat) :
    (l.enter t).Held (⟨number, t⟩ :: guards) := by
  cases held with
  | free name => exact .taken name t [⟨number, t⟩] (by simp) (by simp)
  | taken name owner guards live own =>
    obtain rfl : owner = t := by simpa [canEnter, heldBy] using can
    exact .taken name owner (⟨number, owner⟩ :: guards) (by simp) (by simpa using own)

theorem Held.leave (held : l.Held guards) {g : Guard} (live : g ∈ guards) : l.leave.Held (guards.erase g) := by
  cases held with
  | free name => simp at live
  | taken name owner guards _ own =>
    have fewer : (guards.erase g).length = guards.length - 1 := List.length_erase_of_mem live
    unfold leave
    split
    · rename_i last
      have gone : guards.erase g = [] := by
        apply List.eq_nil_of_length_eq_zero
        simp only at last
        omega
      rw [gone]
      exact .free name
    · rename_i more
      dsimp only at more ⊢
      rw [← fewer]
      have others : guards.erase g ≠ [] := by
        rw [← List.length_pos_iff]
        omega
      exact .taken name owner _ others fun other there => own other (List.mem_of_mem_erase there)

theorem Held.owner_of_mem (held : l.Held guards) {g : Guard} (live : g ∈ guards) : l.owner = some g.thread := by
  cases held with
  | free name => simp at live
  | taken name t guards _ own => rw [own g live]

theorem Held.owner_eq_none (held : l.Held guards) : l.owner = none ↔ guards = [] := by
  cases held with
  | free name => exact ⟨fun _ => rfl, fun _ => rfl⟩
  | taken name t guards live own => simpa using live

theorem Held.ownerName_eq (held : l.Held guards) : l.ownerName = l.owner.map Thread.label := by
  cases held <;> rfl

theorem Held.holdCount_eq (held : l.Held guards) : l.holdCount = guards.length := by
  cases held <;> rfl

theorem Held.heldBy_iff (held : l.Held guards) (t : Thread) : l.heldBy t = true ↔ ∃ g ∈ guards, g.thread = t := by
  unfold heldBy
  rw [decide_eq_true_iff]
  constructor
  · intro owned
    have live : guards ≠ [] := fun none => by simp [held.owner_eq_none.2 none] at owned
    obtain ⟨g, there⟩ := List.exists_mem_of_ne_nil guards live
    have same := (held.owner_of_mem there).symm.trans owned
    exact ⟨g, there, Option.some.inj same⟩
  · rintro ⟨g, there, rfl⟩
    exact held.owner_of_mem there

end Reentrant

namespace Room

variable {r r' : Room}

/-! ## Runs -/

structure Sound (r : Room) : Prop where
  held : r.lock.Held r.guards
  distinct : (r.guards.map Guard.number).Nodup

theorem Step.sound {act : Act} (step : Step r act r') (sound : r.Sound) : r'.Sound := by
  obtain ⟨held, distinct⟩ := sound
  obtain ⟨sameLock, sameGuards⟩ | ⟨t, number, -, can, new, entered, more⟩ | ⟨g, live, -, left, fewer⟩ := step.effect
  · exact ⟨by rwa [sameLock, sameGuards], by rwa [sameGuards]⟩
  · refine ⟨by rw [entered, more]; exact held.enter can number, ?_⟩
    rw [more, List.map_cons, List.nodup_cons]
    refine ⟨fun there => ?_, distinct⟩
    obtain ⟨g, old, same⟩ := List.mem_map.1 there
    exact new g old same
  · refine ⟨by rw [left, fewer]; exact held.leave live, ?_⟩
    rw [fewer]
    exact distinct.sublist ((List.erase_sublist).map _)

theorem Reachable.sound (reachable : Reachable r) : r.Sound := by
  induction reachable with
  | fresh fresh =>
    obtain ⟨⟨name, free⟩, none, -⟩ := fresh
    exact ⟨by rw [free, none]; exact .free name, by simp [none]⟩
  | step _ step ih => exact step.sound ih

theorem Step.freed_iff {act : Act} (step : Step r act r') (sound : r.Sound) (owned : r.lock.owner ≠ none) :
    r'.lock.owner = none ↔ ∃ g, act = .drops g ∧ r.guards = [g] := by
  have after := (step.sound sound).held
  rw [after.owner_eq_none]
  have some : r.guards ≠ [] := fun none => owned (sound.held.owner_eq_none.2 none)
  obtain ⟨-, same⟩ | ⟨t, number, rfl, -, -, -, more⟩ | ⟨g, live, rfl, -, fewer⟩ := step.effect
  · rw [same]
    refine ⟨fun none => absurd none some, ?_⟩
    rintro ⟨g, rfl, only⟩
    cases step with
    | drops live outside =>
      have gone : (r.guards.erase g) = r.guards := same
      simp [only] at gone
  · simp [more]
  · rw [fewer]
    constructor
    · intro none
      refine ⟨g, rfl, ?_⟩
      have size := List.length_erase_of_mem live
      have pos := List.length_pos_of_mem live
      rw [none, List.length_nil] at size
      obtain ⟨only, isOnly⟩ := List.length_eq_one_iff.1 (show r.guards.length = 1 by omega)
      rw [isOnly, List.mem_singleton] at live
      rw [isOnly, live]
    · rintro ⟨other, same, only⟩
      cases same
      simp [only]

theorem Step.unchanged_of_fail {t : Thread} {number : Nat} {patience : Patience} (step : Step r (.looks t number) r')
    (looking : r.place t = .looking patience) {e : AcquireError}
    (fails : r.lock.look t r.fired r.now patience = .fail e) : r' = r.put t .outside := by
  cases step with
  | looks looking' _ new =>
    obtain rfl := Place.looking.inj (looking.symm.trans looking')
    simp only [looked, fails]

/-- However threads ask for a lock, wait, give up and drop guards, the lock is held by those and only
those that have guards, at most one thread at a time. It is freed by the drop of the last guard, and an
attempt that fails leaves it as it is. -/
theorem guards_of_owner (reachable : Reachable r) :
    (0 < r.lock.holdCount ↔ r.lock.owner.isSome) ∧ (r.lock.owner.isSome ↔ r.lock.ownerName.isSome) ∧
      r.guards.Nodup ∧ r.lock.holdCount = r.guards.length ∧
      (∀ g ∈ r.guards, r.lock.owner = some g.thread) ∧
      r.lock.ownerName = r.lock.owner.map Thread.label ∧
      (∀ t, r.lock.heldBy t = true ↔ ∃ g ∈ r.guards, g.thread = t) ∧
      ∀ act r', Step r act r' →
        (r.lock.owner ≠ none → (r'.lock.owner = none ↔ ∃ g, act = .drops g ∧ r.guards = [g])) ∧
        ((r'.lock = r.lock ∧ r'.guards = r.guards) ∨ (∃ t number, act = .looks t number ∧ ⟨number, t⟩ ∈ r'.guards) ∨
          ∃ g, act = .drops g) ∧
        ∀ t number patience e, act = .looks t number → r.place t = .looking patience →
          r.lock.look t r.fired r.now patience = .fail e → r' = r.put t .outside := by
  have sound := reachable.sound
  have held := sound.held
  refine ⟨?_, ?_, List.Nodup.of_map _ sound.distinct, held.holdCount_eq, fun g => held.owner_of_mem, held.ownerName_eq,
    held.heldBy_iff, fun act r' step => ⟨step.freed_iff sound, ?_, ?_⟩⟩
  · rw [held.holdCount_eq, List.length_pos_iff, Option.isSome_iff_ne_none]
    exact not_congr held.owner_eq_none.symm
  · rw [held.ownerName_eq, Option.isSome_map]
  · obtain same | ⟨t, number, granted, -, -, -, more⟩ | ⟨g, -, dropped, -⟩ := step.effect
    · exact Or.inl same
    · exact Or.inr (Or.inl ⟨t, number, granted, by simp [more]⟩)
    · exact Or.inr (Or.inr ⟨g, dropped⟩)
  · rintro t number patience e rfl looking fails
    exact step.unchanged_of_fail looking fails

/-- A thread has two guards, and another one waits asleep. -/
theorem guards_of_owner_two : ∃ r, Reachable r ∧ r.place ⟨2, none⟩ = .asleep .forever ∧
    r.lock.owner = some ⟨1, some "main"⟩ ∧ r.lock.holdCount = 2 := by
  let main : Thread := ⟨1, some "main"⟩
  let other : Thread := ⟨2, none⟩
  let start : Room := ⟨.free "protocol", [], fun _ => .outside, 0, fun _ => false⟩
  have fresh : Reachable start := .fresh ⟨⟨_, rfl⟩, rfl, fun _ => rfl⟩
  have first := (fresh.step (.asks (t := main) .acquire rfl)).step (.looks (t := main) rfl 0 (by simp [put, start]))
  have second := (first.step (.asks (t := main) .acquire rfl)).step (.looks (t := main) rfl 1 (by decide))
  have waits := (second.step (.asks (t := other) .acquire rfl)).step (.looks (t := other) rfl 2 (by decide))
  obtain ⟨-, -, -, counted, -⟩ := guards_of_owner waits
  exact ⟨_, waits, rfl, rfl, counted⟩

end Room
end Enrolment.Lock
