import Enrolment.Proofs.Lock.Room
/-!
Who sleeps at a lock. A thread that frees the lock wakes the others only afterwards; meanwhile one of
them may take the lock and another one go to sleep. Main result: who sleeps while the lock is free is
still to be woken, and can enter then (`woken_of_free`).
-/
namespace Enrolment.Lock

theorem Reentrant.look_of_canEnter {l : Reentrant} {t : Thread} (can : l.canEnter t = true) (fired : String → Bool)
    (now : Nat) (patience : Patience) : l.look t fired now patience = .enter := by
  cases patience <;> simp [look, can]

theorem Reentrant.canEnter_of_free {l : Reentrant} (free : l.owner = none) (t : Thread) : l.canEnter t = true := by
  simp [canEnter, free]

namespace Room

variable {r r' : Room} {t : Thread} {patience : Patience}

theorem owner_looked (r : Room) (t : Thread) (patience : Patience) (number : Nat) :
    (r.looked t patience number).lock.owner ≠ none := by
  intro free
  unfold looked at free
  cases turn : r.lock.look t r.fired r.now patience with
  | enter =>
    simp only [turn, Reentrant.enter] at free
    split at free
    · cases free
    · rename_i taken
      exact absurd (taken.symm.trans free) (Option.some_ne_none _)
  | fail e | sleep limit =>
    simp only [turn] at free
    have entered := Reentrant.look_of_canEnter (Reentrant.canEnter_of_free free t) r.fired r.now patience
    exact Turn.noConfusion (turn.symm.trans entered)

theorem place_put (r : Room) (t u : Thread) (place : Place) :
    (r.put t place).place u = if u = t then place else r.place u :=
  Function.update_apply _ _ _ _

theorem place_roused_of_asleep (asleep : r.place t = .asleep patience) {u : Thread} (waking : r.place u = .waking) :
    (r.roused u).place t = .looking patience := by
  have other : t ≠ u := by
    rintro rfl
    cases asleep.symm.trans waking
  unfold roused
  simp only [Function.update_of_ne other, asleep]

theorem place_roused_ne_asleep (r : Room) (u t : Thread) (patience : Patience) :
    (r.roused u).place t ≠ .asleep patience := by
  intro asleep
  unfold roused at asleep
  by_cases same : t = u
  · subst same
    simp only [Function.update_self] at asleep
    cases asleep
  · simp only [Function.update_of_ne same] at asleep
    split at asleep
    · cases asleep
    · rename_i awake
      exact awake patience asleep

/-- While the lock is free, somebody has yet to wake those asleep, or nobody is. -/
def Attended (r : Room) : Prop :=
  r.lock.owner = none → (∃ u, r.place u = .waking) ∨ ∀ t patience, r.place t ≠ .asleep patience

/-- Whoever goes on without freeing the lock or waking the others leaves matters as they are, unless
he goes to sleep. -/
theorem Attended.put (attended : r.Attended) {place : Place} (calm : r.place t ≠ .waking)
    (up : ∀ patience, place ≠ .asleep patience) : (r.put t place).Attended := by
  intro free
  rcases attended free with ⟨u, waking⟩ | awake
  · have other : u ≠ t := fun same => calm (same ▸ waking)
    exact Or.inl ⟨u, by rw [place_put, if_neg other, waking]⟩
  · refine Or.inr fun u patience asleep => ?_
    rw [place_put] at asleep
    split at asleep
    · exact up patience asleep
    · exact awake u patience asleep

theorem Step.attended {act : Act} (step : Step r act r') (attended : r.Attended) : r'.Attended := by
  cases step with
  | asks how outside => exact attended.put (by simp [outside]) (by simp)
  | looks looking number new => exact fun free => absurd free (owner_looked _ _ _ _)
  | wakes asleep => exact attended.put (by simp [asleep]) (by simp)
  | @drops g live outside =>
    intro free
    refine Or.inl ⟨g.thread, ?_⟩
    have freed : r.lock.leave.owner = none := free
    simp [dropped, freed, put]
  | notifies waking => exact fun _ => Or.inr (place_roused_ne_asleep r _)
  | passes now later => exact attended
  | interrupts name => exact attended

theorem Reachable.attended (reachable : Reachable r) : r.Attended := by
  induction reachable with
  | fresh fresh =>
    obtain ⟨-, -, outside⟩ := fresh
    exact fun _ => Or.inr fun t patience => by simp [outside t]
  | step _ step ih => exact step.attended ih

/-- However threads look, sleep, wake for no reason and leave, no wake-up is lost: when the lock is
free and a thread sleeps, another one that freed it has yet to wake everybody, and once it does so the
lock lets the sleeper in. -/
theorem woken_of_free (reachable : Reachable r) (free : r.lock.owner = none) (asleep : r.place t = .asleep patience) :
    ∃ u, r.place u = .waking ∧ ∃ r', Step r (.notifies u) r' ∧ r'.place t = .looking patience ∧
      r'.lock.look t r'.fired r'.now patience = .enter := by
  rcases reachable.attended free with ⟨u, waking⟩ | awake
  · refine ⟨u, waking, _, .notifies waking, place_roused_of_asleep asleep waking, ?_⟩
    exact Reentrant.look_of_canEnter (Reentrant.canEnter_of_free free t) _ _ _
  · exact absurd asleep (awake t patience)

/-- A thread frees the lock and is late to say so: a second one takes the lock, a third one goes to
sleep, and the second one frees the lock as well. -/
theorem woken_of_free_late : ∃ r, Reachable r ∧ r.lock.owner = none ∧ r.place ⟨3, none⟩ = .asleep .forever ∧
    r.place ⟨1, some "main"⟩ = .waking ∧ ∃ u, r.place u = .waking ∧ ∃ r', Step r (.notifies u) r' ∧
      r'.place ⟨3, none⟩ = .looking .forever ∧ r'.lock.look ⟨3, none⟩ r'.fired r'.now .forever = .enter := by
  let main : Thread := ⟨1, some "main"⟩
  let second : Thread := ⟨2, none⟩
  let third : Thread := ⟨3, none⟩
  let start : Room := ⟨.free "protocol", [], fun _ => .outside, 0, fun _ => false⟩
  have fresh : Reachable start := .fresh ⟨⟨_, rfl⟩, rfl, fun _ => rfl⟩
  have first := (fresh.step (.asks (t := main) .acquire rfl)).step (.looks (t := main) rfl 0 (by simp [put, start]))
  have freed := first.step (.drops (g := ⟨0, main⟩) (by decide) rfl)
  have taken := (freed.step (.asks (t := second) .acquire rfl)).step (.looks (t := second) rfl 1 (by decide))
  have waits := (taken.step (.asks (t := third) .acquire rfl)).step (.looks (t := third) rfl 2 (by decide))
  have again := waits.step (.drops (g := ⟨1, second⟩) (by decide) rfl)
  exact ⟨_, again, rfl, rfl, rfl, woken_of_free again rfl rfl⟩

end Room
end Enrolment.Lock
