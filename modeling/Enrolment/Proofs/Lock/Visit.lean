import Enrolment.Lock.Yard
import Enrolment.Proofs.Lock.House
/-!
A visit to the group lock, while others wait for it or are about to leave it. Main statements: until a
thread has its answer the others are all that moves, apart from its own step into the lock
(`Yard.Away.visits`), and that step is undone when it leaves (`Yard.Course.leaves`).
-/
namespace Enrolment.Lock

namespace Reentrant

/-- A thread of some kind takes a step into the lock or out of it. -/
inductive Stirs (kind : Thread → Prop) (l : Reentrant) : Reentrant → Prop
  | enters {u : Thread} (is : kind u) (can : l.canEnter u = true) : Stirs kind l (l.enter u)
  | leaves {u : Thread} (is : kind u) (owns : l.heldBy u = true) : Stirs kind l l.leave

abbrev Stirred (kind : Thread → Prop) : Reentrant → Reentrant → Prop := Relation.ReflTransGen (Stirs kind)

variable {kind : Thread → Prop} {l l' : Reentrant} {t : Thread} {guards : List Guard}

theorem Stirred.held (held : ∃ guards, l.Held guards) (stirred : Stirred kind l l') : ∃ guards, l'.Held guards := by
  induction stirred with
  | refl => exact held
  | tail _ step ih =>
    obtain ⟨guards, held⟩ := ih
    cases step with
    | enters _ can => exact ⟨_, held.enter can 0⟩
    | leaves _ owns =>
      obtain ⟨g, live, -⟩ := (held.heldBy_iff _).1 owns
      exact ⟨_, held.leave live⟩

theorem Stirred.eq_of_heldBy (owned : l.heldBy t = true) (other : ¬ kind t) (stirred : Stirred kind l l') : l' = l := by
  induction stirred with
  | refl => rfl
  | tail _ step ih =>
    subst ih
    rw [heldBy_iff_owner] at owned
    cases step with
    | enters is can => simp_all [canEnter, heldBy]
    | leaves is owns => simp_all [heldBy]

theorem Stirred.eq_of_none (none_ : ∀ u, ¬ kind u) (stirred : Stirred kind l l') : l' = l := by
  rcases stirred.cases_tail with same | ⟨_, -, step⟩
  · exact same
  · cases step with
    | enters is | leaves is => exact absurd is (none_ _)

theorem heldBy_enter (can : l.canEnter t = true) : (l.enter t).heldBy t = true := by
  rw [heldBy_iff_owner]
  unfold enter
  split
  · rfl
  · simp_all [canEnter, heldBy]

theorem Held.leave_enter (held : l.Held guards) (can : l.canEnter t = true) : (l.enter t).leave = l := by
  cases held with
  | free name => rfl
  | taken name owner guards live own =>
    have pos := List.length_pos_iff.2 live
    exact if_neg (show ¬ guards.length + 1 ≤ 1 by omega)

end Reentrant

namespace Yard

variable {y : Yard} {kind : Thread → Prop} {t : Thread} {l₀ : Reentrant}

def answer (y : Yard) (u : Thread) (outcome : Outcome) : Yard := { y with answered := y.answered ++ [(u, outcome)] }

/-! ## Looking -/

theorem look_cases (y : Yard) (w : Wish) :
    (y.lock w.which).canEnter w.thread = true ∧
        y.look w = (some .granted, y.setLock ((y.lock w.which).enter w.thread) w.which) ∨
      (∃ r, y.look w = (some (.refused r), y)) ∨ y.look w = (none, y) := by
  unfold look
  split
  · rename_i enters
    exact Or.inl ⟨Reentrant.canEnter_of_look enters, rfl⟩
  · exact Or.inr (Or.inl ⟨_, rfl⟩)
  · exact Or.inr (Or.inr rfl)

theorem lookAll_keeps (held : Yard → List Wish → Prop)
    (grants : ∀ y w rest, held y (w :: rest) → (y.lock w.which).canEnter w.thread = true →
      held ((y.setLock ((y.lock w.which).enter w.thread) w.which).answer w.thread .granted) rest)
    (refuses : ∀ y w rest r, held y (w :: rest) → held (y.answer w.thread (.refused r)) rest)
    (sleeps : ∀ y w rest, held y (w :: rest) → held { y with waiting := y.waiting ++ [w] } rest)
    {y : Yard} {ws : List Wish} (start : held y ws) : held (y.lookAll ws) [] := by
  induction ws generalizing y with
  | nil => exact start
  | cons w rest ih =>
    unfold lookAll
    rcases y.look_cases w with ⟨can, is⟩ | ⟨r, is⟩ | is <;> rw [is]
    · exact ih (grants y w rest start can)
    · exact ih (refuses y w rest r start)
    · exact ih (sleeps y w rest start)

structure Bystanders (kind : Thread → Prop) (l₀ : Reentrant) (y : Yard) (ws : List Wish) : Prop where
  only : ∀ w ∈ y.waiting ++ ws, kind w.thread
  stirred : Reentrant.Stirred kind l₀ y.groupLock.lock

theorem Bystanders.lookAll {ws : List Wish} (bystanders : Bystanders kind l₀ y ws) :
    Bystanders kind l₀ (y.lookAll ws) [] := by
  refine lookAll_keeps _ (fun y w rest left can => ?_) (fun y w rest r left => ?_) (fun y w rest left => ?_) bystanders
  · obtain ⟨only, stirred⟩ := left
    have here : kind w.thread := only w (by simp)
    refine ⟨fun w' there => only w' ?_, ?_⟩
    · cases which : w.which <;> simp_all [answer, setLock] <;> tauto
    · cases which : w.which with
      | protocol => exact stirred
      | group =>
        rw [which] at can
        exact stirred.tail (.enters here can)
  · exact ⟨fun w' there => left.only w' (by simp_all [answer]; tauto), left.stirred⟩
  · exact ⟨fun w' there => left.only w' (by simpa using there), left.stirred⟩

/-! ## Waiting -/

/-- What was made of the lock until a thread has this outcome: steps of the others, and its own one into the lock
if it was granted. -/
inductive Course (kind : Thread → Prop) (t : Thread) (l₀ : Reentrant) : Outcome → Reentrant → Prop
  | granted {l l' : Reentrant} (before : Reentrant.Stirred kind l₀ l) (can : l.canEnter t = true)
    (after : Reentrant.Stirred kind (l.enter t) l') : Course kind t l₀ .granted l'
  | refused (r : Refusal) {l : Reentrant} (stirred : Reentrant.Stirred kind l₀ l) : Course kind t l₀ (.refused r) l

theorem Course.tail {outcome : Outcome} {l l' : Reentrant} (course : Course kind t l₀ outcome l)
    (stirs : Reentrant.Stirs kind l l') : Course kind t l₀ outcome l' := by
  cases course with
  | granted before can after => exact .granted before can (after.tail stirs)
  | refused r stirred => exact .refused r (stirred.tail stirs)

/-- How far a thread is that asked for the group lock, while others of some kind wait with it or are to look. -/
inductive Stage (kind : Thread → Prop) (t : Thread) (l₀ : Reentrant) (y : Yard) (ws : List Wish) : Prop
  | waiting (unanswered : ∀ e ∈ y.answered, e.1 ≠ t) (once : (y.waiting ++ ws).countP (·.thread = t) = 1)
    (own : ∀ w ∈ y.waiting ++ ws, w.thread = t ∧ w.which = .group ∨ kind w.thread)
    (stirred : Reentrant.Stirred kind l₀ y.groupLock.lock)
  | answered (outcome : Outcome) (found : y.answered.find? (·.1 = t) = some (t, outcome))
    (only : ∀ w ∈ y.waiting ++ ws, kind w.thread) (course : Course kind t l₀ outcome y.groupLock.lock)

section

variable (outside : ¬ kind t) {ws ws' : List Wish} {w : Wish}

theorem Stage.perm (stage : Stage kind t l₀ y ws) {y' : Yard} (same : (y'.waiting ++ ws').Perm (y.waiting ++ ws))
    (answered : y'.answered = y.answered) (lock : y'.groupLock.lock = y.groupLock.lock) : Stage kind t l₀ y' ws' := by
  cases stage with
  | waiting unanswered once own stirred =>
    refine .waiting (answered ▸ unanswered) ?_ (fun w there => own w (same.mem_iff.1 there)) (lock ▸ stirred)
    rw [same.countP_eq, once]
  | answered outcome found only course =>
    exact .answered outcome (answered ▸ found) (fun w there => only w (same.mem_iff.1 there)) (lock ▸ course)

theorem Stage.stirs (stage : Stage kind t l₀ y ws) {l : Reentrant} (stirs : Reentrant.Stirs kind y.groupLock.lock l) :
    Stage kind t l₀ (y.setLock l .group) ws := by
  cases stage with
  | waiting unanswered once own stirred => exact .waiting unanswered once own (stirred.tail stirs)
  | answered outcome found only course => exact .answered outcome found only (course.tail stirs)

theorem Stage.kind_of_ne (stage : Stage kind t l₀ y ws) (there : w ∈ y.waiting ++ ws) (other : w.thread ≠ t) : kind w.thread := by
  cases stage with
  | waiting _ _ own _ => exact (own w there).resolve_left fun same => other same.1
  | answered _ _ only _ => exact only w there

theorem Stage.other (stage : Stage kind t l₀ y (w :: ws)) (other : w.thread ≠ t) (outcome : Outcome) :
    Stage kind t l₀ (y.answer w.thread outcome) ws := by
  have fewer : ∀ w' ∈ y.waiting ++ ws, w' ∈ y.waiting ++ w :: ws := by
    simp +contextual [or_imp]
  cases stage with
  | waiting unanswered once own stirred =>
    refine .waiting ?_ ?_ (fun w' there => own w' (fewer w' there)) stirred
    · intro e there
      rcases List.mem_append.1 there with old | new
      · exact unanswered e old
      · rw [List.mem_singleton.1 new]
        exact other
    · show (y.waiting ++ ws).countP _ = 1
      simpa [List.countP_append, List.countP_cons, other] using once
  | answered outcome' found only course =>
    refine .answered outcome' ?_ (fun w' there => only w' (fewer w' there)) course
    show (y.answered ++ _).find? _ = _
    rw [List.find?_append, found]
    rfl

include outside in
theorem Stage.own (stage : Stage kind t l₀ y (w :: ws)) (same : w.thread = t) :
    w.which = .group ∧ (∀ e ∈ y.answered, e.1 ≠ t) ∧ (∀ w' ∈ y.waiting ++ ws, kind w'.thread) ∧
      Reentrant.Stirred kind l₀ y.groupLock.lock := by
  have fewer : ∀ w' ∈ y.waiting ++ ws, w' ∈ y.waiting ++ w :: ws := by
    simp +contextual [or_imp]
  have here : w ∈ y.waiting ++ w :: ws := by simp
  cases stage with
  | waiting unanswered once own stirred =>
    have none : (y.waiting ++ ws).countP (·.thread = t) = 0 := by
      simpa [List.countP_append, List.countP_cons, same, ← Nat.add_assoc] using once
    refine ⟨?_, unanswered, fun w' there => ?_, stirred⟩
    · rcases own w here with ⟨-, group⟩ | is
      · exact group
      · exact absurd (same ▸ is) outside
    · rcases own w' (fewer w' there) with ⟨again, -⟩ | is
      · exact absurd again (by simpa using List.countP_eq_zero.1 none w' there)
      · exact is
  | answered outcome found only course => exact absurd (same ▸ only w here) outside

theorem Stage.answered_own {outcome : Outcome} (unanswered : ∀ e ∈ y.answered, e.1 ≠ t)
    (only : ∀ w ∈ y.waiting ++ ws, kind w.thread) (course : Course kind t l₀ outcome y.groupLock.lock) :
    Stage kind t l₀ (y.answer t outcome) ws := by
  refine .answered outcome ?_ only course
  show (y.answered ++ _).find? _ = _
  rw [List.find?_append, List.find?_eq_none.2 (by simpa using unanswered)]
  simp

include outside in
theorem Stage.lookAll (stage : Stage kind t l₀ y ws) : Stage kind t l₀ (y.lookAll ws) [] := by
  refine lookAll_keeps _ (fun y w rest stage can => ?_) (fun y w rest r stage => ?_) (fun y w rest stage => ?_) stage
  · by_cases same : w.thread = t
    · obtain ⟨which, unanswered, only, stirred⟩ := stage.own outside same
      rw [which, same] at can ⊢
      exact .answered_own unanswered only (.granted stirred can .refl)
    · have later := stage.other same .granted
      have here := stage.kind_of_ne (by simp) same
      cases which : w.which with
      | protocol => exact later.perm (.refl _) rfl rfl
      | group =>
        rw [which] at can
        exact later.stirs (.enters here can)
  · by_cases same : w.thread = t
    · obtain ⟨-, unanswered, only, stirred⟩ := stage.own outside same
      rw [same]
      exact .answered_own unanswered only (.refused r stirred)
    · exact stage.other same _
  · exact stage.perm (by simp) rfl rfl

end

/-! ## Asking and leaving -/

/-- A thread is about to look, or to leave the group lock. -/
def Present (y : Yard) (u : Thread) : Prop := (∃ w ∈ y.waiting, w.thread = u) ∨ ∃ a ∈ y.alarms, a.thread = u

/-- A thread has nothing to do with the locks at the moment. -/
structure Away (y : Yard) (t : Thread) : Prop where
  absent : ¬ y.Present t
  unanswered : ∀ e ∈ y.answered, e.1 ≠ t

theorem alarms_lookAll (y : Yard) (ws : List Wish) : (y.lookAll ws).alarms = y.alarms := by
  refine lookAll_keeps (fun y' _ => y'.alarms = y.alarms) (fun y' w _ same _ => ?_) (fun _ _ _ _ same => same)
    (fun _ _ _ same => same) rfl
  cases w.which <;> exact same

theorem Away.askGroup (away : y.Away t) (inTransaction : Bool) (wait : Nat) (interrupt : Option String) :
    Stage y.Present t y.groupLock.lock (y.askGroup t inTransaction wait interrupt) [] ∧
      ∀ a ∈ (y.askGroup t inTransaction wait interrupt).alarms, y.Present a.thread := by
  have present : ∀ w ∈ y.waiting, y.Present w.thread := fun w there => Or.inl ⟨w, there, rfl⟩
  have alarms : ∀ a ∈ y.alarms, y.Present a.thread := fun a there => Or.inr ⟨a, there, rfl⟩
  unfold Yard.askGroup
  split
  · exact ⟨.answered_own away.unanswered (by simpa using present) (.refused _ .refl), alarms⟩
  · refine ⟨.lookAll away.absent (.waiting away.unanswered ?_ ?_ .refl), ?_⟩
    · have none : y.waiting.countP (·.thread = t) = 0 := by
        refine List.countP_eq_zero.2 fun w there => ?_
        have other : w.thread ≠ t := fun same => away.absent (same ▸ present w there)
        simpa using other
      rw [List.countP_append, none]
      simp [boundedWish]
    · simp +contextual [or_imp, present, boundedWish]
    · rwa [ask, alarms_lookAll]

theorem perm_wake (y : Yard) (which : Which) :
    (y.waiting.filter (·.which ≠ which) ++ y.waiting.filter (·.which = which)).Perm y.waiting := by
  refine List.perm_append_comm.trans ?_
  have parts := List.filter_append_perm (fun w : Wish => decide (w.which = which)) y.waiting
  simpa using parts

theorem Stage.leave (outside : ¬ kind t) (stage : Stage kind t l₀ y []) {u : Thread} (is : kind u) :
    Stage kind t l₀ ((y.leave u .group).getD y) [] ∧ ((y.leave u .group).getD y).alarms = y.alarms := by
  unfold Yard.leave
  by_cases owns : (y.lock .group).heldBy u = true
  · have left := stage.stirs (.leaves is owns)
    rw [if_pos owns]
    dsimp only
    split
    · refine ⟨.lookAll outside (left.perm ?_ rfl rfl), alarms_lookAll _ _⟩
      rw [List.append_nil]
      exact perm_wake (y.setLock (y.lock .group).leave .group) .group
    · exact ⟨left, rfl⟩
  · rw [if_neg owns]
    exact ⟨stage, rfl⟩

theorem nextEvent?_cases {time : Nat} {event : Event} (next : y.nextEvent? = some (time, event)) :
    (∃ a ∈ y.alarms, event = .release a) ∨ ∃ w ∈ y.waiting, event = .look w := by
  have there : (time, event) ∈ y.alarms.map (fun a => (a.time, Event.release a)) ++
      y.waiting.filterMap fun w => (Wish.nextLook? y w).map (·, Event.look w) := by
    revert next
    unfold nextEvent?
    refine List.foldlRecOn (motive := fun best => best = some (time, event) → _) _ _ nofun ?_
    intro best ih e member is
    cases best with
    | none => exact Option.some.inj is ▸ member
    | some b =>
      dsimp only at is
      split at is
      · exact Option.some.inj is ▸ member
      · exact ih is
  rcases List.mem_append.1 there with released | looks
  · obtain ⟨a, member, is⟩ := List.mem_map.1 released
    exact Or.inl ⟨a, member, (Prod.mk.inj is).2.symm⟩
  · obtain ⟨w, member, is⟩ := List.mem_filterMap.1 looks
    obtain ⟨_, -, is⟩ := Option.map_eq_some_iff.1 is
    exact Or.inr ⟨w, member, (Prod.mk.inj is).2.symm⟩

theorem Stage.happen (outside : ¬ kind t) (stage : Stage kind t l₀ y []) (alarms : ∀ a ∈ y.alarms, kind a.thread)
    {time : Nat} {event : Event} (next : y.nextEvent? = some (time, event)) (now : Nat) :
    Stage kind t l₀ (Yard.happen { y with now } event) [] ∧ ∀ a ∈ (Yard.happen { y with now } event).alarms, kind a.thread := by
  rcases nextEvent?_cases next with ⟨a, there, rfl⟩ | ⟨w, there, rfl⟩
  · obtain ⟨left, same⟩ := Stage.leave (y := { y with now, alarms := y.alarms.erase a }) outside
      (stage.perm (.refl _) rfl rfl) (alarms a there)
    exact ⟨left, fun b later => alarms b (List.mem_of_mem_erase (same ▸ later))⟩
  · refine ⟨.lookAll outside (stage.perm ?_ rfl rfl), ?_⟩
    · rw [List.append_nil]
      exact List.perm_append_comm.trans (List.perm_cons_erase there).symm
    · show ∀ a ∈ (Yard.lookAll _ _).alarms, _
      rwa [alarms_lookAll]

theorem awaitWithin_of_found {fuel : Nat} {entry : Thread × Outcome} (found : y.answered.find? (·.1 = t) = some entry) :
    y.awaitWithin fuel t = some (entry.2, { y with answered := y.answered.erase entry }) := by
  unfold awaitWithin
  rw [found]

theorem Stage.await (outside : ¬ kind t) {fuel : Nat} (stage : Stage kind t l₀ y []) (alarms : ∀ a ∈ y.alarms, kind a.thread)
    {outcome : Outcome} {y' : Yard} (awaited : y.awaitWithin fuel t = some (outcome, y')) :
    Course kind t l₀ outcome y'.groupLock.lock ∧ ∀ w ∈ y'.waiting, kind w.thread := by
  induction fuel generalizing y with
  | zero =>
    cases stage with
    | waiting unanswered _ _ _ =>
      unfold awaitWithin at awaited
      rw [List.find?_eq_none.2 (by simpa using unanswered)] at awaited
      cases awaited
    | answered _ found only course =>
      cases (awaitWithin_of_found found).symm.trans awaited
      exact ⟨course, by simpa using only⟩
  | succ fuel ih =>
    cases stage with
    | waiting unanswered once own stirred =>
      unfold awaitWithin at awaited
      rw [List.find?_eq_none.2 (by simpa using unanswered)] at awaited
      cases next : y.nextEvent? with
      | none =>
        rw [next] at awaited
        cases awaited
      | some e =>
        rw [next] at awaited
        obtain ⟨later, alarms'⟩ := Stage.happen outside (.waiting unanswered once own stirred) alarms next _
        exact ih later alarms' awaited
    | answered _ found only course =>
      cases (awaitWithin_of_found found).symm.trans awaited
      exact ⟨course, by simpa using only⟩

/-- Until a thread that asked for the lock has its answer, and if it never has one, the others are all that
moves, apart from its own step into the lock. -/
theorem Away.visits (away : y.Away t) (inTransaction : Bool) (wait : Nat) (interrupt : Option String) :
    let asked := y.askGroup t inTransaction wait interrupt
    (∀ outcome y', asked.await t = some (outcome, y') →
      Course y.Present t y.groupLock.lock outcome y'.groupLock.lock ∧ ∀ w ∈ y'.waiting, y.Present w.thread) ∧
      (asked.await t = none → Reentrant.Stirred y.Present y.groupLock.lock asked.groupLock.lock) := by
  obtain ⟨stage, alarms⟩ := away.askGroup inTransaction wait interrupt
  refine ⟨fun outcome y' => stage.await away.absent alarms, fun never => ?_⟩
  cases stage with
  | waiting _ _ _ stirred => exact stirred
  | answered _ found _ _ => cases (awaitWithin_of_found found).symm.trans never

/-- A thread that got the lock leaves it, and what it did to the lock is undone. -/
theorem Course.leaves (outside : ¬ kind t) (held : ∃ guards, l₀.Held guards) (course : Course kind t l₀ .granted y.groupLock.lock)
    (only : ∀ w ∈ y.waiting, kind w.thread) : Reentrant.Stirred kind l₀ ((y.leave t .group).getD y).groupLock.lock := by
  generalize inside : y.groupLock.lock = lock at course
  cases course with
  | @granted l _ before can after =>
    obtain rfl := after.eq_of_heldBy (Reentrant.heldBy_enter can) outside
    obtain ⟨guards, held⟩ := before.held held
    have left : (y.lock .group).leave = l := by rw [← held.leave_enter can, ← inside]; rfl
    unfold Yard.leave
    rw [if_pos (by rw [lock, inside]; exact Reentrant.heldBy_enter can), left]
    dsimp only
    split
    · refine (Bystanders.lookAll ⟨fun w there => only w ?_, before⟩).stirred
      exact (perm_wake (y.setLock l .group) .group).mem_iff.1 there
    · exact before

end Yard
end Enrolment.Lock
