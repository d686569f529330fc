import Enrolment.Proofs.Client.Clerk
import Enrolment.Proofs.Lock.House
import Enrolment.Proofs.Store.Groups
/-!
Any number of threads change any groups, each change under the group lock. They take turns at every
look at the lock and every call on the store; other threads come to the lock, use the store and end
transactions in between. Main result: those that have the lock are the ones with a guard of it
(`Step.ordered`), so that there is only one at a time (`Ordered.eq_of_inside`).
-/
namespace Enrolment.Client

open Store Activity Lock

/-- A thread at one change: the calls that it still has to make, and what it asked and was answered. -/
structure Clerk where
  thread : Thread
  id : GroupId
  change : MembershipChange
  rest : Plan effects (Except GroupError Group)
  said : Journal
  number : Nat

namespace Clerk

def begin (t : Thread) (id : GroupId) (change : MembershipChange) : Clerk :=
  ⟨t, id, change, (changeMembership id change).run, [], 0⟩

def phase (c : Clerk) : Phase :=
  c.said.foldl (fun phase exchange => phase.after c.id c.change exchange.1 exchange.2) .outside

def guard (c : Clerk) : Guard := ⟨c.number, c.thread⟩

def isBusy (c : Clerk) : Bool :=
  match c.rest with
  | .done _ => false
  | .ask _ _ => true

def returned? (c : Clerk) : Option Group :=
  match c.rest with
  | .done (.ok g) => some g
  | _ => none

def hear (c : Clerk) {call : Effect} (next : call.Answer → Plan effects (Except GroupError Group)) (answer : call.Answer) :
    Clerk :=
  { c with rest := next answer, said := c.said ++ [⟨call, answer⟩] }

theorem returned?_eq_some {c : Clerk} {g : Group} : c.returned? = some g ↔ c.rest = .done (.ok g) := by
  unfold returned?
  split
  · rename_i returned is
    simp [is]
  · rename_i other
    exact ⟨nofun, fun is => absurd is (other g)⟩

structure Proper (c : Clerk) : Prop where
  keeps : Plan.Meets (phases c.id c.change) Phase.Ends c.rest c.phase
  silent : c.phase = .outside → c.said = []
  refused : ∀ r, c.phase = .refused r → c.said = [⟨.enterGroups, .refused r⟩]

variable {c : Clerk} {call : Effect} {next : call.Answer → Plan effects (Except GroupError Group)}

theorem proper_begin (t : Thread) (id : GroupId) (change : MembershipChange) : (begin t id change).Proper :=
  ⟨changeMembership_keeps id change, fun _ => rfl, nofun⟩

theorem Proper.moves (proper : c.Proper) (asks : c.rest = .ask call next) (answer : call.Answer) :
    Phase.Moves c.id c.change call answer c.phase (c.hear next answer).phase := by
  obtain ⟨allowed, -⟩ : Plan.Meets (phases c.id c.change) Phase.Ends (.ask call next) c.phase := asks ▸ proper.keeps
  have moves := Phase.moves allowed c.change answer
  have heard : (c.hear next answer).phase = c.phase.after c.id c.change call answer := by simp [phase, hear]
  rwa [heard]

theorem Proper.hear (proper : c.Proper) (asks : c.rest = .ask call next) (answer : call.Answer) :
    (c.hear next answer).Proper := by
  obtain ⟨-, rest⟩ : Plan.Meets (phases c.id c.change) Phase.Ends (.ask call next) c.phase := asks ▸ proper.keeps
  have heard : (c.hear next answer).phase = c.phase.after c.id c.change call answer := by simp [phase, Clerk.hear]
  have moves := proper.moves asks answer
  have silent := proper.silent
  refine ⟨rest answer _ heard, fun outside => ?_, fun r refused => ?_⟩
  · rw [outside] at moves
    generalize c.phase = before at moves
    cases moves with
    | reads stored decides => simpa [decides, Phase.isInside] using Phase.isInside_decided c.id c.change stored
  · rw [refused] at moves
    generalize c.phase = before at moves silent
    cases moves with
    | refuses => simp [Clerk.hear, silent rfl]
    | reads stored decides => simpa [decides, Phase.isInside] using Phase.isInside_decided c.id c.change stored

theorem Proper.ends (proper : c.Proper) {result : Except GroupError Group} (done : c.rest = .done result) :
    Phase.Ends result c.phase := by
  simpa [done, Plan.Meets] using proper.keeps

theorem Proper.busy_of_inside (proper : c.Proper) (inside : c.phase.isInside = true) : c.isBusy = true := by
  unfold isBusy
  split
  · rename_i result done
    obtain ⟨left, -⟩ | ⟨r, refused, -⟩ := proper.ends done
    · simp [left, Phase.isInside] at inside
    · simp [refused, Phase.isInside] at inside
  · rfl

theorem Proper.returned?_eq (proper : c.Proper) (done : c.isBusy = false) : c.returned? = c.phase.group? := by
  unfold isBusy at done
  unfold returned?
  split at done
  · rename_i result is
    rw [is]
    obtain ⟨left, -⟩ | ⟨r, refused, rfl⟩ := proper.ends is
    · rw [left]
      cases result <;> rfl
    · rw [refused]
      rfl
  · cases done

end Clerk

section

variable {clerks : List Clerk} {i j : Nat} {clerk clerk' other : Clerk}

theorem getElem?_set (there : clerks[i]? = some clerk) (clerk' : Clerk) (j : Nat) :
    (clerks.set i clerk')[j]? = if i = j then some clerk' else clerks[j]? := by
  obtain ⟨within, -⟩ := List.getElem?_eq_some_iff.1 there
  split
  · rename_i same
    rw [← same, List.getElem?_set_self within]
  · rename_i different
    exact List.getElem?_set_ne different

theorem other_or_heard (there : clerks[i]? = some clerk) (found : (clerks.set i clerk')[j]? = some other) :
    i ≠ j ∧ clerks[j]? = some other ∨ i = j ∧ other = clerk' := by
  rw [getElem?_set there] at found
  split at found
  · exact Or.inr ⟨‹_›, (Option.some.inj found).symm⟩
  · exact Or.inl ⟨‹_›, found⟩

theorem old_or_new {new : Clerk} (there : (clerks ++ [new])[j]? = some clerk) :
    clerks[j]? = some clerk ∨ j = clerks.length ∧ clerk = new := by
  rw [List.getElem?_append] at there
  split at there
  · exact Or.inl there
  · rw [List.getElem?_singleton] at there
    split at there
    · exact Or.inr ⟨by omega, (Option.some.inj there).symm⟩
    · cases there

end

/-! ## Taking turns -/

structure Office where
  room : Room
  timeout : Nat
  checker : Checker
  store : DataStore
  clerks : List Clerk
  /-- Places of clerks in their list, in the order in which they got the lock. -/
  served : List Nat

namespace Office

def Busy (s : Office) (t : Thread) : Prop := ∃ clerk ∈ s.clerks, clerk.thread = t ∧ clerk.isBusy = true

def violation? (s : Office) (t : Thread) (critical holdsProtocolLock : Bool) : Option Violation :=
  (⟨s.room.lock, s.timeout, s.checker⟩ : GroupLock).violation? t ⟨critical, s.store.inTransaction t, holdsProtocolLock⟩

def admitted (s : Office) (i : Nat) (clerk : Clerk) (next : Outcome → Plan effects (Except GroupError Group))
    (number : Nat) : Office :=
  { s with
    clerks := s.clerks.set i { @Clerk.hear clerk .enterGroups next .granted with number }
    served := s.served ++ [i] }

def told (s : Office) (i : Nat) (clerk : Clerk) {call : Effect}
    (next : call.Answer → Plan effects (Except GroupError Group)) (answer : call.Answer) : Office :=
  { s with clerks := s.clerks.set i (clerk.hear next answer) }

def looked (s : Office) (i : Nat) (clerk : Clerk) (next : Outcome → Plan effects (Except GroupError Group))
    (patience : Patience) (number : Nat) : Office :=
  match s.room.lock.look clerk.thread s.room.fired s.room.now patience with
  | .enter => s.admitted i clerk next number
  | .fail e => @told s i clerk .enterGroups next (.refused (.busy (.ofAcquire e s.timeout)))
  | .sleep _ => s

/-- What can happen next. Changes are begun outside of transactions, and nobody else puts groups. -/
inductive Step (s : Office) : Office → Prop
  | begins (t : Thread) (id : GroupId) (change : MembershipChange) (free : ¬ s.Busy t)
    (outside : s.store.inTransaction t = false) : Step s { s with clerks := s.clerks ++ [.begin t id change] }
  | asks {i : Nat} {clerk : Clerk} {next : Outcome → Plan effects (Except GroupError Group)} {room : Room}
    {critical holds : Bool} (there : s.clerks[i]? = some clerk) (wants : clerk.rest = .ask .enterGroups next)
    (obeys : s.violation? clerk.thread critical holds = none)
    (step : Room.Step s.room (.asks clerk.thread (.tryFor s.timeout)) room) : Step s { s with room }
  | breaks {i : Nat} {clerk : Clerk} {next : Outcome → Plan effects (Except GroupError Group)} {critical holds : Bool}
    {v : Violation} (there : s.clerks[i]? = some clerk) (wants : clerk.rest = .ask .enterGroups next)
    (outside : s.room.place clerk.thread = .outside) (breaks : s.violation? clerk.thread critical holds = some v) :
    Step s (@told s i clerk .enterGroups next (.refused (.violation v)))
  | looks {i : Nat} {clerk : Clerk} {next : Outcome → Plan effects (Except GroupError Group)} {patience : Patience}
    {number : Nat} (there : s.clerks[i]? = some clerk) (wants : clerk.rest = .ask .enterGroups next)
    (looking : s.room.place clerk.thread = .looking patience) (new : ∀ g ∈ s.room.guards, g.number ≠ number) :
    Step s { s.looked i clerk next patience number with room := s.room.looked clerk.thread patience number }
  | performs {i : Nat} {clerk : Clerk} {op : Operation}
    {next : Except Fault op.Result → Plan effects (Except GroupError Group)} (there : s.clerks[i]? = some clerk)
    (wants : clerk.rest = .ask (.store op) next) :
    Step s { @told s i clerk (.store op) next (s.store.perform clerk.thread op).1 with
      store := (s.store.perform clerk.thread op).2 }
  /-- A call on the store may fail, and then it has done nothing. -/
  | fails {i : Nat} {clerk : Clerk} {op : Operation}
    {next : Except Fault op.Result → Plan effects (Except GroupError Group)} (there : s.clerks[i]? = some clerk)
    (wants : clerk.rest = .ask (.store op) next) (f : Fault) : Step s (@told s i clerk (.store op) next (.error f))
  | leaves {i : Nat} {clerk : Clerk} {next : Unit → Plan effects (Except GroupError Group)} {room : Room}
    (there : s.clerks[i]? = some clerk) (wants : clerk.rest = .ask .leaveGroups next)
    (step : Room.Step s.room (.drops clerk.guard) room) : Step s { @told s i clerk .leaveGroups next () with room }
  /-- Time passes, threads are woken, and those that are at no change come to the lock and leave it. -/
  | stirs {act : Act} {room : Room} (step : Room.Step s.room act room)
    (free : ∀ t, act.chooser? = some t → ¬ s.Busy t) (apart : ∀ t number, act = .looks t number → ¬ s.Busy t) :
    Step s { s with room }
  | works (t : Thread) (op : Operation) (free : ¬ s.Busy t) (other : op.putsGroup = false) :
    Step s { s with store := (s.store.perform t op).2 }
  | opensScope (t : Thread) (free : ¬ s.Busy t) : Step s { s with store := (s.store.openScope t).2 }
  | closesScope (t : Thread) (commit : Bool) (free : ¬ s.Busy t) :
    Step s { s with store := (s.store.closeScope t commit).2 }

structure Fresh (s : Office) : Prop where
  room : s.room.Fresh
  store : s.store.Lists fun _ => none
  clerks : s.clerks = []
  served : s.served = []

inductive Reachable : Office → Prop
  | fresh {s : Office} (fresh : s.Fresh) : Reachable s
  | step {s s' : Office} (reachable : Reachable s) (step : Step s s') : Reachable s'

/-! ## Who has the lock -/

/-- Clerks are on different threads while they are busy, and those inside have the guards of the lock. -/
structure Ordered (s : Office) : Prop where
  room : s.room.Sound
  proper : ∀ clerk ∈ s.clerks, clerk.Proper
  alone : ∀ (i j : Nat) (a b : Clerk), s.clerks[i]? = some a → s.clerks[j]? = some b →
    a.isBusy = true → b.isBusy = true → a.thread = b.thread → i = j
  apart : ∀ clerk ∈ s.clerks, clerk.isBusy = true → s.store.inTransaction clerk.thread = false
  guarded : ∀ clerk ∈ s.clerks, clerk.phase.isInside = true → clerk.guard ∈ s.room.guards

variable {s s' : Office} {i j : Nat} {clerk clerk' other : Clerk}

theorem Ordered.goesOn (ordered : s.Ordered) (there : s.clerks[i]? = some clerk) (busy : clerk.isBusy = true)
    (clerk' : Clerk) {room : Room} (sound : room.Sound) {store : DataStore}
    (scopes : ∀ t, s.store.inTransaction t = false → store.inTransaction t = false)
    (guards : ∀ j other, i ≠ j → s.clerks[j]? = some other → other.phase.isInside = true → other.guard ∈ room.guards)
    (proper : clerk'.Proper) (same : clerk'.thread = clerk.thread)
    (guarded : clerk'.phase.isInside = true → clerk'.guard ∈ room.guards) (served : List Nat) :
    Ordered ⟨room, s.timeout, s.checker, store, s.clerks.set i clerk', served⟩ := by
  have member := List.mem_of_getElem? there
  refine ⟨sound, fun other found => ?_, fun j k a b first second busyA busyB one => ?_, fun other found busyOther => ?_,
    fun other found inside => ?_⟩
  · obtain before | rfl := List.mem_or_eq_of_mem_set found
    · exact ordered.proper other before
    · exact proper
  · obtain ⟨-, before⟩ | ⟨rfl, rfl⟩ := other_or_heard there first <;>
      obtain ⟨-, before'⟩ | ⟨rfl, rfl⟩ := other_or_heard there second
    · exact ordered.alone j k a b before before' busyA busyB one
    · exact ordered.alone j i a clerk before there busyA busy (one.trans same)
    · exact ordered.alone i k clerk b there before' busy busyB (same.symm.trans one)
    · rfl
  · obtain before | rfl := List.mem_or_eq_of_mem_set found
    · exact scopes _ (ordered.apart other before busyOther)
    · rw [same]
      exact scopes _ (ordered.apart clerk member busy)
  · obtain ⟨j, found⟩ := List.getElem?_of_mem found
    obtain ⟨different, before⟩ | ⟨-, rfl⟩ := other_or_heard there found
    · exact guards j other different before inside
    · exact guarded inside

theorem Ordered.stirred (ordered : s.Ordered) {room : Room} (sound : room.Sound) {store : DataStore}
    (scopes : ∀ t, s.Busy t → s.store.inTransaction t = false → store.inTransaction t = false)
    (guards : ∀ g ∈ s.room.guards, s.Busy g.thread → g ∈ room.guards) : Ordered { s with room, store } := by
  have busy {clerk : Clerk} (member : clerk ∈ s.clerks) (busy : clerk.isBusy = true) : s.Busy clerk.thread :=
    ⟨clerk, member, rfl, busy⟩
  refine ⟨sound, ordered.proper, ordered.alone, fun clerk member busyHere => ?_, fun clerk member inside => ?_⟩
  · exact scopes _ (busy member busyHere) (ordered.apart clerk member busyHere)
  · have busyHere := (ordered.proper clerk member).busy_of_inside inside
    exact guards clerk.guard (ordered.guarded clerk member inside) (busy member busyHere)

theorem Ordered.eq_of_inside (ordered : s.Ordered) (there : s.clerks[i]? = some clerk) (found : s.clerks[j]? = some other)
    (inside : clerk.phase.isInside = true) (insideToo : other.phase.isInside = true) : i = j := by
  have member := List.mem_of_getElem? there
  have memberToo := List.mem_of_getElem? found
  have owner := ordered.room.held.owner_of_mem (ordered.guarded clerk member inside)
  have ownerToo := ordered.room.held.owner_of_mem (ordered.guarded other memberToo insideToo)
  exact ordered.alone i j clerk other there found ((ordered.proper clerk member).busy_of_inside inside)
    ((ordered.proper other memberToo).busy_of_inside insideToo) (Option.some.inj (owner.symm.trans ownerToo))

theorem Ordered.nobody_inside (ordered : s.Ordered) (there : s.clerks[i]? = some clerk) (busy : clerk.isBusy = true)
    (outside : clerk.phase.isInside = false) (can : s.room.lock.canEnter clerk.thread = true)
    (member : other ∈ s.clerks) : other.phase.isInside = false := by
  by_contra inside
  have inside := eq_true_of_ne_false inside
  obtain ⟨j, found⟩ := List.getElem?_of_mem member
  have owner := ordered.room.held.owner_of_mem (ordered.guarded other member inside)
  have mine : other.guard.thread = clerk.thread := by simpa [Reentrant.canEnter, Reentrant.heldBy, owner] using can
  obtain rfl := ordered.alone j i other clerk found there ((ordered.proper other member).busy_of_inside inside) busy mine
  obtain rfl := Option.some.inj (found.symm.trans there)
  exact Bool.noConfusion (inside.symm.trans outside)

theorem Ordered.told (ordered : s.Ordered) (there : s.clerks[i]? = some clerk) {call : Effect}
    {next : call.Answer → Plan effects (Except GroupError Group)} (wants : clerk.rest = .ask call next)
    (answer : call.Answer) (goesOn : (clerk.hear next answer).phase.isInside = true → clerk.phase.isInside = true)
    {store : DataStore} (scopes : ∀ t, s.store.inTransaction t = false → store.inTransaction t = false) :
    Ordered { s.told i clerk next answer with store } := by
  have member := List.mem_of_getElem? there
  refine ordered.goesOn there (by simp [Clerk.isBusy, wants]) (clerk.hear next answer) ordered.room scopes
    (fun j other _ found => ?_) ((ordered.proper clerk member).hear wants answer) rfl (fun inside => ?_) s.served
  · exact ordered.guarded other (List.mem_of_getElem? found)
  · exact ordered.guarded clerk member (goesOn inside)

theorem Ordered.turnedAway (ordered : s.Ordered) (there : s.clerks[i]? = some clerk)
    {next : Outcome → Plan effects (Except GroupError Group)} (wants : clerk.rest = .ask .enterGroups next) (r : Refusal) :
    Ordered (@Office.told s i clerk .enterGroups next (.refused r)) := by
  have moves := (ordered.proper clerk (List.mem_of_getElem? there)).moves wants (.refused r)
  refine ordered.told there wants _ (fun inside => ?_) fun _ => id
  rw [moves.of_refused.2] at inside
  cases inside

theorem Ordered.looked (ordered : s.Ordered) (there : s.clerks[i]? = some clerk)
    {next : Outcome → Plan effects (Except GroupError Group)} (wants : clerk.rest = .ask .enterGroups next)
    {patience : Patience} {number : Nat} (sound : (s.room.looked clerk.thread patience number).Sound) :
    Ordered { s.looked i clerk next patience number with room := s.room.looked clerk.thread patience number } := by
  have member := List.mem_of_getElem? there
  have proper := ordered.proper clerk member
  have busy : clerk.isBusy = true := by simp [Clerk.isBusy, wants]
  unfold Office.looked
  unfold Room.looked at sound ⊢
  cases turn : s.room.lock.look clerk.thread s.room.fired s.room.now patience with
  | enter =>
    simp only [turn] at sound ⊢
    refine ordered.goesOn there busy { @Clerk.hear clerk .enterGroups next .granted with number } sound (fun _ => id)
      (fun j other _ found inside => ?_) ?_ rfl (fun _ => ?_) _
    · exact List.mem_cons_of_mem _ (ordered.guarded other (List.mem_of_getElem? found) inside)
    · obtain ⟨keeps, silent, refused⟩ := proper.hear wants .granted
      exact ⟨keeps, silent, refused⟩
    · exact List.mem_cons_self
  | fail e =>
    simp only [turn] at sound ⊢
    exact (ordered.turnedAway there wants _).stirred sound (fun _ _ => id) fun g live _ => live
  | sleep limit =>
    simp only [turn] at sound ⊢
    exact ordered.stirred sound (fun _ _ => id) fun g live _ => live

theorem Ordered.begun (ordered : s.Ordered) {t : Thread} (id : GroupId) (change : MembershipChange) (free : ¬ s.Busy t)
    (outside : s.store.inTransaction t = false) : Ordered { s with clerks := s.clerks ++ [.begin t id change] } := by
  have away {clerk : Clerk} (member : clerk ∈ s.clerks) (busy : clerk.isBusy = true) : clerk.thread ≠ t :=
    fun same => free ⟨clerk, member, same, busy⟩
  have split {clerk : Clerk} (member : clerk ∈ s.clerks ++ [.begin t id change]) :
      clerk ∈ s.clerks ∨ clerk = .begin t id change := by
    simpa using member
  refine ⟨ordered.room, fun clerk member => ?_, fun j k a b first second busyA busyB one => ?_, fun clerk member busy => ?_,
    fun clerk member inside => ?_⟩
  · obtain before | rfl := split member
    · exact ordered.proper clerk before
    · exact Clerk.proper_begin t id change
  · obtain before | ⟨rfl, rfl⟩ := old_or_new first <;> obtain before' | ⟨rfl, rfl⟩ := old_or_new second
    · exact ordered.alone j k a b before before' busyA busyB one
    · exact absurd one (away (List.mem_of_getElem? before) busyA)
    · exact absurd one.symm (away (List.mem_of_getElem? before') busyB)
    · rfl
  · obtain before | rfl := split member
    · exact ordered.apart clerk before busy
    · exact outside
  · obtain before | rfl := split member
    · exact ordered.guarded clerk before inside
    · cases inside

theorem Step.ordered (step : Step s s') (ordered : s.Ordered) : s'.Ordered := by
  have proper {i : Nat} {clerk : Clerk} (there : s.clerks[i]? = some clerk) : clerk.Proper :=
    ordered.proper clerk (List.mem_of_getElem? there)
  cases step with
  | begins t id change free outside =>
    exact ordered.begun id change free outside
  | asks there wants obeys step =>
    refine ordered.stirred (step.sound ordered.room) (fun _ _ => id) fun g live _ => ?_
    exact step.mem_guards live nofun
  | breaks there wants outside breaks =>
    exact ordered.turnedAway there wants _
  | looks there wants looking new =>
    exact ordered.looked there wants ((Room.Step.looks looking _ new).sound ordered.room)
  | performs there wants =>
    refine ordered.told there wants _ (fun _ => ((proper there).moves wants default).isInside nofun) fun t outside => ?_
    rwa [DataStore.inTransaction_perform]
  | fails there wants f =>
    exact ordered.told there wants _ (fun _ => ((proper there).moves wants (.error f)).isInside nofun) fun _ => id
  | @leaves _ clerk next _ there wants step =>
    have inside := ((proper there).moves wants ()).isInside nofun
    refine ordered.goesOn there (by simp [Clerk.isBusy, wants]) (@Clerk.hear clerk .leaveGroups next ())
      (step.sound ordered.room) (fun _ => id) (fun j other different found insideToo => ?_)
      ((proper there).hear wants ()) rfl (fun insideStill => ?_) s.served
    · exact absurd (ordered.eq_of_inside there found inside insideToo) different
    · obtain ⟨result, -, left⟩ := ((proper there).moves wants ()).of_left
      rw [left] at insideStill
      cases insideStill
  | stirs step free apart =>
    refine ordered.stirred (step.sound ordered.room) (fun _ _ => id) fun g live busy => step.mem_guards live ?_
    rintro _ rfl rfl
    exact free g.thread rfl busy
  | works t op free other =>
    refine ordered.stirred ordered.room (fun u _ outside => ?_) fun g live _ => live
    rwa [DataStore.inTransaction_perform]
  | opensScope t free =>
    refine ordered.stirred ordered.room (fun u busy outside => ?_) fun g live _ => live
    rwa [DataStore.inTransaction_openScope s.store fun same : t = u => free (same ▸ busy)]
  | closesScope t commit free =>
    refine ordered.stirred ordered.room (fun u busy outside => ?_) fun g live _ => live
    rwa [DataStore.inTransaction_closeScope s.store fun same : t = u => free (same ▸ busy)]

end Office
end Enrolment.Client
