import Enrolment.Proofs.Client.Clerk
import Enrolment.Proofs.Client.Run
import Enrolment.Proofs.Lock.Visit
import Enrolment.Proofs.Store.OneGroup
/-!
What one change of a group's membership comes to on a client: in the group and what is stored of it
(`run_changeGuarded`), and in the group lock (`changeMembership_amends`). Whichever way the change ends,
the lock is as if the thread had never asked for it.
-/
namespace Enrolment.Client

open Store Lock Activity

/-! ## The group -/

section

variable (s : DataStore) (t : Thread) (id : GroupId) (change : MembershipChange)

def MembershipChange.Alters (before : Group) : Prop := change.intended before.members.accounts ≠ before.members.accounts

/-- A group as it was, and as a change that makes a difference leaves it. -/
structure Revision (before after : Group) : Prop where
  id : after.id = before.id
  members : after.members.accounts = change.intended before.members.accounts
  revision : after.revision.toNat = before.revision.toNat + 1

/-- What a change makes of a group that was read. -/
structure Revises (before : Group) (result : Except GroupError Group) (s' : DataStore) : Prop where
  idle : ¬ change.Alters before → result = .ok before ∧ s' = s
  last : change.Alters before → before.revision.toNat = 4294967295 → result = .error .revisionOverflow ∧ s' = s
  locked : change.Alters before → before.revision.toNat ≠ 4294967295 → ¬ s.Ready t (s.stock t) →
    result = .error (.store (.ofMedium .sql)) ∧ s' = s
  made : change.Alters before → before.revision.toNat ≠ 4294967295 → s.Ready t (s.stock t) →
    ∃ after, result = .ok after ∧ Revision change before after ∧ s' = s.shelve t ((s.stock t).putGroup after) ∧
      (s'.stock t).Holds before.id (some after) ∧
      (s.inTransaction t = false → ∀ u, (s'.stock u).Holds before.id (some after))

/-- What a change comes to under the lock. A group that is unknown has no members. -/
structure Amends (result : Except GroupError Group) (s' : DataStore) : Prop where
  unreached : ¬ s.Reaches t → result = .error (.store (.ofMedium .sql)) ∧ s' = s
  damaged : s.Reaches t → (s.stock t).Damaged id → (∃ f, result = .error (.store f)) ∧ s' = s
  known : s.Reaches t → ∀ stored, (s.stock t).Holds id stored → Revises s t change (stored.getD (.new id)) result s'
  others : ∀ u, (s'.stock u).sparing id = (s.stock u).sparing id

end

section

variable {κ σ : Type} {c : Installation κ σ} {s : DataStore} {t : Thread} {id : GroupId} {change : MembershipChange}

section

variable {before : Group}

private theorem Revises.of_same (same : ¬ change.Alters before) : Revises s t change before (.ok before) s :=
  ⟨fun _ => ⟨rfl, rfl⟩, fun alters => absurd alters same, fun alters => absurd alters same, fun alters => absurd alters same⟩

variable (alters : change.Alters before)
include alters

private theorem Revises.of_last (last : before.revision.toNat = 4294967295) :
    Revises s t change before (.error .revisionOverflow) s :=
  ⟨fun same => absurd alters same, fun _ _ => ⟨rfl, rfl⟩, fun _ notLast => absurd last notLast,
    fun _ notLast => absurd last notLast⟩

variable (notLast : before.revision.toNat ≠ 4294967295)
include notLast

private theorem Revises.of_locked (locked : ¬ s.Ready t (s.stock t)) :
    Revises s t change before (.error (.store (.ofMedium .sql))) s :=
  ⟨fun same => absurd alters same, fun _ last => absurd last notLast, fun _ _ _ => ⟨rfl, rfl⟩,
    fun _ _ ready => absurd ready locked⟩

private theorem Revises.of_made {after : Group} (ready : s.Ready t (s.stock t)) (revision : Revision change before after) :
    Revises s t change before (.ok after) (s.shelve t ((s.stock t).putGroup after)) := by
  have ready' := ready.putGroup after
  have holds : ((s.stock t).putGroup after).Holds before.id (some after) := revision.id ▸ Stock.holds_putGroup _ after
  refine ⟨fun same => absurd alters same, fun _ last => absurd last notLast, fun _ _ locked => absurd ready locked,
    fun _ _ _ => ⟨after, rfl, revision, rfl, ?_, fun outside u => ?_⟩⟩
  · rwa [DataStore.stock_shelve ready']
  · rwa [DataStore.stock_shelve_of_outside ready' outside]

end

private theorem Amends.of_unreached (unreached : ¬ s.Reaches t) : Amends s t id change (.error (.store (.ofMedium .sql))) s :=
  ⟨fun _ => ⟨rfl, rfl⟩, fun reaches => absurd reaches unreached, fun reaches => absurd reaches unreached, fun _ => rfl⟩

private theorem Amends.of_damaged (reaches : s.Reaches t) (damaged : (s.stock t).Damaged id) (f : Fault) :
    Amends s t id change (.error (.store f)) s := by
  refine ⟨fun unreached => absurd reaches unreached, fun _ _ => ⟨⟨f, rfl⟩, rfl⟩, fun _ stored holds => ?_, fun _ => rfl⟩
  obtain ⟨e, failed⟩ := Stock.perform_group_of_damaged damaged
  cases (congrArg Prod.fst failed).symm.trans (congrArg Prod.fst (Stock.perform_group_of_holds holds))

private theorem Amends.of_known {stored : Option Group} {result : Except GroupError Group} {s' : DataStore}
    (reaches : s.Reaches t) (holds : (s.stock t).Holds id stored)
    (revises : Revises s t change (stored.getD (.new id)) result s')
    (others : ∀ u, (s'.stock u).sparing id = (s.stock u).sparing id) : Amends s t id change result s' := by
  have read := Stock.perform_group_of_holds holds
  refine ⟨fun unreached => absurd reaches unreached, fun _ damaged => ?_, fun _ stored' holds' => ?_, others⟩
  · obtain ⟨e, failed⟩ := Stock.perform_group_of_damaged damaged
    cases (congrArg Prod.fst read).symm.trans (congrArg Prod.fst failed)
  · cases (congrArg Prod.fst read).symm.trans (congrArg Prod.fst (Stock.perform_group_of_holds holds'))
    exact revises

private theorem run_revise (c : Installation κ σ) (t : Thread) (change : MembershipChange) (before : Group) :
    ∃ result s', c.run t (change.revise before) = (result, { c with store := s' }) ∧
      Revises c.store t change before result s' ∧
        ∀ u, (s'.stock u).sparing before.id = (c.store.stock u).sparing before.id := by
  unfold MembershipChange.revise
  dsimp only
  by_cases same : change.apply before.members = before.members
  · rw [if_pos same]
    exact ⟨_, _, rfl, .of_same (not_not.2 (MembershipChange.apply_eq_self_iff.1 same)), fun _ => rfl⟩
  rw [if_neg same]
  have alters : change.Alters before := mt MembershipChange.apply_eq_self_iff.2 same
  by_cases more : before.revision.toNat + 1 < UInt32.size
  · rw [if_pos more, Installation.run_bind, Installation.run_mapError, Installation.run_store]
    have notLast : before.revision.toNat ≠ 4294967295 := by
      intro last
      rw [last] at more
      exact absurd more (by decide)
    let after : Group := { before with revision := before.revision + 1, members := change.apply before.members }
    have revision : Revision change before after := ⟨rfl, MembershipChange.accounts_apply _ _, toNat_add_one more⟩
    obtain ⟨ready, put⟩ | ⟨locked, failed⟩ := c.store.perform_putGroup t after
    · rw [put]
      exact ⟨_, _, rfl, .of_made alters notLast ready revision, DataStore.untouched_shelve (Stock.sparing before.id)
        (ready.putGroup after) (Stock.sparing_putGroup _ after)⟩
    · rw [failed]
      exact ⟨_, _, rfl, .of_locked alters notLast locked, fun _ => rfl⟩
  · rw [if_neg more]
    have last : before.revision.toNat = 4294967295 := by
      have := before.revision.toNat_lt
      simp only [UInt32.size] at more
      omega
    exact ⟨_, _, rfl, .of_last alters last, fun _ => rfl⟩

theorem keyed_run {ε α : Type} (keyed : c.store.Keyed) (t : Thread) (a : Activity ε α) : (c.run t a).2.store.Keyed := by
  unfold Installation.run
  generalize a.run = p
  induction p generalizing c with
  | done _ => exact keyed
  | ask call next ih =>
    refine ih _ ?_
    cases call with
    | store op => exact keyed.perform t op
    | _ => exact keyed

theorem run_changeGuarded (keyed : c.store.Keyed) (t : Thread) (id : GroupId) (change : MembershipChange) :
    ∃ result s', c.run t (changeGuarded id change) = (result, { c with store := s' }) ∧
      Amends c.store t id change result s' := by
  rw [changeGuarded_eq, Installation.run_bind, Installation.run_mapError, Installation.run_store]
  obtain ⟨reaches, read⟩ | ⟨unreached, read⟩ := c.store.perform_group t id
  · obtain ⟨stored, holds⟩ | damaged := (c.store.stock t).holds_or_damaged id
    · rw [read, Stock.perform_group_of_holds holds]
      have named : (stored.getD (.new id)).id = id := by
        cases stored with
        | none => rfl
        | some g => exact keyed.of_holds holds
      obtain ⟨result, s', ran, revises, others⟩ := run_revise c t change (stored.getD (.new id))
      rw [named] at others
      exact ⟨result, s', ran, .of_known reaches holds revises others⟩
    · obtain ⟨e, failed⟩ := Stock.perform_group_of_damaged damaged
      rw [read, failed]
      exact ⟨_, _, rfl, .of_damaged reaches damaged e⟩
  · rw [read]
    exact ⟨_, _, rfl, .of_unreached unreached⟩

end

/-! ## The lock -/

section

variable {κ σ : Type} {c : Installation κ σ} {t : Thread} {id : GroupId} {change : MembershipChange}

/-- What a change comes to on a client, whether it gets the lock or not. -/
structure Amended (c : Installation κ σ) (t : Thread) (id : GroupId) (change : MembershipChange)
    (result : Except GroupError Group) (c' : Installation κ σ) : Prop where
  refused : ∀ r, (Installation.handle t .enterGroups c).1 = .refused r → result = .error (refusal r) ∧ c'.store = c.store
  granted : (Installation.handle t .enterGroups c).1 = .granted → Amends c.store t id change result c'.store
  rest : { c' with store := c.store, yard := c.yard } = c
  /-- What the others did who wait for the lock, or are to leave it, is all that is left. -/
  lock : Reentrant.Stirred c.yard.Present c.yard.groupLock.lock c'.yard.groupLock.lock
  alone : (∀ u, ¬ c.yard.Present u) → c'.yard.groupLock.lock = c.yard.groupLock.lock
  owned : c.yard.groupLock.lock.heldBy t = true → c'.yard.groupLock.lock = c.yard.groupLock.lock

private theorem Amended.of_stirred (away : c.yard.Away t) {result : Except GroupError Group} {c' : Installation κ σ}
    (refused : ∀ r, (Installation.handle t .enterGroups c).1 = .refused r → result = .error (refusal r) ∧ c'.store = c.store)
    (granted : (Installation.handle t .enterGroups c).1 = .granted → Amends c.store t id change result c'.store)
    (rest : { c' with store := c.store, yard := c.yard } = c)
    (lock : Reentrant.Stirred c.yard.Present c.yard.groupLock.lock c'.yard.groupLock.lock) : Amended c t id change result c' :=
  ⟨refused, granted, rest, lock, lock.eq_of_none, fun owned => lock.eq_of_heldBy owned away.absent⟩

private theorem enterGroups_visits (away : c.yard.Away t) : ∃ outcome yard,
    Installation.handle t .enterGroups c = (outcome, { c with yard }) ∧
      Yard.Course c.yard.Present t c.yard.groupLock.lock outcome yard.groupLock.lock ∧
        (outcome = .granted → ∀ w ∈ yard.waiting, c.yard.Present w.thread) := by
  obtain ⟨answered, never⟩ := away.visits (c.store.inTransaction t) c.yard.groupLock.timeout none
  refine ⟨(Installation.awaitGroups _ t).1, (Installation.awaitGroups _ t).2, rfl, ?_⟩
  unfold Installation.awaitGroups
  cases awaited : (c.yard.askGroup t (c.store.inTransaction t) c.yard.groupLock.timeout none).await t with
  | none => exact ⟨.refused _ (never awaited), nofun⟩
  | some answer =>
    obtain ⟨course, only⟩ := answered _ _ awaited
    exact ⟨course, fun _ => only⟩

/-- Whatever the store, the group and the change: a change of a group's membership does to the group what it
says or nothing at all, and in the end the group lock is what the others have made of it. -/
theorem changeMembership_amends (c : Installation κ σ) (t : Thread) (id : GroupId) (change : MembershipChange)
    (keyed : c.store.Keyed) (held : ∃ guards, c.yard.groupLock.lock.Held guards) (away : c.yard.Away t) :
    Amended c t id change (c.run t (changeMembership id change)).1 (c.run t (changeMembership id change)).2 := by
  obtain ⟨outcome, yard, entered, course, only⟩ := enterGroups_visits away
  have ran : c.run t (changeMembership id change) = _ := run_changeMembership (Installation.handle t) id change c
  rw [entered] at ran
  have answered := congrArg Prod.fst entered
  cases outcome with
  | granted =>
    obtain ⟨result, s', changed, amends⟩ := run_changeGuarded (c := { c with yard }) keyed t id change
    have left : c.run t (changeMembership id change) =
        (result, { c with store := s', yard := (yard.leave t .group).getD yard }) := by
      refine ran.trans ?_
      dsimp only
      rw [show Plan.run (Installation.handle t) (changeGuarded id change).run { c with yard } = _ from changed]
      rfl
    rw [left]
    exact .of_stirred away (fun r is => nomatch answered.symm.trans is) (fun _ => amends) rfl
      (course.leaves away.absent held (only rfl))
  | refused r =>
    rw [ran]
    refine .of_stirred away (fun r' is => ?_) (fun is => nomatch answered.symm.trans is) rfl ?_
    · cases answered.symm.trans is
      exact ⟨rfl, rfl⟩
    · cases course with
      | refused _ stirred => exact stirred

/-- A client with a group of one member, whose database has a row of another group that shows no revision. -/
private def guild : Installation Rehearsal.KeyScript Rehearsal.ServiceScript :=
  { Installation.rehearsed Installation.rehearsedKeys .empty with
    store := .database (.new { Tables.empty with
      groups := [(⟨1⟩, .of ⟨⟨1⟩, 7, .ofList [⟨⟨0xa⟩⟩]⟩), (⟨2⟩, ⟨.text "seven", .text "[]"⟩)] } false) }

theorem changeMembership_amends_guild :
    let ran := guild.run ⟨0, none⟩ (changeMembership ⟨1⟩ (.add [⟨⟨0xb⟩⟩, ⟨⟨0xa⟩⟩, ⟨⟨0xb⟩⟩]))
    (∃ after, ran.1 = .ok after ∧ after.members.accounts = {⟨⟨0xa⟩⟩, ⟨⟨0xb⟩⟩} ∧ after.revision.toNat = 8) ∧
      ran.2.yard.groupLock.lock = guild.yard.groupLock.lock := by
  intro ran
  have nobody (u : Thread) : ¬ guild.yard.Present u := by rintro (⟨_, there, -⟩ | ⟨_, there, -⟩) <;> cases there
  obtain ⟨-, granted, -, -, alone, -⟩ := changeMembership_amends guild ⟨0, none⟩ ⟨1⟩ (.add [⟨⟨0xb⟩⟩, ⟨⟨0xa⟩⟩, ⟨⟨0xb⟩⟩])
    trivial ⟨_, .free _⟩ ⟨nobody _, nofun⟩
  have holds : (guild.store.stock ⟨0, none⟩).Holds ⟨1⟩ (some ⟨⟨1⟩, 7, .ofList [⟨⟨0xa⟩⟩]⟩) := .some ⟨shows_ofGroup _, rfl⟩
  have known := (granted rfl).known rfl _ holds
  have before : (Members.ofList [⟨⟨0xa⟩⟩]).accounts = {⟨⟨0xa⟩⟩} := by simp [Members.ofList]
  have intended : (MembershipChange.add [⟨⟨0xb⟩⟩, ⟨⟨0xa⟩⟩, ⟨⟨0xb⟩⟩]).intended {⟨⟨0xa⟩⟩} = {⟨⟨0xa⟩⟩, ⟨⟨0xb⟩⟩} := by
    ext a
    simp only [MembershipChange.intended, Set.mem_union, Set.mem_singleton_iff, Set.mem_ofPred_eq, List.mem_cons,
      List.not_mem_nil, Set.mem_insert_iff]
    tauto
  have differs : ({⟨⟨0xa⟩⟩, ⟨⟨0xb⟩⟩} : Set Aci) ≠ {⟨⟨0xa⟩⟩} := fun same =>
    absurd (same ▸ Or.inr rfl : (⟨⟨0xb⟩⟩ : Aci) ∈ ({⟨⟨0xa⟩⟩} : Set Aci)) (by decide)
  have alters : (MembershipChange.add [⟨⟨0xb⟩⟩, ⟨⟨0xa⟩⟩, ⟨⟨0xb⟩⟩]).Alters ⟨⟨1⟩, 7, .ofList [⟨⟨0xa⟩⟩]⟩ := by
    rwa [MembershipChange.Alters, before, intended]
  obtain ⟨after, is, revision, -⟩ := known.made alters (by decide) ⟨rfl, rfl⟩
  refine ⟨⟨after, is, ?_, revision.revision⟩, alone nobody⟩
  rw [revision.members, Option.getD_some, before, intended]

end

end Enrolment.Client
