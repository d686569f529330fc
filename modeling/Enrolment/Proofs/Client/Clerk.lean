import Enrolment.Client.Membership
import Enrolment.Proofs.Client.Journal
import Enrolment.Proofs.Client.Roster
import Enrolment.Proofs.Plan.Contract
import Mathlib.Data.List.Induction
/-!
One change of a group's membership, call by call, and what a sequence of changes makes of a group.
Main statements: a change makes its calls in the order of its phases (`changeMembership_keeps`), and
what it decides to do with a group as earlier changes left it is to leave it as they and itself do
(`decided_cases`).
-/
namespace Enrolment.Client

open Store Activity

/-! ## Changes one after another -/

/-- The members of a group that had none, after changes. -/
def membersAfter (changes : List MembershipChange) : Members := changes.foldl MembershipChange.apply .empty

/-- How many of the changes, one after another, change the membership. -/
def effective (changes : List MembershipChange) : Nat :=
  (List.range changes.length).countP fun k => membersAfter (changes.take (k + 1)) ≠ membersAfter (changes.take k)

def groupAfter (id : GroupId) (changes : List MembershipChange) : Group :=
  ⟨id, .ofNat (effective changes), membersAfter changes⟩

def storedAfter (id : GroupId) (changes : List MembershipChange) : Option Group :=
  if effective changes = 0 then none else some (groupAfter id changes)

section

variable (changes : List MembershipChange) (change : MembershipChange) (id : GroupId)

theorem membersAfter_concat : membersAfter (changes ++ [change]) = change.apply (membersAfter changes) := by
  rw [membersAfter, List.foldl_append]
  rfl

theorem effective_concat : effective (changes ++ [change]) =
    effective changes + if change.apply (membersAfter changes) = membersAfter changes then 0 else 1 := by
  have earlier : (List.range changes.length).countP (fun k =>
      membersAfter ((changes ++ [change]).take (k + 1)) ≠ membersAfter ((changes ++ [change]).take k)) =
      effective changes := by
    refine List.countP_congr fun k within => ?_
    have short := List.mem_range.1 within
    rw [List.take_append_of_le_length (by omega), List.take_append_of_le_length (by omega)]
  unfold effective
  rw [List.length_append, List.length_singleton, List.range_succ, List.countP_append, earlier, List.countP_singleton,
    List.take_of_length_le (by simp), List.take_left, membersAfter_concat]
  by_cases same : change.apply (membersAfter changes) = membersAfter changes <;> simp [same, effective]

theorem effective_le_append (later : List MembershipChange) : effective changes ≤ effective (changes ++ later) := by
  induction later using List.reverseRecOn with
  | nil => simp
  | append_singleton later change ih =>
    rw [← List.append_assoc, effective_concat]
    exact Nat.le_trans ih (Nat.le_add_right _ _)

theorem membersAfter_of_ineffective (none_ : effective changes = 0) : membersAfter changes = .empty := by
  induction changes using List.reverseRecOn with
  | nil => rfl
  | append_singleton changes change ih =>
    rw [effective_concat] at none_
    have same : change.apply (membersAfter changes) = membersAfter changes := by
      by_contra different
      simp [different] at none_
    rw [membersAfter_concat, same]
    exact ih (Nat.eq_zero_of_add_eq_zero_right none_)

theorem getD_storedAfter : (storedAfter id changes).getD (.new id) = groupAfter id changes := by
  unfold storedAfter
  split
  · rename_i none_
    rw [groupAfter, membersAfter_of_ineffective changes none_, none_]
    rfl
  · rfl

end

/-! ## The phases of a change -/

inductive Phase where
  | outside
  | refused (r : Lock.Refusal)
  | reading
  | writing (after : Group)
  | leaving (result : Except GroupError Group)
  | left (result : Except GroupError Group)

/-- What a change decides to do with a group that it has read. -/
def decided (id : GroupId) (change : MembershipChange) (stored : Option Group) : Phase :=
  let before := stored.getD (.new id)
  let members := change.apply before.members
  if members = before.members then .leaving (.ok before)
  else if before.revision.toNat + 1 < UInt32.size then .writing { before with revision := before.revision + 1, members }
  else .leaving (.error .revisionOverflow)

structure Revised (id : GroupId) (changes : List MembershipChange) (change : MembershipChange) (after : Group) : Prop where
  is : after = groupAfter id (changes ++ [change])
  stored : storedAfter id (changes ++ [change]) = some after
  bounded : effective (changes ++ [change]) < UInt32.size

theorem decided_cases {id : GroupId} {changes : List MembershipChange} (bounded : effective changes < UInt32.size)
    (change : MembershipChange) :
    (decided id change (storedAfter id changes) = .leaving (.ok (groupAfter id (changes ++ [change]))) ∧
        storedAfter id (changes ++ [change]) = storedAfter id changes ∧
        effective (changes ++ [change]) = effective changes) ∨
      (∃ after, decided id change (storedAfter id changes) = .writing after ∧ Revised id changes change after) ∨
      (decided id change (storedAfter id changes) = .leaving (.error .revisionOverflow) ∧
        effective (changes ++ [change]) = UInt32.size) := by
  have revision : (groupAfter id changes).revision.toNat = effective changes := UInt32.toNat_ofNat_of_lt' bounded
  have members : (groupAfter id changes).members = membersAfter changes := rfl
  unfold decided
  rw [getD_storedAfter]
  dsimp only
  rw [members, revision]
  by_cases same : change.apply (membersAfter changes) = membersAfter changes
  · have again : effective (changes ++ [change]) = effective changes := by simp [effective_concat, same]
    have after : groupAfter id (changes ++ [change]) = groupAfter id changes := by
      rw [groupAfter, groupAfter, membersAfter_concat, again, same]
    refine Or.inl ⟨by rw [if_pos same, after], ?_, again⟩
    rw [storedAfter, storedAfter, after, again]
  · have more : effective (changes ++ [change]) = effective changes + 1 := by simp [effective_concat, same]
    rw [if_neg same, more]
    by_cases next : effective changes + 1 < UInt32.size
    · refine Or.inr (Or.inl ⟨groupAfter id (changes ++ [change]), ?_, rfl, if_neg (by simp [more]), by rwa [more]⟩)
      rw [if_pos next, groupAfter, groupAfter, membersAfter_concat, more, UInt32.ofNat_add]
      rfl
    · rw [if_neg next]
      exact Or.inr (Or.inr ⟨rfl, by omega⟩)

namespace Phase

def Allows (id : GroupId) : Phase → Effect → Prop
  | outside, .enterGroups => True
  | reading, .store (.group asked) => asked = id
  | writing after, .store (.putGroup put) => put = after
  | leaving _, .leaveGroups => True
  | _, _ => False

def after (id : GroupId) (change : MembershipChange) : Phase → (call : Effect) → call.Answer → Phase
  | outside, .enterGroups, .granted => reading
  | outside, .enterGroups, .refused r => refused r
  | reading, .store (.group _), .ok stored => decided id change stored
  | reading, .store (.group _), .error f => leaving (.error (.store f))
  | writing after, .store (.putGroup _), .ok () => leaving (.ok after)
  | writing _, .store (.putGroup _), .error f => leaving (.error (.store f))
  | leaving result, .leaveGroups, () => left result
  | phase, _, _ => phase

/-- How a thread comes from one phase to the next. -/
inductive Moves (id : GroupId) (change : MembershipChange) : (call : Effect) → call.Answer → Phase → Phase → Prop
  | enters : Moves id change .enterGroups .granted outside reading
  | refuses (r : Lock.Refusal) : Moves id change .enterGroups (.refused r) outside (refused r)
  | reads (stored : Option Group) {after : Phase} (decides : decided id change stored = after) :
    Moves id change (.store (.group id)) (.ok stored) reading after
  | readFails (f : Fault) : Moves id change (.store (.group id)) (.error f) reading (leaving (.error (.store f)))
  | writes (after : Group) : Moves id change (.store (.putGroup after)) (.ok ()) (writing after) (leaving (.ok after))
  | writeFails (after : Group) (f : Fault) :
    Moves id change (.store (.putGroup after)) (.error f) (writing after) (leaving (.error (.store f)))
  | leaves (result : Except GroupError Group) : Moves id change .leaveGroups () (leaving result) (left result)

theorem moves {id : GroupId} {phase : Phase} {call : Effect} (allows : phase.Allows id call) (change : MembershipChange)
    (answer : call.Answer) : Moves id change call answer phase (phase.after id change call answer) := by
  unfold Allows at allows
  split at allows
  · cases answer with
    | granted => exact .enters
    | refused r => exact .refuses r
  · subst allows
    cases answer with
    | ok stored => exact .reads stored rfl
    | error f => exact .readFails f
  · subst allows
    cases answer with
    | ok _ => exact .writes _
    | error f => exact .writeFails _ f
  · exact .leaves _
  · exact allows.elim

def isInside : Phase → Bool
  | reading | writing _ | leaving _ => true
  | outside | refused _ | left _ => false

def wasInside : Phase → Bool
  | outside | refused _ => false
  | reading | writing _ | leaving _ | left _ => true

theorem Moves.isInside {id : GroupId} {change : MembershipChange} {call : Effect} {answer : call.Answer}
    {before after : Phase} (moves : Moves id change call answer before after) (other : call ≠ .enterGroups) :
    before.isInside = true := by
  cases moves with
  | enters | refuses => exact absurd rfl other
  | _ => rfl

theorem Moves.of_refused {id : GroupId} {change : MembershipChange} {r : Lock.Refusal} {before after : Phase}
    (moves : Moves id change .enterGroups (.refused r) before after) : before = outside ∧ after = refused r := by
  cases moves
  exact ⟨rfl, rfl⟩

theorem Moves.of_granted {id : GroupId} {change : MembershipChange} {before after : Phase}
    (moves : Moves id change .enterGroups .granted before after) : before = outside ∧ after = reading := by
  cases moves
  exact ⟨rfl, rfl⟩

theorem Moves.of_left {id : GroupId} {change : MembershipChange} {before after : Phase}
    (moves : Moves id change .leaveGroups () before after) : ∃ result, before = leaving result ∧ after = left result := by
  cases moves
  exact ⟨_, rfl, rfl⟩

theorem isInside_decided (id : GroupId) (change : MembershipChange) (stored : Option Group) :
    (decided id change stored).isInside = true := by
  unfold decided
  dsimp only
  split
  · rfl
  · split <;> rfl

def group? : Phase → Option Group
  | leaving (.ok g) | left (.ok g) => some g
  | _ => none

end Phase

def refusal : Lock.Refusal → GroupError
  | .busy e => .busy e
  | .violation v => .violation v
  | .acquire e => .busy (.ofAcquire e 0)

/-- The order of the calls of a change. -/
def phases (id : GroupId) (change : MembershipChange) : Plan.Contract effects Phase where
  allowed call phase := phase.Allows id call
  answered call phase answer next := next = phase.after id change call answer

/-- How a change ends: it had the lock, or tells why it did not get it. -/
def Phase.Ends (result : Except GroupError Group) (phase : Phase) : Prop :=
  (phase = .left result ∧ ∀ e, result ≠ .error (.busy e)) ∨ ∃ r, phase = .refused r ∧ result = .error (refusal r)

theorem changeGuarded_keeps (id : GroupId) (change : MembershipChange) :
    Plan.Meets (phases id change)
      (fun result phase => phase = .leaving result ∧ ∀ e, result = .error e → e = .revisionOverflow ∨ ∃ f, e = .store f)
      (changeGuarded id change).run .reading := by
  have failed {f : Fault} (e : GroupError) (is : (.error (.store f) : Except GroupError Group) = .error e) :
      e = .revisionOverflow ∨ ∃ f, e = .store f := Or.inr ⟨f, (Except.error.inj is).symm⟩
  rw [changeGuarded_eq]
  refine ⟨rfl, ?_⟩
  rintro (f | stored) _ rfl
  · exact ⟨rfl, failed⟩
  show Plan.Meets _ _ (ite _ _ _) (decided id change stored)
  unfold decided
  dsimp only
  split
  · exact ⟨rfl, nofun⟩
  split
  · refine ⟨rfl, ?_⟩
    rintro (f | _) _ rfl
    · exact ⟨rfl, failed⟩
    · exact ⟨rfl, nofun⟩
  · exact ⟨rfl, fun e is => Or.inl (Except.error.inj is).symm⟩

theorem changeMembership_keeps (id : GroupId) (change : MembershipChange) :
    Plan.Meets (phases id change) Phase.Ends (changeMembership id change).run .outside := by
  refine ⟨trivial, ?_⟩
  rintro (_ | r) _ rfl
  · have guarded := changeGuarded_keeps id change
    refine (Plan.meets_bind (p := (changeGuarded id change).run)).2 (Plan.Meets.mono ?_ guarded)
    rintro result _ ⟨rfl, inner⟩
    refine ⟨trivial, ?_⟩
    rintro _ _ rfl
    refine Or.inl ⟨rfl, ?_⟩
    rintro e rfl
    rcases inner _ rfl with is | ⟨f, is⟩ <;> cases is
  · cases r <;> exact Or.inr ⟨_, rfl, rfl⟩

/-! ## Runs of a change -/

section

variable {σ : Type} (handler : Plan.Handler effects σ) (id : GroupId) (change : MembershipChange) (s : σ)

theorem run_changeMembership : (changeMembership id change).run.run handler s =
    match handler .enterGroups s with
    | (.granted, s) =>
      let ended := (changeGuarded id change).run.run handler s
      (ended.1, (handler .leaveGroups ended.2).2)
    | (.refused r, s) => (.error (refusal r), s) := by
  show Plan.run handler _ (handler .enterGroups s).2 = _
  rcases handler .enterGroups s with ⟨_ | r, s⟩
  · exact Plan.run_bind handler (changeGuarded id change).run _ s
  · cases r <;> rfl

theorem trace_changeMembership : (changeMembership id change).run.trace handler s =
    ⟨.enterGroups, (handler .enterGroups s).1⟩ :: match handler .enterGroups s with
      | (.granted, s) => (changeGuarded id change).run.trace handler s ++ [⟨.leaveGroups, ()⟩]
      | (.refused _, _) => [] := by
  refine congrArg (_ :: ·) ?_
  show Plan.trace handler _ (handler .enterGroups s).2 = _
  rcases handler .enterGroups s with ⟨_ | r, s⟩
  · exact Plan.trace_bind handler (changeGuarded id change).run _ s
  · cases r <;> rfl

theorem trace_changeGuarded : ∃ read written,
    (changeGuarded id change).run.trace handler s = ⟨.store (.group id), read⟩ :: written ∧
      (written = [] ∨ ∃ g answer, written = [⟨.store (.putGroup g), answer⟩]) := by
  rw [changeGuarded_eq]
  refine ⟨_, _, rfl, ?_⟩
  rcases handler (.store (.group id)) s with ⟨f | stored, s⟩
  · exact Or.inl rfl
  show Plan.trace handler (ite _ _ _) s = [] ∨ ∃ g answer, Plan.trace handler (ite _ _ _) s = _
  split
  · exact Or.inl rfl
  split
  · refine Or.inr ⟨_, (handler (.store (.putGroup _)) s).1, congrArg (_ :: ·) ?_⟩
    show Plan.trace handler _ (handler (.store (.putGroup _)) s).2 = []
    rcases handler (.store (.putGroup _)) s with ⟨f | _, s⟩ <;> rfl
  · exact Or.inl rfl

end

end Enrolment.Client
