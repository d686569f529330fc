import Enrolment.Proofs.Client.Clerk
/-!
A change that is attempted again as long as the lock is busy. Whatever answers the calls, the attempts
and the pauses between them make a sequence of states and outcomes; the repetition follows it up to
the first outcome that is not that the lock was busy, or to its last attempt. Main statement: this is
all that it does (`retried`).
-/
namespace Enrolment.Client

open Store

/-- A change under circumstances of any kind, where others may do anything during a call. -/
structure Endeavour (σ : Type) where
  handler : Plan.Handler effects σ
  id : GroupId
  change : MembershipChange
  backoff : Nat
  start : σ

namespace Endeavour

variable {σ : Type} (e : Endeavour σ)

def attempt (s : σ) : Except GroupError Group × σ := (changeMembership e.id e.change).run.run e.handler s

def state : Nat → σ
  | 0 => e.start
  | n + 1 => (e.handler (.pause e.backoff) (e.attempt (state n)).2).2

def outcome (n : Nat) : Except GroupError Group := (e.attempt (e.state n)).1

def Busy (n : Nat) : Prop := ∃ b, e.outcome n = .error (.busy b)

def notes (n : Nat) : List (Plan.Exchange effects) := (changeMembership e.id e.change).run.trace e.handler (e.state n)

def record (first count : Nat) : List (Plan.Exchange effects) :=
  List.intercalate [⟨.pause e.backoff, ()⟩] ((List.range' first count).map e.notes)

/-- How many attempts are made if they are limited: up to the first that finds the lock not busy, or all. -/
inductive Takes (limit : Nat) : Nat → Prop
  | settled {n : Nat} (within : n < limit) (settles : ¬ e.Busy n) (earlier : ∀ m < n, e.Busy m) : Takes limit (n + 1)
  | exhausted (busy : ∀ n < limit, e.Busy n) : Takes limit limit

variable {e}

theorem Takes.le {limit k : Nat} (takes : e.Takes limit k) : k ≤ limit := by
  cases takes with
  | settled within => exact within
  | exhausted => exact Nat.le_refl _

theorem Takes.busy {limit k n : Nat} (takes : e.Takes limit k) (before : n + 1 < k) : e.Busy n := by
  cases takes with
  | settled _ _ earlier => exact earlier n (by omega)
  | exhausted busy => exact busy n (by omega)

/-! ## Single attempts -/

private theorem inner_error (e : Endeavour σ) (s : σ) {error : GroupError}
    (is : ((changeGuarded e.id e.change).run.run e.handler s).1 = .error error) :
    error = .revisionOverflow ∨ ∃ f, error = .store f := by
  have shown : Plan.Honours e.handler (phases e.id e.change) fun _ _ => True := fun _ _ _ _ _ => ⟨_, rfl, trivial⟩
  obtain ⟨_, ⟨-, inner⟩, -⟩ := (changeGuarded_keeps e.id e.change).run shown (t := s) trivial
  exact inner error is

theorem refused_of_busy {n : Nat} (busy : e.Busy n) : ∃ r, e.notes n = [⟨.enterGroups, .refused r⟩] ∧
    (e.attempt (e.state n)).2 = (e.handler .enterGroups (e.state n)).2 := by
  obtain ⟨b, told⟩ := busy
  unfold outcome attempt at told
  unfold notes attempt
  rw [run_changeMembership] at told ⊢
  rw [trace_changeMembership]
  rcases entered : e.handler .enterGroups (e.state n) with ⟨_ | r, s⟩ <;> rw [entered] at told
  · rcases inner_error e s told with is | ⟨f, is⟩ <;> cases is
  · exact ⟨r, rfl, rfl⟩

theorem outcome_ne_attemptOverflow (n : Nat) : e.outcome n ≠ .error .attemptOverflow := by
  unfold outcome attempt
  rw [run_changeMembership]
  intro told
  rcases entered : e.handler .enterGroups (e.state n) with ⟨_ | r, s⟩ <;> rw [entered] at told
  · rcases inner_error e s told with is | ⟨f, is⟩ <;> cases is
  · cases r <;> cases told

/-! ### Calls -/

def entries (calls : List (Plan.Exchange effects)) : Nat := calls.countP (·.1 matches .enterGroups)

def pauses (calls : List (Plan.Exchange effects)) : Nat := calls.countP (·.1 matches .pause _)

def puts (calls : List (Plan.Exchange effects)) : Nat := calls.countP (·.1 matches .store (.putGroup _))

def storeCalls (calls : List (Plan.Exchange effects)) : List (Plan.Exchange effects) :=
  calls.filter (·.1 matches .store _)

theorem notes_calls (n : Nat) : entries (e.notes n) = 1 ∧ pauses (e.notes n) = 0 ∧ puts (e.notes n) ≤ 1 := by
  unfold notes
  rw [trace_changeMembership]
  rcases e.handler .enterGroups (e.state n) with ⟨_ | r, s⟩
  · obtain ⟨read, written, is, rfl | ⟨g, answer, rfl⟩⟩ := trace_changeGuarded e.handler e.id e.change s <;>
      simp [is, entries, pauses, puts]
  · simp [entries, pauses, puts]

theorem puts_storeCalls (calls : List (Plan.Exchange effects)) : puts (storeCalls calls) = puts calls := by
  unfold puts storeCalls
  rw [List.countP_filter]
  congr 1
  funext x
  rcases x with ⟨_ | _, _⟩ <;> simp

/-! ## Attempts in a row -/

theorem record_one (n : Nat) : e.record n 1 = e.notes n := List.append_nil _

theorem record_more (n m : Nat) :
    e.record n (m + 2) = e.notes n ++ ⟨.pause e.backoff, ()⟩ :: e.record (n + 1) (m + 1) := rfl

theorem record_calls (n m : Nat) : entries (e.record n (m + 1)) = m + 1 ∧ pauses (e.record n (m + 1)) = m := by
  induction m generalizing n with
  | zero =>
    obtain ⟨entered, paused, -⟩ := notes_calls (e := e) n
    rw [record_one]
    exact ⟨entered, paused⟩
  | succ m ih =>
    obtain ⟨entered, paused, -⟩ := notes_calls (e := e) n
    obtain ⟨entered', paused'⟩ := ih (n + 1)
    rw [record_more]
    unfold entries pauses at *
    rw [List.countP_append, List.countP_append, List.countP_cons, List.countP_cons, entered, entered', paused, paused']
    simp [Nat.add_comm]

theorem storeCalls_record {n m : Nat} (busy : ∀ i < m, e.Busy (n + i)) :
    storeCalls (e.record n (m + 1)) = storeCalls (e.notes (n + m)) := by
  induction m generalizing n with
  | zero => rw [record_one, Nat.add_zero]
  | succ m ih =>
    obtain ⟨r, refused, -⟩ := refused_of_busy (busy 0 (Nat.succ_pos m))
    have later := ih (n := n + 1) fun i within => by
      rw [Nat.add_right_comm, Nat.add_assoc]
      exact busy (i + 1) (Nat.succ_lt_succ within)
    rw [record_more, ← Nat.add_zero n, refused, Nat.add_zero]
    rw [Nat.add_right_comm] at later
    exact later

/-! ## The repetition -/

/-- What is left to do after an attempt with this result. -/
def rest (e : Endeavour σ) (attempts number : UInt32) : Except GroupError Group → Plan effects (Except GroupError Group)
  | .error (.busy b) =>
    if number < attempts then
      Plan.ask (I := effects) (.pause e.backoff) fun _ =>
        if number.toNat + 1 < UInt32.size then (retryMembership e.id e.change attempts e.backoff (number + 1)).run
        else pure (.error .attemptOverflow)
    else pure (.error (.busy b))
  | result => pure result

theorem run_retryMembership (e : Endeavour σ) (attempts number : UInt32) :
    (retryMembership e.id e.change attempts e.backoff number).run =
      (changeMembership e.id e.change).run >>= e.rest attempts number := by
  rw [retryMembership]
  refine bind_congr fun result => ?_
  rcases result with (⟨b⟩ | _ | _ | _ | _) | g
  · show ite _ _ _ = ite _ _ _
    refine if_congr Iff.rfl (congrArg _ (funext fun _ => ?_)) rfl
    show dite _ _ _ = ite _ _ _
    rw [dite_eq_ite]
  all_goals rfl

/-- The attempts from one on that are still open, when so many were made before. -/
def again (e : Endeavour σ) (attempts number : UInt32) (n : Nat) :
    (Except GroupError Group × σ) × List (Plan.Exchange effects) :=
  let remaining := (retryMembership e.id e.change attempts e.backoff number).run
  (remaining.run e.handler (e.state n), remaining.trace e.handler (e.state n))

variable {attempts number : UInt32} {n : Nat}

theorem again_eq : e.again attempts number n =
    ((e.rest attempts number (e.outcome n)).run e.handler (e.attempt (e.state n)).2,
      e.notes n ++ (e.rest attempts number (e.outcome n)).trace e.handler (e.attempt (e.state n)).2) := by
  unfold again
  rw [run_retryMembership]
  exact Prod.ext (Plan.run_bind ..) (Plan.trace_bind ..)

theorem again_of_last (last : e.Busy n → attempts ≤ number) :
    e.again attempts number n = (e.attempt (e.state n), e.notes n) := by
  have ends : e.rest attempts number (e.outcome n) = .done (e.outcome n) := by
    rcases is : e.outcome n with (⟨b⟩ | _ | _ | _ | _) | g
    · exact if_neg (UInt32.not_lt.2 (last ⟨b, is⟩))
    all_goals rfl
  rw [again_eq, ends]
  exact congrArg _ (List.append_nil _)

theorem again_of_busy (busy : e.Busy n) (more : number < attempts) :
    e.again attempts number n = ((e.again attempts (number + 1) (n + 1)).1,
      e.notes n ++ ⟨.pause e.backoff, ()⟩ :: (e.again attempts (number + 1) (n + 1)).2) := by
  obtain ⟨b, told⟩ := busy
  have bounded : number.toNat + 1 < UInt32.size := Nat.lt_of_le_of_lt (UInt32.lt_iff_toNat_lt.1 more) attempts.toNat_lt
  rw [again_eq, told, rest, if_pos more, if_pos bounded]
  rfl

/-- However many attempts are left, they follow the sequence of outcomes. -/
theorem again_cases (e : Endeavour σ) (attempts number : UInt32) {n : Nat} (reached : number.toNat = n + 1)
    (within : n < max 1 attempts.toNat) (earlier : ∀ i < n, e.Busy i) :
    ∃ m, e.Takes (max 1 attempts.toNat) (n + m + 1) ∧
      e.again attempts number n = (e.attempt (e.state (n + m)), e.record n (m + 1)) := by
  induction number using retryMembership.induct generalizing n with
  | case1 number ih =>
    by_cases busy : e.Busy n
    · have earlier' : ∀ i < n + 1, e.Busy i := Nat.forall_lt_succ_right.2 ⟨earlier, busy⟩
      by_cases more : number < attempts
      · have fewer := UInt32.lt_iff_toNat_lt.1 more
        have bounded : number.toNat + 1 < UInt32.size := Nat.lt_of_le_of_lt fewer attempts.toNat_lt
        have next : (number + 1).toNat = n + 1 + 1 := by rw [toNat_add_one bounded, reached]
        obtain ⟨m, takes, is⟩ := ih bounded next (by omega) earlier'
        rw [Nat.add_right_comm n 1 m] at takes is
        refine ⟨m + 1, takes, ?_⟩
        rw [again_of_busy busy more, is, record_more]
        rfl
      · have limit : max 1 attempts.toNat = n + 1 := by
          have := UInt32.lt_iff_toNat_lt.not.1 more
          omega
        refine ⟨0, ?_, ?_⟩
        · rw [limit]
          exact .exhausted earlier'
        · rw [again_of_last fun _ => UInt32.not_lt.1 more, record_one, Nat.add_zero]
    · refine ⟨0, .settled within busy earlier, ?_⟩
      rw [again_of_last fun here => absurd here busy, record_one, Nat.add_zero]

/-- While the lock is busy, and nobody else changes what is looked at, it stays as it was. -/
theorem view_state {β : Type} (view : σ → β) (enters : ∀ s, view (e.handler .enterGroups s).2 = view s)
    (rests : ∀ s, view (e.handler (.pause e.backoff) s).2 = view s) {n : Nat} (busy : ∀ i < n, e.Busy i) :
    view (e.state n) = view e.start := by
  induction n with
  | zero => rfl
  | succ n ih =>
    obtain ⟨-, -, left⟩ := refused_of_busy (busy n (Nat.lt_succ_self n))
    rw [state, rests, left, enters]
    exact ih fun i before => busy i (Nat.lt_succ_of_lt before)

/-- What a repeated change does, when it makes `k` attempts, and how it ends. -/
structure Retried (e : Endeavour σ) (k : Nat) (ended : Except GroupError Group × σ)
    (calls : List (Plan.Exchange effects)) : Prop where
  /-- The outcome of the last attempt is returned as it is. -/
  ends : ended = e.attempt (e.state (k - 1))
  follows : calls = e.record 0 k
  attempts : entries calls = k
  pauses : pauses calls = k - 1
  /-- The change is made at most once, and not before the last attempt. -/
  once : puts calls ≤ 1
  last : storeCalls calls = storeCalls (e.notes (k - 1))
  fails : ∀ n < k, ∀ f, e.outcome n = .error (.store f) → n + 1 = k ∧ ended.1 = .error (.store f)
  untouched : ∀ b, ended.1 = .error (.busy b) → storeCalls calls = []
  /-- If the lock was busy to the end, things are as they were unless others changed them. -/
  unseen : ∀ (β : Type) (view : σ → β), (∀ s, view (e.handler .enterGroups s).2 = view s) →
    (∀ s, view (e.handler (.pause e.backoff) s).2 = view s) → ∀ b, ended.1 = .error (.busy b) → view ended.2 = view e.start
  counts : ended.1 ≠ .error .attemptOverflow

/-- A change that may be repeated makes one attempt after another until one finds the lock not busy, at
most as many as it is allowed but at least one, and returns what the last of them returned. -/
theorem retried (e : Endeavour σ) (attempts : UInt32) :
    let change := (changeWithRetry e.id e.change attempts e.backoff).run
    ∃ k, 0 < k ∧ e.Takes (max 1 attempts.toNat) k ∧
      e.Retried k (change.run e.handler e.start) (change.trace e.handler e.start) := by
  obtain ⟨m, takes, is⟩ := again_cases e attempts 1 (n := 0) rfl (by omega) nofun
  rw [Nat.zero_add] at takes is
  have busy (i : Nat) (before : i < m) : e.Busy i := takes.busy (Nat.succ_lt_succ before)
  have stored := storeCalls_record (e := e) (n := 0) (m := m) fun i before => by
    rw [Nat.zero_add]
    exact busy i before
  rw [Nat.zero_add] at stored
  obtain ⟨entered, paused⟩ := record_calls (e := e) 0 m
  have quiet (b : Lock.BusyError) (told : e.outcome m = .error (.busy b)) : storeCalls (e.notes m) = [] := by
    obtain ⟨r, refused, -⟩ := refused_of_busy ⟨b, told⟩
    rw [refused]
    rfl
  refine ⟨m + 1, Nat.succ_pos m, takes, ?_⟩
  change e.Retried (m + 1) (e.again attempts 1 0).1 (e.again attempts 1 0).2
  rw [is]
  exact {
    ends := rfl
    follows := rfl
    attempts := entered
    pauses := paused
    once := by
      rw [← puts_storeCalls, stored, puts_storeCalls]
      exact (notes_calls m).2.2
    last := stored
    fails := fun n before f failed => by
      have last : n = m := by
        by_contra other
        obtain ⟨b, told⟩ := busy n (by omega)
        cases failed.symm.trans told
      subst last
      exact ⟨rfl, failed⟩
    untouched := fun b told => stored.trans (quiet b told)
    unseen := fun β view enters rests b told => by
      obtain ⟨-, -, left⟩ := refused_of_busy ⟨b, told⟩
      rw [left, enters]
      exact view_state view enters rests busy
    counts := outcome_ne_attemptOverflow m }

end Endeavour
end Enrolment.Client
