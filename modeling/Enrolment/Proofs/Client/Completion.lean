import Enrolment.Proofs.Client.Crowd
/-!
The completion of an enrolment happens once, however many threads evaluate the gate and whatever the
others store meanwhile (`completed_once`).
-/
namespace Enrolment.Client

open Store Activity

namespace Crowd

variable {κ σ : Type} {c : Installation κ σ} {s s' : Crowd κ σ}

private theorem not_permits_passed (call : Effect) : ¬ Stand.passed.Permits call := by
  intro permits
  cases call with
  | enqueueChain jobs => cases permits.2
  | store op => cases permits.1
  | _ => cases permits

theorem Sound.passed_iff (sound : Sound c s) {w : Worker} (member : w ∈ s.workers) :
    w.passed = true ↔ w.stand = .passed := by
  have meets := sound.meets w member
  unfold Worker.passed
  cases rest : w.rest with
  | done told =>
    rw [rest] at meets
    exact meets.told
  | ask call next =>
    rw [rest] at meets
    refine ⟨nofun, fun passed => ?_⟩
    have permits : w.stand.Permits call := meets.1
    rw [passed] at permits
    exact absurd permits (not_permits_passed call)

/-- The evaluations that told that they passed the gate. -/
def passed (s : Crowd κ σ) : Nat := s.workers.countP Worker.passed

/-- Each evaluation that passed has queued the work, and so has one that is about to leave the gate. -/
theorem Sound.hasQueued_eq (sound : Sound c s) :
    s.count Stand.hasQueued = s.passed + s.count (· == .queued) := by
  have same : s.passed = s.count (· == .passed) := by
    refine List.countP_congr fun w member => ?_
    rw [sound.passed_iff member, beq_iff_eq]
  rw [same]
  exact count_eq_add fun k => by cases k <;> rfl

theorem Sound.hasQueued_le_one (sound : Sound c s) : s.count Stand.hasQueued ≤ 1 := by
  have recorded := s.hasQueued_le_hasRecorded
  have recordings := sound.recordings
  have := Bool.toNat_le s.client.isRecorded
  omega

end Crowd

variable {κ σ : Type}

theorem run_getOr_of_admits {c : Installation κ σ} {t : Thread} (orderly : c.store.Orderly) (admits : c.store.Admits t)
    {α : Type} (slot : Slot α) (default : α) :
    (c.run t (getOr slot default)).1 = slot.valueOr default (c.store.reading slot.key) := by
  rw [Installation.run_getOr, Installation.run_get?, DataStore.perform_read_of_admits orderly admits]
  rfl

theorem run_complete_iff {c : Installation κ σ} {t : Thread} (orderly : c.store.Orderly) (admits : c.store.Admits t) :
    (c.run t (getOr Account.complete false)).1 = .ok true ↔ c.isRecorded = true := by
  rw [run_getOr_of_admits orderly admits, Installation.isRecorded_iff]
  exact Slot.valueOr_flag_eq_true

open Crowd

/-- Evaluations, attempts and settings take turns at every single call, and some calls on the store
fail. The completion, once recorded, stays recorded. As many chains of work are queued as evaluations
told that they passed the gate, but for one that has not yet left it, and at most one is. An evaluation
that told so had read that all was there and that no completion was recorded, and none was until it
recorded one itself. -/
theorem completed_once {c : Installation κ σ} (orderly : c.store.Orderly) {s s' : Crowd κ σ}
    (reached : Unfolds (fun _ => True) (.start c) s) (later : Unfolds (fun _ => True) s s') :
    (∀ t t', s.client.store.Admits t → s'.client.store.Admits t' →
      (s.client.run t (getOr Account.complete false)).1 = .ok true →
        (s'.client.run t' (getOr Account.complete false)).1 = .ok true ∧
          ∀ (i : Nat) (w' : Worker), s'.workers[i]? = some w' → w'.passed = true →
            ∃ w : Worker, s.workers[i]? = some w ∧ w.stand.hasRecorded = true) ∧
      s'.journal.chains = List.replicate (s'.passed + s'.count (· == .queued)) completionJobs ∧
      s'.passed + s'.count (· == .queued) ≤ 1 ∧
      (s'.taken = false → s'.count (· == .queued) = 0) ∧
      ∀ w ∈ s'.workers, w.passed = true → w.progress.said.Clears := by
  have sound := sound_of_unfolds reached (sound_start orderly)
  have sound' := sound_of_unfolds later sound
  refine ⟨?_, ?_, ?_, ?_, ?_⟩
  · intro t t' admits admits' read
    have recorded := (run_complete_iff sound.orderly admits).1 read
    refine ⟨(run_complete_iff sound'.orderly admits').2 (sound.isRecorded_unfolds later recorded), ?_⟩
    intro i w' there passed
    have left := (sound'.passed_iff (List.mem_of_getElem? there)).1 passed
    exact sound.recorded_before later recorded there (by rw [left]; rfl)
  · rw [← sound'.hasQueued_eq]
    exact sound'.chains
  · rw [← sound'.hasQueued_eq]
    exact sound'.hasQueued_le_one
  · intro free
    have inside : s'.count (· == .queued) ≤ s'.count Stand.isInside := count_mono fun k queued => by
      rw [beq_iff_eq.1 queued]
      rfl
    rw [sound'.gate, free] at inside
    exact Nat.le_zero.1 inside
  · intro w member passed
    have meets := sound'.meets w member
    unfold Worker.passed at passed
    cases rest : w.rest with
    | done told =>
      rw [rest] at meets passed
      exact meets.clears passed
    | ask call next =>
      rw [rest] at passed
      cases passed

/-- Of two evaluations, one has recorded the completion, and the other one waits for the gate. -/
@[irreducible]
private def oneRecorded (c : Installation κ σ) : Crowd κ σ :=
  rehearsed c [.setRegistered true, .setProfileName "Ada", .optOutOfPin, .evaluateGate, .evaluateGate]
    [0, 1, 2, 2, 3, 4, 3, 4, 3, 4, 3, 3, 3, 3]

@[irreducible]
private def bothDone (c : Installation κ σ) : Crowd κ σ := (oneRecorded c).turns [4, 3, 3, 3, 3, 4, 4, 4, 4, 4, 4, 4]

private theorem unfolds_oneRecorded {c : Installation κ σ} {m : Memory} (memory : c.store = .memory m) :
    Unfolds (fun _ => True) (start c) (oneRecorded c) ∧ ∃ m', (oneRecorded c).client.store = .memory m' := by
  unfold oneRecorded
  exact unfolds_rehearsed memory _ _

private theorem unfolds_bothDone {c : Installation κ σ} (memory : ∃ m, (oneRecorded c).client.store = .memory m) :
    Unfolds (fun _ => True) (oneRecorded c) (bothDone c) ∧ ∃ m, (bothDone c).client.store = .memory m := by
  unfold bothDone
  obtain ⟨m, memory⟩ := memory
  exact unfolds_turns _ memory _

/-- One of two evaluations passes the gate, while the other one waits for it. -/
theorem completed_once_of_two :
    let c := Installation.rehearsed Installation.rehearsedKeys .empty
    ((oneRecorded c).client.run ⟨0, none⟩ (getOr Account.complete false)).1 = .ok true ∧
      ((bothDone c).client.run ⟨0, none⟩ (getOr Account.complete false)).1 = .ok true ∧
      (bothDone c).passed = 1 ∧ (bothDone c).taken = false ∧
      (bothDone c).journal.chains =
        List.replicate ((bothDone c).passed + (bothDone c).count (· == .queued)) completionJobs := by
  intro c
  obtain ⟨first, memory⟩ := unfolds_oneRecorded (c := c) (m := .empty) rfl
  obtain ⟨second, memory'⟩ := unfolds_bothDone memory
  have read : ((oneRecorded c).client.run ⟨0, none⟩ (getOr Account.complete false)).1 = .ok true := by decide +kernel
  obtain ⟨stays, queued, -⟩ := completed_once (c := c) trivial first second
  obtain ⟨stays, -⟩ := stays ⟨0, none⟩ ⟨0, none⟩ (admits_of_memory _ memory) (admits_of_memory _ memory') read
  exact ⟨read, stays, by decide +kernel, by decide +kernel, queued⟩

end Enrolment.Client
