import Enrolment.Proofs.Client.Completion
/-!
Whether the number is discoverable, while its owner decides and evaluations of the completion gate put
a default in place. A choice is kept from then on if no evaluation has already read that none was made
(`choice_kept`); an evaluation that has done so overrides it (`choice_overridden`).
-/
namespace Enrolment.Client

open Store Activity

def Task.choice? : Task → Option Discoverability
  | setDiscoverability d => some d
  | _ => none

variable {κ σ : Type} {c : Installation κ σ}

/-- What is read as the owner's choice. -/
def Installation.choice (c : Installation κ σ) : Except Fault Discoverability :=
  Account.discoverability.valueOr .undecided (c.store.reading Account.discoverability.key)

namespace Crowd

variable {s s' : Crowd κ σ} {d : Discoverability}

private theorem undisturbed {k k' : Stand} {call : Effect} {answer : call.Answer} (moves : Stand.Moves call answer k k')
    {client client' : Installation κ σ} {t : Thread} (answered : Answered client t call answer client')
    (orderly : client.store.Orderly) (chosen : client.choice = .ok d) (decided : d ≠ .undecided)
    (undeciding : k.isDeciding = false) :
    Spares Account.discoverability.key call answer ∧ k'.isDeciding = false := by
  cases moves with
  | stays k besides _ spares => exact ⟨spares, undeciding⟩
  | leaves => exact ⟨trivial, Stand.isDeciding_afterLeave undeciding⟩
  | records => exact ⟨fun same => absurd same (by decide), rfl⟩
  | @hesitates answer found =>
    cases answer with
    | error e => cases found
    | ok value =>
      have read := answered.read orderly rfl
      unfold Installation.choice at chosen
      rw [read, found] at chosen
      exact absurd (Except.ok.inj chosen).symm decided
  | defaults | chooses => cases undeciding
  | enters | finds | queues => exact ⟨trivial, rfl⟩

/-- Something is chosen, and nobody is about to store anything else. -/
structure Decided (d : Discoverability) (s : Crowd κ σ) : Prop where
  chosen : s.client.choice = .ok d
  undeciding : ∀ w ∈ s.workers, w.stand.isDeciding = false

private theorem Decided.restored (decided : Decided d s) {store : DataStore} (same : store.reading = s.client.store.reading) :
    Decided d { s with client := { s.client with store } } := by
  refine ⟨?_, decided.undeciding⟩
  rw [← decided.chosen]
  exact congrArg (Account.discoverability.valueOr .undecided) (congrFun same _)

abbrev Undeciding (task : Task) : Prop := task.choice? = none

theorem Decided.step (decided : Decided d s) (chosen : d ≠ .undecided) (sound : Sound c s) (step : Step Undeciding s s') :
    Decided d s' := by
  cases step with
  | begins t task aside =>
    refine ⟨decided.chosen, ?_⟩
    intro w member
    rcases List.mem_append.1 member with before | new
    · exact decided.undeciding w before
    · obtain rfl := List.mem_singleton.1 new
      cases task with
      | setDiscoverability d => cases aside
      | _ => rfl
  | goesOn there asks _ answered =>
    obtain ⟨moves, -⟩ := sound.moves there asks _
    obtain ⟨spares, undeciding⟩ := undisturbed moves answered sound.orderly decided.chosen chosen
      (decided.undeciding _ (List.mem_of_getElem? there))
    refine ⟨?_, ?_⟩
    · rw [← decided.chosen]
      exact congrArg (Account.discoverability.valueOr .undecided) (answered.reading_eq sound.orderly spares)
    · intro w member
      rcases List.mem_or_eq_of_mem_set member with before | rfl
      · exact decided.undeciding w before
      · exact undeciding
  | opensScope t admits => exact decided.restored (sound.orderly.openScope admits).2
  | commitsScope t admits => exact decided.restored (sound.orderly.commitScope admits).2
  | works queue => exact ⟨decided.chosen, decided.undeciding⟩

theorem Decided.unfolds (decided : Decided d s) (chosen : d ≠ .undecided) (sound : Sound c s)
    (unfolds : Unfolds Undeciding s s') : Decided d s' := by
  induction unfolds with
  | refl => exact decided
  | tail earlier step ih => exact ih.step chosen (sound_of_unfolds earlier sound) step

end Crowd

open Crowd

/-- Once a choice can be read, it is what is read from then on, as long as its owner makes no other one
and nobody who found none made has yet to put the default in place. -/
theorem choice_kept {c : Installation κ σ} (orderly : c.store.Orderly) {s s' : Crowd κ σ}
    (reached : Unfolds (fun _ => True) (.start c) s) {t t' : Thread} (admits : s.client.store.Admits t)
    (admits' : s'.client.store.Admits t') {d : Discoverability} (decided : d ≠ .undecided)
    (chosen : (s.client.run t (getOr Account.discoverability .undecided)).1 = .ok d)
    (undeciding : ∀ w ∈ s.workers, w.stand.isDeciding = false) (later : Unfolds Undeciding s s') :
    (s'.client.run t' (getOr Account.discoverability .undecided)).1 = .ok d := by
  have sound := sound_of_unfolds reached (sound_start orderly)
  have sound' := sound_of_unfolds later sound
  rw [run_getOr_of_admits sound.orderly admits] at chosen
  rw [run_getOr_of_admits sound'.orderly admits']
  have start : Decided d s := ⟨chosen, undeciding⟩
  exact (start.unfolds decided sound later).chosen

/-! ## An early and a late choice -/

/-- An evaluation has made some calls when the owner chooses not to be discoverable. -/
@[irreducible]
private def chosenAfter (c : Installation κ σ) (calls : Nat) : Crowd κ σ :=
  rehearsed c [.setRegistered true, .setProfileName "Ada", .optOutOfPin, .evaluateGate, .setDiscoverability .notDiscoverable]
    ([0, 1, 2, 2] ++ List.replicate calls 3 ++ [4])

private theorem unfolds_chosenAfter {c : Installation κ σ} {m : Memory} (memory : c.store = .memory m) (calls : Nat) :
    Unfolds (fun _ => True) (start c) (chosenAfter c calls) ∧ ∃ m', (chosenAfter c calls).client.store = .memory m' := by
  unfold chosenAfter
  exact unfolds_rehearsed memory _ _

/-- An evaluation that has recorded the completion, and not yet looked at what the owner chose, keeps to
the choice. -/
theorem choice_kept_of_early :
    let c := Installation.rehearsed Installation.rehearsedKeys .empty
    ((chosenAfter c 7).client.run ⟨0, none⟩ (getOr Account.discoverability .undecided)).1 = .ok .notDiscoverable ∧
      (((chosenAfter c 7).turns [3, 3, 3]).client.run ⟨0, none⟩ (getOr Account.discoverability .undecided)).1 =
        .ok .notDiscoverable := by
  intro c
  obtain ⟨reached, memory⟩ := unfolds_chosenAfter (c := c) (m := .empty) rfl 7
  obtain ⟨later, memory'⟩ := unfolds_turns Undeciding memory.choose_spec [3, 3, 3]
  have chosen : ((chosenAfter c 7).client.run ⟨0, none⟩ (getOr Account.discoverability .undecided)).1 = .ok .notDiscoverable := by
    decide +kernel
  exact ⟨chosen, choice_kept (c := c) trivial reached (admits_of_memory _ memory) (admits_of_memory _ memory') nofun chosen
    (by decide +kernel) later⟩

/-- An evaluation that has read that nothing was chosen makes the number discoverable, although by then
the choice not to be is stored and read and no other one is made. -/
theorem choice_overridden :
    let c := Installation.rehearsed Installation.rehearsedKeys .empty
    Unfolds (fun _ => True) (start c) (chosenAfter c 8) ∧
      Unfolds Undeciding (chosenAfter c 8) ((chosenAfter c 8).turns [3, 3, 3]) ∧
      ((chosenAfter c 8).workers[4]?.map fun w => (w.task.choice?, w.isDone)) = some (some .notDiscoverable, true) ∧
      ((chosenAfter c 8).client.run ⟨0, none⟩ (getOr Account.discoverability .undecided)).1 = .ok .notDiscoverable ∧
      (((chosenAfter c 8).turns [3, 3, 3]).client.run ⟨0, none⟩ (getOr Account.discoverability .undecided)).1 =
        .ok .discoverable := by
  intro c
  obtain ⟨reached, m, memory⟩ := unfolds_chosenAfter (c := c) (m := .empty) rfl 8
  exact ⟨reached, (unfolds_turns Undeciding memory [3, 3, 3]).1, by decide +kernel, by decide +kernel, by decide +kernel⟩

end Enrolment.Client
