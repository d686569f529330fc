import Enrolment.Proofs.Client.Completion
/-!
What an evaluation leaves that fails. It leaves everything as it was, unless it recorded the completion
and then could not read whether the number is discoverable: then the completion stays recorded, and
the work that should follow it is never queued (`evaluate_failed_cases`).
-/
namespace Enrolment.Client

open Store Activity Crowd

variable {κ σ : Type} {c : Installation κ σ} {t : Thread} {e : Fault}

theorem run_evaluate (c : Installation κ σ) (t : Thread) : c.run t evaluate = c.run t evaluateGuarded := by
  show Plan.run _ (_ >>= fun _ => evaluateGuarded.run >>= fun result => _ >>= fun _ => pure result) c = _
  rw [Plan.run_bind, Plan.run_bind]
  rfl

private theorem run_of_reads {ε α : Type} {a : Activity ε α} (calls : Calls (Within gateReads [] fun _ => False) a)
    (c : Installation κ σ) (t : Thread) : (c.run t a).2 = c := by
  refine Plan.Calls.run_same id ?_ calls c
  intro call c within
  cases within with
  | read member => exact congrArg (fun store => { c with store }) DataStore.perform_read
  | write member | erase member => cases member
  | other is => exact is.elim

private theorem finishing_failed
    (writable : (c.run t (put Account.discoverability .discoverable)).1 = .ok ())
    (failed : (c.run t finishing).1 = .error e) :
    (c.run t (get? Account.discoverability)).1 = .error e ∧ (c.run t finishing).2 = c := by
  have unmoved : (c.run t (getOr Account.discoverability .undecided)).2 = c := run_of_reads (within_getOr (by decide)) c t
  rcases c.run_bind_cases t (getOr Account.discoverability .undecided) _ with ⟨e', stopped, same, -⟩ | ⟨d, read, same, -⟩
  · obtain rfl : e' = e := Except.error.inj ((congrArg Prod.fst same).symm.trans failed)
    refine ⟨?_, (congrArg Prod.snd same).trans unmoved⟩
    rw [Installation.run_getOr] at stopped
    cases result : (c.run t (get? Account.discoverability)).1 with
    | ok o =>
      rw [result] at stopped
      cases stopped
    | error e =>
      rw [result] at stopped
      exact congrArg Except.error (Except.error.inj stopped)
  · have later := (congrArg Prod.fst same).symm.trans failed
    rw [unmoved] at later
    split at later
    · rcases c.run_bind_cases t (put Account.discoverability .discoverable) _ with ⟨e', stopped, -⟩ | ⟨_, -, same', -⟩
      · cases stopped.symm.trans writable
      · cases (congrArg Prod.fst same').symm.trans later
    · cases later

private theorem completing_failed (failed : (c.run t (put Account.complete true >>= fun _ => finishing)).1 = .error e) :
    (c.run t (put Account.complete true >>= fun _ => finishing)).2.queue = c.queue ∧
      ((c.run t (put Account.complete true >>= fun _ => finishing)).2.store = c.store ∨
        (c.run t (get? Account.discoverability)).1 = .error e ∧
          c.store.perform t (.write Account.complete.key (.bool true)) =
            (.ok (), (c.run t (put Account.complete true >>= fun _ => finishing)).2.store)) := by
  rcases c.run_bind_cases t (put Account.complete true) fun _ => finishing with ⟨e', stopped, same, -⟩ | ⟨_, done, same, -⟩
  · rw [same]
    have plain : (Json.bool true).isPlain = true := rfl
    obtain ⟨written, -⟩ | ⟨_, unchanged⟩ := c.store.perform_write t Account.complete.key plain
    · cases stopped.symm.trans written
    · exact ⟨rfl, Or.inl (congrArg Prod.snd unchanged)⟩
  · rw [same] at failed ⊢
    -- The thread has just written one value, so it can write another one.
    have writable : ((c.run t (put Account.complete true)).2.run t (put Account.discoverability .discoverable)).1 = .ok () :=
      DataStore.perform_write_again done
    obtain ⟨unread, unmoved⟩ := finishing_failed writable failed
    rw [unmoved]
    refine ⟨rfl, Or.inr ⟨?_, Prod.ext done rfl⟩⟩
    have other : (Operation.write Account.complete.key (.bool true)).edited? ≠ some Account.discoverability.key := by decide
    rw [Installation.run_get?] at unread ⊢
    rwa [← DataStore.read_perform other]

theorem evaluate_failed {c : Installation κ σ} {t : Thread} {e : Fault} (failed : (c.run t evaluate).1 = .error e) :
    (c.run t evaluate).2.queue = c.queue ∧
      ((c.run t evaluate).2.store = c.store ∨
        (c.run t (get? Account.discoverability)).1 = .error e ∧
          c.store.perform t (.write Account.complete.key (.bool true)) = (.ok (), (c.run t evaluate).2.store)) := by
  rw [run_evaluate, evaluateGuarded_eq] at failed ⊢
  rcases c.run_bind_cases t readCompletionInputs _ with ⟨e', -, same, -⟩ | ⟨inputs, -, same, -⟩
  · rw [same, run_of_reads reach_readCompletionInputs]
    exact ⟨rfl, Or.inl rfl⟩
  rw [same, run_of_reads reach_readCompletionInputs] at failed ⊢
  split at failed
  next complete =>
    rw [if_pos complete]
    exact completing_failed failed
  next incomplete => cases failed

/-! ## What is lost then -/

theorem chains_eq_nil_of_isRecorded (orderly : c.store.Orderly) (recorded : c.isRecorded = true) {may : Task → Prop}
    {s : Crowd κ σ} (unfolds : Unfolds may (.start c) s) : s.client.isRecorded = true ∧ s.journal.chains = [] := by
  have sound := sound_of_unfolds unfolds (sound_start orderly)
  have recordings := sound.recordings
  have bounded := Bool.toNat_le s.client.isRecorded
  rw [recorded, Bool.toNat_true] at recordings
  have queued := s.hasQueued_le_hasRecorded
  refine ⟨(sound_start orderly).isRecorded_unfolds unfolds recorded, ?_⟩
  rw [sound.chains, show s.count Stand.hasQueued = 0 by omega]
  rfl

/-- Where the completion came to be recorded, either the work was queued, or whoever recorded it has yet
to queue it or left the gate without doing so. -/
theorem chains_of_isRecorded (orderly : c.store.Orderly) (unrecorded : c.isRecorded = false) {may : Task → Prop}
    {s : Crowd κ σ} (unfolds : Unfolds may (.start c) s) (recorded : s.client.isRecorded = true) :
    s.journal.chains.length + s.count (fun k => k.hasRecorded && !k.hasQueued) = 1 := by
  have sound := sound_of_unfolds unfolds (sound_start orderly)
  have recordings := sound.recordings
  rw [unrecorded, recorded] at recordings
  have parts : s.count Stand.hasRecorded = s.count Stand.hasQueued + s.count (fun k => k.hasRecorded && !k.hasQueued) :=
    count_eq_add fun k => by cases k <;> rfl
  rw [sound.chains, List.length_replicate, ← parts]
  exact recordings

/-- An evaluation that fails leaves everything as it was, unless discoverability cannot be read. Then it
may have recorded the completion with nothing queued, and whatever is done later, the work that should
follow is never queued. -/
theorem evaluate_failed_cases {c : Installation κ σ} (orderly : c.store.Orderly) {t : Thread} (admits : c.store.Admits t)
    {e : Fault} (failed : (c.run t evaluate).1 = .error e) :
    (c.run t evaluate).2.queue = c.queue ∧
      ((c.run t evaluate).2.store = c.store ∨
        (c.run t (get? Account.discoverability)).1 = .error e ∧
        c.store.perform t (.write Account.complete.key (.bool true)) = (.ok (), (c.run t evaluate).2.store) ∧
        ∀ s, Unfolds (fun _ => True) (.start (c.run t evaluate).2) s → s.client.isRecorded = true ∧ s.journal.chains = []) := by
  obtain ⟨unqueued, unchanged | ⟨unread, written⟩⟩ := evaluate_failed failed
  · exact ⟨unqueued, Or.inl unchanged⟩
  refine ⟨unqueued, Or.inr ⟨unread, written, ?_⟩⟩
  intro s unfolds
  have orderly' : (c.run t evaluate).2.store.Orderly := by
    have kept := orderly.perform admits (.write Account.complete.key (.bool true))
    rwa [written] at kept
  have plain : (Json.bool true).isPlain = true := rfl
  obtain ⟨-, read⟩ | ⟨e', unchanged⟩ := DataStore.reading_write orderly admits Account.complete.key plain
  · rw [written] at read
    exact chains_eq_nil_of_isRecorded orderly' (Installation.isRecorded_iff.2 read) unfolds
  · cases (congrArg Prod.fst written).symm.trans (congrArg Prod.fst unchanged)

/-- All is there for completion, but what is stored as discoverability means nothing. -/
private def spoil : Activity Fault Unit := do
  put Account.registered true
  put Account.profileName "Ada"
  Client.optOutOfPin
  store (.write Account.discoverability.key (.str "?"))

private def spoiled : Installation Rehearsal.KeyScript Rehearsal.ServiceScript :=
  ((Installation.rehearsed Installation.rehearsedKeys .empty).run ⟨0, none⟩ spoil).2

/-- An evaluation fails with the completion recorded. Even when discoverability is in order again, the
next evaluation finds nothing to do. -/
theorem completion_lost :
    let failed := (spoiled.run ⟨0, none⟩ evaluate).2
    let repaired := (failed.run ⟨0, none⟩ (remove Account.discoverability)).2
    (spoiled.run ⟨0, none⟩ evaluate).1.isOk = false ∧
      (spoiled.run ⟨0, none⟩ (getOr Account.complete false)).1 = .ok false ∧
      (failed.run ⟨0, none⟩ (getOr Account.complete false)).1 = .ok true ∧ failed.queue = [] ∧
      (repaired.run ⟨0, none⟩ evaluate).1 = .ok false ∧ (repaired.run ⟨0, none⟩ evaluate).2.queue = [] := by
  decide +kernel

/-- Whatever is done after that failure, the work that should follow the completion is never queued. -/
theorem evaluate_failed_cases_unreadable :
    (spoiled.run ⟨0, none⟩ evaluate).1 = .error (.during (.ofMedium .json) (.decodingValue Account.discoverability.key)) ∧
      ∀ s, Unfolds (fun _ => True) (.start (spoiled.run ⟨0, none⟩ evaluate).2) s →
        s.client.isRecorded = true ∧ s.journal.chains = [] := by
  have failed : (spoiled.run ⟨0, none⟩ evaluate).1 =
      .error (.during (.ofMedium .json) (.decodingValue Account.discoverability.key)) := by decide +kernel
  have before : spoiled.isRecorded = false := by decide +kernel
  have after : (spoiled.run ⟨0, none⟩ evaluate).2.isRecorded = true := by decide +kernel
  obtain ⟨-, unchanged | ⟨-, -, never⟩⟩ := evaluate_failed_cases (c := spoiled) trivial trivial failed
  · unfold Installation.isRecorded at before after
    rw [unchanged] at after
    cases before.symm.trans after
  · exact ⟨failed, never⟩

end Enrolment.Client
