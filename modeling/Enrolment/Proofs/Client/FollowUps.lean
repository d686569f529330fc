import Enrolment.Proofs.Client.Dealings
/-!
The queue of work after an attempt that succeeded. Main statement: whatever was pending may be tried at
once and is else as it was, and behind it come the maintenance jobs and, if the attempt completed the
enrolment, the chain of work that follows completion (`register_queues`).
-/
namespace Enrolment.Client

open Store Activity

variable {κ σ ε α β τ : Type} {c : Installation κ σ} {t : Thread}

/-! ## The queue, call by call -/

def queueAfter (q : JobQueue) : Effect → JobQueue
  | .enqueue job => q.enqueue job
  | .enqueueChain jobs => q.enqueueChain jobs
  | .clearBackoff => q.update fun spec => { spec with retryInterval := 0 }
  | _ => q

def queueing : Plan.Contract effects JobQueue where
  allowed _ _ := True
  answered call q _ q' := q' = queueAfter q call

def Queues (a : Activity ε α) (good : α → JobQueue → Prop) (q : JobQueue) : Prop :=
  Ensures queueing a good (fun _ _ => True) q

theorem Queues.run {a : Activity ε α} {good : α → JobQueue → Prop} (queues : Queues a good c.queue) {x : α}
    (done : (c.run t a).1 = .ok x) : good x (c.run t a).2.queue := by
  have honours : Plan.Honours (Installation.handle (κ := κ) (σ := σ) t) queueing fun c q => c.queue = q := by
    rintro call c _ rfl -
    cases call <;> exact ⟨_, rfl, rfl⟩
  obtain ⟨q, held, rfl⟩ := Plan.Meets.run honours queues (t := c) rfl
  rwa [show (a.run.run (Installation.handle t) c).1 = _ from done] at held

variable {good : α → JobQueue → Prop} {q : JobQueue}

theorem queues_bind {a : Activity ε α} {f : α → Activity ε β} {good : β → JobQueue → Prop} :
    Queues (a >>= f) good q ↔ Queues a (fun x q' => Queues (f x) good q') q :=
  ensures_bind

theorem queues_call {e : Effect} {good : e.Answer → JobQueue → Prop} (held : ∀ answer, good answer (queueAfter q e)) :
    Queues (ε := ε) (call e) good q := by
  refine ⟨trivial, ?_⟩
  rintro answer _ rfl
  exact held answer

theorem queues_spares {a : Activity ε α} (calls : Calls SparesQueue a) (held : ∀ x, good x q) : Queues a good q := by
  have same : Ensures queueing a (fun _ q' => q' = q) (fun _ q' => q' = q) q := by
    refine calls.ensures (fun call q' spares (same : q' = q) => ⟨trivial, ?_⟩) rfl
    rintro answer _ rfl
    cases call <;> first | exact same | exact spares.elim
  refine same.mono ?_ fun _ _ _ => trivial
  rintro x _ rfl
  exact held x

/-! ## The parts of the follow-up work -/

def maintaining : Activity Fault Unit := do
  call .clearBackoff
  for job in maintenanceJobs do
    call (.enqueue job.spec)

def recordPin (a : Application) : Activity Fault Unit :=
  if a.establishesPin then do
    setPinEstablished
    match a.recoveryPassword with
    | some password => put Account.recoveryPassword password
    | none => pure ()
    put Account.registrationLock a.registrationLock.isSome
  else pure ()

theorem scheduleFollowUps_eq (a : Application) :
    scheduleFollowUps a = maintaining >>= fun _ => recordPin a >>= fun _ => evaluate := by
  unfold scheduleFollowUps maintaining recordPin
  cases a.recoveryPassword <;> split <;> simp only [bind_assoc, pure_bind]

private theorem ensures_evaluate {C : Plan.Contract effects τ} {good : Bool → τ → Prop} {bad : Fault → τ → Prop} {s : τ}
    (gate : ∀ call ∈ [Effect.enterGate, .leaveGate], ∀ s, C.allowed call s ∧
      ∀ answer s', C.answered call s answer s' → s' = s)
    (guarded : Ensures C evaluateGuarded good bad s) : Ensures C evaluate good bad s := by
  refine ⟨(gate .enterGate (by simp) s).1, fun answer s' entered => ?_⟩
  obtain rfl := (gate .enterGate (by simp) s).2 answer s' entered
  refine (Plan.meets_bind (p := evaluateGuarded.run)).2 (Plan.Meets.mono ?_ guarded)
  intro result s held
  refine ⟨(gate .leaveGate (by simp) s).1, fun answer s' left => ?_⟩
  obtain rfl := (gate .leaveGate (by simp) s).2 answer s' left
  exact held

def pinKeys : List String :=
  [Account.pinSet.key, Account.pinOptedOut.key, Account.recoveryPassword.key, Account.registrationLock.key]

theorem reach_recordPin (a : Application) : Calls (Within [] pinKeys fun _ => False) (recordPin a) := by
  have pinned : Calls (Within [] pinKeys fun _ => False) setPinEstablished :=
    Calls.bind (within_put (by decide)) fun _ => within_put (by decide)
  unfold recordPin
  split
  · refine pinned.bind fun _ => ?_
    cases a.recoveryPassword with
    | some password => exact Calls.bind (within_put (by decide)) fun _ => within_put (by decide)
    | none => exact within_put (by decide)
  · exact calls_pure _

/-! ## What is queued -/

private theorem enqueues (jobs : List Job) (q : JobQueue) :
    Queues (ε := Fault) (forIn jobs PUnit.unit fun job _ => do
        call (.enqueue job.spec)
        pure (ForInStep.yield PUnit.unit))
      (fun _ q' => q' = q ++ jobs.map fun job => .single job.spec) q := by
  refine (Ensures.forIn_rest (fun left q' => q ++ jobs.map (fun job => .single job.spec) =
      q' ++ left.map fun job => .single job.spec) ?_ rfl).mono ?_ fun _ _ => id
  · intro job left _ q' so_far
    refine queues_bind.2 (queues_call fun _ => ensures_pure ⟨_, rfl, ?_⟩)
    rw [so_far]
    simp [queueAfter, JobQueue.enqueue]
  · intro _ q' done
    rw [done, List.map_nil, List.append_nil]

theorem maintaining_queues (q : JobQueue) :
    Queues maintaining (fun _ q' => q' = q.map (QueueEntry.map fun spec => { spec with retryInterval := 0 }) ++
      maintenanceJobs.map fun job => .single job.spec) q :=
  queues_bind.2 (queues_call fun _ => enqueues maintenanceJobs _)

def chainIf (passed : Bool) : JobQueue := if passed then [.chain completionJobs] else []

theorem evaluate_queues (q : JobQueue) : Queues evaluate (fun passed q' => q' = q ++ chainIf passed) q := by
  have reads : Calls SparesQueue readCompletionInputs :=
    sparesQueue_of_within reach_readCompletionInputs fun _ => False.elim
  refine ensures_evaluate ?_ ?_
  · intro call gate q
    refine ⟨trivial, ?_⟩
    rintro answer _ rfl
    rcases List.mem_pair.1 gate with rfl | rfl <;> rfl
  refine queues_bind.2 (queues_spares reads fun inputs => ?_)
  split
  · refine queues_bind.2 (queues_spares (calls_put trivial) fun _ => ?_)
    refine queues_bind.2 (queues_spares (calls_getOr trivial) fun decided => ?_)
    split
    · refine queues_bind.2 (queues_spares (calls_put trivial) fun _ => ?_)
      exact queues_bind.2 (queues_call fun _ => ensures_pure rfl)
    · exact queues_bind.2 (queues_call fun _ => ensures_pure rfl)
  · exact ensures_pure (List.append_nil q).symm

theorem scheduleFollowUps_queues (a : Application) (q : JobQueue) :
    Queues (scheduleFollowUps a)
      (fun passed q' => q' = q.map (QueueEntry.map fun spec => { spec with retryInterval := 0 }) ++
        (maintenanceJobs.map fun job => .single job.spec) ++ chainIf passed) q := by
  have recorded : Calls SparesQueue (recordPin a) := sparesQueue_of_within (reach_recordPin a) fun _ => False.elim
  rw [scheduleFollowUps_eq]
  refine queues_bind.2 ((maintaining_queues q).mono ?_ fun _ _ => id)
  rintro _ _ rfl
  exact queues_bind.2 (queues_spares recorded fun _ => evaluate_queues _)

/-! ## The completion flag -/

/-- What the completion flag says before and after; it was raised if and only if this passed the gate. -/
def Raised (passed : Bool) (r r' : Readings) : Prop :=
  ∃ before after, Account.complete.valueOr false (r Account.complete.key) = .ok before ∧
    Account.complete.valueOr false (r' Account.complete.key) = .ok after ∧
    (passed = true ↔ before = false ∧ after = true)

variable {s : Readings × Journal}

theorem readCompletionInputs_deals : Deals readCompletionInputs (fun inputs s' => s' = s ∧
    Account.complete.valueOr false (s.1 Account.complete.key) = .ok inputs.alreadyComplete) s := by
  refine deals_bind.2 (deals_getOr fun registered _ => ?_)
  refine deals_bind.2 (deals_bind.2 (deals_get? fun name _ => deals_pure ?_))
  refine deals_bind.2 (deals_getOr fun hasPin _ => ?_)
  refine deals_bind.2 (deals_getOr fun optedOut _ => ?_)
  exact deals_bind.2 (deals_getOr fun complete read => deals_pure ⟨rfl, read⟩)

theorem evaluate_deals : Deals evaluate (fun passed s' => Raised passed s.1 s'.1) s := by
  refine ensures_evaluate ?_ ?_
  · intro call gate s
    rcases List.mem_pair.1 gate with rfl | rfl <;> refine ⟨trivial, ?_⟩ <;> rintro answer s' ⟨same, -, more⟩ <;>
      exact Prod.ext same (more.trans (List.append_nil _))
  refine deals_bind.2 (readCompletionInputs_deals.mono ?_)
  rintro inputs s ⟨rfl, read⟩
  by_cases complete : inputs.shouldComplete = true
  · have open_ : inputs.alreadyComplete = false := by
      unfold CompletionInputs.shouldComplete at complete
      simp_all
    have raised {r : Readings} (stays : r Account.complete.key = .ok (some (Account.complete.encode true))) :
        Raised true s.1 r := by
      refine ⟨false, true, open_ ▸ read, ?_, by simp⟩
      rw [stays]
      rfl
    have queued {r : Readings} {j : Journal} (stays : r Account.complete.key = .ok (some (Account.complete.encode true))) :
        Deals (ε := Fault) (do call (.enqueueChain completionJobs); return true) (fun passed s' => Raised passed s.1 s'.1) (r, j) :=
      deals_bind.2 ((deals_spares (calls_call (e := .enqueueChain _) trivial)).mono fun _ _ kept =>
        deals_pure (raised (kept.trans stays)))
    rw [if_pos complete]
    refine deals_bind.2 (deals_put (deals_bind.2 (deals_getOr fun decided _ => ?_)))
    split
    · exact deals_bind.2 (deals_put (queued rfl))
    · exact queued rfl
  · rw [if_neg complete]
    refine deals_pure ⟨_, _, read, read, ?_⟩
    cases inputs.alreadyComplete <;> simp

theorem scheduleFollowUps_deals (a : Application) :
    Deals (scheduleFollowUps a) (fun passed s' => Raised passed s.1 s'.1) s := by
  have maintained : Calls (SparesKey Account.complete.key) maintaining := by
    refine Calls.bind (calls_call trivial) fun _ => Calls.bind (Calls.forIn fun job _ => ?_) fun _ => calls_pure _
    exact Calls.bind (calls_call trivial) fun _ => calls_pure _
  have recorded : Calls (SparesKey Account.complete.key) (recordPin a) :=
    sparesKey_of_within (reach_recordPin a) (fun _ => False.elim) (by decide)
  rw [scheduleFollowUps_eq]
  refine deals_bind.2 ((deals_spares maintained).mono fun _ _ kept => ?_)
  refine deals_bind.2 ((deals_spares recorded).mono fun _ _ kept' => ?_)
  refine evaluate_deals.mono fun passed s' raised => ?_
  rwa [Raised, kept', kept] at raised

/-! ## The whole attempt -/

/-- A queue whose jobs need not wait before they are tried again, and are else as they were. -/
def relieved (q : JobQueue) : JobQueue := q.map fun
  | .single spec => .single { spec with retryInterval := 0 }
  | .chain specs => .chain (specs.map fun spec => { spec with retryInterval := 0 })

theorem conclusion_queues {p : Prepared} {a : Application} {aci : Aci} {pni : Pni} {ended : RecipientId × Bool}
    {c' : Installation κ σ} (done : c.run t (conclusion a p aci pni) = (.ok ended, c')) :
    c'.queue = relieved c.queue ++ (maintenanceJobs.map fun job => .single job.spec) ++ chainIf ended.2 ∧
      Raised ended.2 (c.readings t) (c'.readings t) := by
  rcases c.run_bind_cases t (commitment a p aci pni) (followUp a) with ⟨e, -, same, -⟩ | ⟨recipientId, -, same, -⟩
  · cases (congrArg Prod.fst same).symm.trans (congrArg Prod.fst done)
  have followed := same.symm.trans done
  have kept : (c.run t (commitment a p aci pni)).2.readings t Account.complete.key = c.readings t Account.complete.key :=
    readings_run (sparesKey_commitment a p aci pni (by decide))
  have queue := queue_run (c := c) (t := t) (sparesQueue_commitment a p aci pni)
  generalize (c.run t (commitment a p aci pni)).2 = c₁ at followed kept queue
  have queued : Queues (followUp a recipientId) (fun ended q' => q' = relieved c₁.queue ++
      (maintenanceJobs.map fun job => .single job.spec) ++ chainIf ended.2) c₁.queue :=
    queues_bind.2 (ensures_mapError.2 ((scheduleFollowUps_queues a c₁.queue).mono (fun _ _ is => ensures_pure is)
      fun _ _ => id))
  have flagged : Deals (followUp a recipientId) (fun ended s' => Raised ended.2 (c₁.readings t) s'.1) (c₁.readings t, []) :=
    deals_bind.2 (deals_mapError.2 ((scheduleFollowUps_deals a).mono fun _ _ raised => deals_pure raised))
  have queue' := queued.run (congrArg Prod.fst followed)
  have raised := flagged.run (congrArg Prod.fst followed)
  rw [followed] at queue' raised
  rw [queue] at queue'
  rw [Raised, kept] at raised
  exact ⟨queue', raised⟩

/-- Whatever there is in the queue, the store and the application: an attempt that succeeds relieves what
was pending, and queues the maintenance jobs behind it. The chain of work that follows completion comes last,
if and only if this attempt raised the completion flag; and it tells so. -/
theorem register_queues (c : Installation κ σ) (t : Thread) (a : Application) {e : Enrolled}
    (done : (c.run t (register a)).1 = .ok e) :
    let c' := (c.run t (register a)).2
    c'.queue = relieved c.queue ++
      [.single ⟨.directoryRefresh, 10, 30000⟩, .single ⟨.rotateSenderCertificate, 10, 30000⟩,
        .single ⟨.scheduleSignedPreKeyRotation, 10, 30000⟩, .single ⟨.scheduleDirectoryRefresh, 10, 30000⟩] ++
      (if e.completed then
        [.chain [⟨.refreshAttributes, 10, 30000⟩, ⟨.storageSync, 10, 30000⟩, ⟨.directoryRefresh, 10, 30000⟩]]
      else []) ∧
    ∃ before after, (c.run t (getOr Account.complete false)).1 = .ok before ∧
      (c'.run t (getOr Account.complete false)).1 = .ok after ∧ (e.completed = true ↔ before = false ∧ after = true) := by
  obtain ⟨p, verified, c₁, c₂, first, second, third, -⟩ := stages_of_ok done
  obtain ⟨queue, before, after, read, read', raised⟩ := conclusion_queues third
  have store : c₁.store = c.store := by rw [← store_verification (c := c) (t := t) a, first]
  have kept : c₂.readings t Account.complete.key = c.readings t Account.complete.key := by
    have unwritten : Account.complete.key ∉ boundKeys := by decide
    have kept := readings_run (c := c₁) (t := t) (sparesKey_rekeying p verified.aci verified.pni unwritten)
    rw [second] at kept
    rw [kept, Installation.readings, store]
    rfl
  have same : c₂.queue = c.queue := by
    have verified' := queue_run (c := c) (t := t) (sparesQueue_verification a)
    have rekeyed := queue_run (c := c₁) (t := t) (sparesQueue_rekeying p verified.aci verified.pni)
    rw [first] at verified'
    rw [second] at rekeyed
    exact rekeyed.trans verified'
  rw [same] at queue
  rw [kept] at read
  exact ⟨queue, before, after, (run_getOr_eq ..).trans read, (run_getOr_eq ..).trans read', raised⟩

open Rehearsal in
/-- A client with a profile name, and with a chain and a job that wait before they are tried again. -/
private def waiting : Installation KeyScript ServiceScript :=
  { Installation.rehearsed Installation.rehearsedKeys .empty with
    store := .memory { Memory.empty with values := [(Account.profileName.key, Account.profileName.encode "Ada")] }
    queue := [.chain [⟨.storageSync, 3, 60000⟩, ⟨.directoryRefresh, 10, 30000⟩], .single ⟨.refreshAttributes, 1, 5⟩] }

/-- An application that brings a PIN completes the enrolment; what waited need not wait any more. -/
theorem register_queues_completing :
    let c' := (waiting.run ⟨0, none⟩ (register { Application.rehearsed with registrationLock := some "lock" })).2
    c'.queue =
      [.chain [⟨.storageSync, 3, 0⟩, ⟨.directoryRefresh, 10, 0⟩], .single ⟨.refreshAttributes, 1, 0⟩,
        .single ⟨.directoryRefresh, 10, 30000⟩, .single ⟨.rotateSenderCertificate, 10, 30000⟩,
        .single ⟨.scheduleSignedPreKeyRotation, 10, 30000⟩, .single ⟨.scheduleDirectoryRefresh, 10, 30000⟩,
        .chain [⟨.refreshAttributes, 10, 30000⟩, ⟨.storageSync, 10, 30000⟩, ⟨.directoryRefresh, 10, 30000⟩]] ∧
      (waiting.run ⟨0, none⟩ (getOr Account.complete false)).1 = .ok false ∧
      (c'.run ⟨0, none⟩ (getOr Account.complete false)).1 = .ok true := by
  intro c'
  have done : (waiting.run ⟨0, none⟩ (register { Application.rehearsed with registrationLock := some "lock" })).1 =
      .ok ⟨⟨⟨0x000000000000400080000000000000a1⟩⟩, ⟨⟨0x000000000000400080000000000000b1⟩⟩, ⟨1⟩,
        [⟨.aci, ⟨16777215⟩, ⟨1⟩⟩, ⟨.pni, ⟨100⟩, ⟨200⟩⟩], false, true⟩ := by decide +kernel
  obtain ⟨queue, before, after, read, read', raised⟩ := register_queues waiting ⟨0, none⟩ _ done
  obtain ⟨rfl, rfl⟩ := raised.1 rfl
  exact ⟨queue, read, read'⟩

end Enrolment.Client
