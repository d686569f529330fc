import Enrolment.Proofs.Client.Passage
import Mathlib.Logic.Relation
/-!
Many threads at one completion gate. Some evaluate it, some attempt to enrol the account, some store
values of it, and they take turns at every single call. A call on the store may also fail, and then it
has done nothing.

Main statements: what each turn keeps (`sound_step`), and so what any number of turns keeps
(`sound_of_unfolds`, `Sound.recorded_before`).
-/
namespace Enrolment.Client

open Store Activity

/-! ## What threads do -/

inductive Task where
  | evaluateGate
  | register (a : Application)
  | setRegistered (registered : Bool)
  | setProfileName (name : String)
  | setProfileKey (key : ProfileKey)
  | establishPin
  | optOutOfPin
  | setRecoveryPassword (password : String)
  | setRegistrationLock (enabled : Bool)
  | setDiscoverability (d : Discoverability)

def toldBy {ε α : Type} (a : Activity ε α) (told : α → Bool) : Plan effects Bool :=
  (fun
    | .ok x => told x
    | .error _ => false) <$> a.run

namespace Task

/-- The calls of a task, and at the end whether an evaluation that was part of it passed the gate. -/
def plan : Task → Plan effects Bool
  | evaluateGate => toldBy evaluate id
  | register a => toldBy (Client.register a) (·.completed)
  | setRegistered registered => toldBy (put Account.registered registered) fun _ => false
  | setProfileName name => toldBy (put Account.profileName name) fun _ => false
  | setProfileKey key => toldBy (put Account.profileKey key) fun _ => false
  | establishPin => toldBy setPinEstablished fun _ => false
  | optOutOfPin => toldBy Client.optOutOfPin fun _ => false
  | setRecoveryPassword password => toldBy (put Account.recoveryPassword password) fun _ => false
  | setRegistrationLock enabled => toldBy (put Account.registrationLock enabled) fun _ => false
  | setDiscoverability d => toldBy (put Account.discoverability d) fun _ => false

def start : Task → Stand
  | setDiscoverability _ => .choosing
  | _ => .outside

end Task

section

variable {ε α : Type} {a : Activity ε α} {p : Progress}

private theorem meets_toldBy {told : α → Bool}
    (ensures : Ensures passage a (fun x => Progress.Ends (told x)) (fun _ => Progress.Ends false) p) :
    Plan.Meets passage Progress.Ends (toldBy a told) p := by
  refine Plan.meets_map.2 (Plan.Meets.mono ?_ ensures)
  intro result p ends
  cases result <;> exact ends

private theorem meets_aside (calls : Calls Aloof a) (said : Journal) :
    Plan.Meets passage Progress.Ends (toldBy a fun _ => false) ⟨.outside, said⟩ :=
  meets_toldBy ((ensures_of_aloof calls).mono (fun _ _ => ends_of_outside) fun _ _ => ends_of_outside)

end

theorem Task.meets_plan (task : Task) : Plan.Meets passage Progress.Ends task.plan ⟨task.start, []⟩ := by
  cases task with
  | evaluateGate => exact meets_toldBy (evaluate_passage [])
  | register a => exact meets_toldBy (register_passage a [])
  | setRegistered registered => exact meets_aside (aloof_put (by decide) registered) []
  | setProfileName name => exact meets_aside (aloof_put (by decide) name) []
  | setProfileKey key => exact meets_aside (aloof_put (by decide) key) []
  | establishPin => exact meets_aside aloof_setPinEstablished []
  | optOutOfPin =>
    exact meets_aside (Calls.bind (aloof_put (by decide) true) fun _ => aloof_put (by decide) false) []
  | setRecoveryPassword password => exact meets_aside (aloof_put (by decide) password) []
  | setRegistrationLock enabled => exact meets_aside (aloof_put (by decide) enabled) []
  | setDiscoverability d =>
    refine meets_toldBy (ensures_store ⟨rfl, fun same => absurd (Option.some.inj same) (by decide), ?_⟩ ?_)
    · exact fun _ => ⟨Or.inl rfl, _, Account.discoverability.isPlain_encode d, rfl⟩
    · rintro answer _ rfl
      cases answer <;> exact ends_of_outside rfl

/-- A thread at its task: the calls that it still has to make, and what it asked and was answered. -/
structure Worker where
  thread : Thread
  task : Task
  rest : Plan effects Bool
  said : Journal

namespace Worker

def begin (t : Thread) (task : Task) : Worker := ⟨t, task, task.plan, []⟩

def progress (w : Worker) : Progress := w.said.foldl (fun p exchange => p.after exchange.1 exchange.2) ⟨w.task.start, []⟩

def stand (w : Worker) : Stand := w.progress.stand

def passed (w : Worker) : Bool :=
  match w.rest with
  | .done passed => passed
  | .ask _ _ => false

def isDone (w : Worker) : Bool :=
  match w.rest with
  | .done _ => true
  | .ask _ _ => false

def hear (w : Worker) {call : Effect} (next : call.Answer → Plan effects Bool) (answer : call.Answer) : Worker :=
  { w with rest := next answer, said := w.said ++ [⟨call, answer⟩] }

end Worker

/-! ## Taking turns -/

structure Crowd (κ σ : Type) where
  client : Installation κ σ
  taken : Bool
  workers : List Worker
  journal : Journal

/-- How a call can be answered. While a thread has a transaction open on a database, others wait. -/
inductive Answered {κ σ : Type} (c : Installation κ σ) (t : Thread) :
    (call : Effect) → call.Answer → Installation κ σ → Prop
  | performed (call : Effect) : (∀ op, call = .store op → c.store.Admits t) →
    Answered c t call (c.handle t call).1 (c.handle t call).2
  | failed (op : Operation) (e : Fault) : Answered c t (.store op) (.error e) c

namespace Crowd

variable {κ σ : Type}

def start (c : Installation κ σ) : Crowd κ σ := ⟨c, false, [], []⟩

/-- What can happen next, when only some tasks may be begun. -/
inductive Step (may : Task → Prop) : Crowd κ σ → Crowd κ σ → Prop
  | begins {s : Crowd κ σ} (t : Thread) (task : Task) : may task →
    Step may s { s with workers := s.workers ++ [.begin t task] }
  | goesOn {s : Crowd κ σ} {i : Nat} {w : Worker} {call : Effect} {next : call.Answer → Plan effects Bool}
    {answer : call.Answer} {client : Installation κ σ} :
    s.workers[i]? = some w → w.rest = .ask call next → (call = .enterGate → s.taken = false) →
    Answered s.client w.thread call answer client →
    Step may s ⟨client, insideAfter s.taken call, s.workers.set i (w.hear next answer), s.journal ++ [⟨call, answer⟩]⟩
  | opensScope {s : Crowd κ σ} (t : Thread) : s.client.store.Admits t →
    Step may s { s with client := { s.client with store := (s.client.store.openScope t).2 } }
  | commitsScope {s : Crowd κ σ} (t : Thread) : s.client.store.Admits t →
    Step may s { s with client := { s.client with store := (s.client.store.closeScope t true).2 } }
  | works {s : Crowd κ σ} (queue : JobQueue) : Step may s { s with client := { s.client with queue } }

abbrev Unfolds (may : Task → Prop) : Crowd κ σ → Crowd κ σ → Prop := Relation.ReflTransGen (Step may)

def count (s : Crowd κ σ) (p : Stand → Bool) : Nat := s.workers.countP fun w => p w.stand

end Crowd

/-! ## What an answer does to the store -/

section

variable {κ σ : Type} {c c' : Installation κ σ} {t : Thread} {call : Effect} {answer : call.Answer}

theorem Answered.orderly (answered : Answered c t call answer c') (orderly : c.store.Orderly) : c'.store.Orderly := by
  cases answered with
  | performed _ admits =>
    cases call with
    | store op => exact orderly.perform (admits op rfl) op
    | _ => exact orderly
  | failed => exact orderly

theorem Answered.reading_eq (answered : Answered c t call answer c') (orderly : c.store.Orderly) {key : String}
    (spares : Spares key call answer) : c'.store.reading key = c.store.reading key := by
  cases answered with
  | failed => rfl
  | performed _ admits =>
    cases call with
    | store op =>
      have admitted := admits op rfl
      cases op with
      | write edited value =>
        by_cases same : edited = key
        · obtain ⟨plain, e, failed⟩ := spares same
          obtain ⟨done, -⟩ | ⟨e', unchanged⟩ := DataStore.reading_write orderly admitted edited plain
          · have both : (Except.error e : Except Fault Unit) = .ok () := failed.symm.trans done
            cases both
          · exact congrArg (·.2.reading key) unchanged
        · exact DataStore.reading_perform orderly admitted fun is => same (Option.some.inj is)
      | erase edited => exact DataStore.reading_perform orderly admitted fun is => spares (Option.some.inj is)
      | _ => exact DataStore.reading_perform orderly admitted nofun
    | _ => rfl

theorem Answered.written {key : String} {value : Json} {answer : Except Fault Unit}
    (answered : Answered c t (.store (.write key value)) answer c') (orderly : c.store.Orderly)
    (plain : value.isPlain = true) (done : answer = .ok ()) : c'.store.reading key = .ok (some value) := by
  cases answered with
  | failed _ e => cases done
  | performed _ admits =>
    obtain ⟨-, read⟩ | ⟨e, failed⟩ := DataStore.reading_write orderly (admits _ rfl) key plain
    · exact read
    · have both : (Except.error e : Except Fault Unit) = .ok () := (congrArg Prod.fst failed).symm.trans done
      cases both

theorem Answered.read {key : String} {answer : Except Fault (Option Json)}
    (answered : Answered c t (.store (.read key)) answer c') (orderly : c.store.Orderly) {value : Option Json}
    (read : answer = .ok value) : c.store.reading key = .ok value := by
  cases answered with
  | failed _ e => cases read
  | performed _ admits => exact (DataStore.perform_read_of_admits orderly (admits _ rfl) key).symm.trans read

/-- The completion is recorded. -/
def Installation.isRecorded (c : Installation κ σ) : Bool :=
  match c.store.reading Account.complete.key with
  | .ok (some (.bool true)) => true
  | _ => false

theorem Installation.isRecorded_iff :
    c.isRecorded = true ↔ c.store.reading Account.complete.key = .ok (some (.bool true)) := by
  unfold isRecorded
  split
  · exact ⟨fun _ => ‹_›, fun _ => rfl⟩
  · exact ⟨nofun, fun is => absurd is ‹_›⟩

theorem Answered.isRecorded_eq (answered : Answered c t call answer c') (orderly : c.store.Orderly)
    (spares : Spares Account.complete.key call answer) : c'.isRecorded = c.isRecorded := by
  unfold Installation.isRecorded
  rw [answered.reading_eq orderly spares]

end

namespace Crowd

variable {κ σ : Type} {c : Installation κ σ} {s s' : Crowd κ σ}

/-! ## What every turn keeps -/

structure Sound (c : Installation κ σ) (s : Crowd κ σ) : Prop where
  orderly : s.client.store.Orderly
  meets : ∀ w ∈ s.workers, Plan.Meets passage Progress.Ends w.rest w.progress
  gate : s.count Stand.isInside = s.taken.toNat
  recordings : s.count Stand.hasRecorded + c.isRecorded.toNat = s.client.isRecorded.toNat
  clear : s.client.isRecorded = true → s.count Stand.isClear = 0
  chains : s.journal.chains = List.replicate (s.count Stand.hasQueued) completionJobs

theorem sound_start (orderly : c.store.Orderly) : Sound c (start c) where
  orderly := orderly
  meets := nofun
  gate := rfl
  recordings := Nat.zero_add _
  clear _ := rfl
  chains := rfl

section

variable {i : Nat} {w w' : Worker}

private theorem countP_set {p : Worker → Bool} {workers : List Worker} (there : workers[i]? = some w) :
    (workers.set i w').countP p + (p w).toNat = workers.countP p + (p w').toNat := by
  obtain ⟨inRange, rfl⟩ := List.getElem?_eq_some_iff.1 there
  rw [List.countP_set inRange]
  cases counted : p workers[i] with
  | false => cases p w' <;> simp
  | true =>
    have some_ : 0 < workers.countP p := List.countP_pos_iff.2 ⟨_, List.getElem_mem inRange, counted⟩
    cases p w' <;> simp <;> omega

private theorem progress_hear {call : Effect} (next : call.Answer → Plan effects Bool) (answer : call.Answer) :
    (w.hear next answer).progress = w.progress.after call answer := by
  simp [Worker.progress, Worker.hear]

end

theorem count_mono {p q : Stand → Bool} (implies : ∀ k, p k = true → q k = true) : s.count p ≤ s.count q :=
  List.countP_mono_left fun w _ => implies w.stand

theorem hasQueued_le_hasRecorded (s : Crowd κ σ) : s.count Stand.hasQueued ≤ s.count Stand.hasRecorded :=
  count_mono fun _ => Stand.hasRecorded_of_hasQueued

theorem count_eq_add {p q r : Stand → Bool} (parts : ∀ k, (p k).toNat = (q k).toNat + (r k).toNat) :
    s.count p = s.count q + s.count r := by
  unfold count
  induction s.workers with
  | nil => rfl
  | cons w workers ih =>
    have counted (p : Stand → Bool) : (w :: workers).countP (fun w => p w.stand) =
        workers.countP (fun w => p w.stand) + (p w.stand).toNat := by
      rw [List.countP_cons]
      cases p w.stand <;> rfl
    have part := parts w.stand
    rw [counted, counted, counted]
    omega

private theorem present {i : Nat} {w : Worker} (there : s.workers[i]? = some w) (p : Stand → Bool) :
    (p w.stand).toNat ≤ s.count p := by
  cases is : p w.stand with
  | false => exact Nat.zero_le _
  | true => exact List.countP_pos_iff.2 ⟨w, List.mem_of_getElem? there, is⟩

private theorem isRecorded_of_finds {client : Installation κ σ} {t : Thread} {answer : Except Fault (Option Json)}
    (answered : Answered c t (.store (.read Account.complete.key)) answer client) (orderly : c.store.Orderly)
    (found : Account.complete.valueOr false answer = .ok false) : c.isRecorded = false := by
  rcases Slot.valueOr_flag_eq_false.1 found with absent | set
  · rw [Installation.isRecorded, answered.read orderly absent]
  · rw [Installation.isRecorded, answered.read orderly set]

section

/-! One worker moves from a stand to another: what that does to the numbers of workers at certain stands. -/

variable {n n' : (Stand → Bool) → Nat} {k k' : Stand} {call : Effect} {answer : call.Answer}
  (counted : ∀ p, n' p + (p k).toNat = n p + (p k').toNat) (moves : Stand.Moves call answer k k')

include counted moves

private theorem gate_turn {taken : Bool} (free : call = .enterGate → taken = false)
    (gate : n Stand.isInside = taken.toNat) : n' Stand.isInside = (insideAfter taken call).toNat := by
  have turned := counted Stand.isInside
  rw [moves.inside_eq, gate] at turned
  cases call with
  | enterGate =>
    cases moves with
    | stays k besides => exact besides.elim
    | enters =>
      rw [free rfl] at turned
      exact turned
  | leaveGate =>
    cases moves with
    | stays k besides => exact besides.elim
    | leaves isInside =>
      rw [isInside] at turned
      have := Bool.toNat_le taken
      simp only [insideAfter, Bool.toNat_true, Bool.toNat_false] at turned ⊢
      omega
  | _ => exact Nat.add_right_cancel turned

private theorem chains_turn {chains : List (List JobSpec)}
    (queued : chains = List.replicate (n Stand.hasQueued) completionJobs) :
    chains ++ Journal.chains [⟨call, answer⟩] = List.replicate (n' Stand.hasQueued) completionJobs := by
  have turned := counted Stand.hasQueued
  obtain ⟨same, none_⟩ | ⟨before, after, one⟩ := moves.queued_cases
  · rw [same] at turned
    rw [none_, List.append_nil, queued, Nat.add_right_cancel turned]
  · rw [before, after] at turned
    rw [one, queued, show n' Stand.hasQueued = n Stand.hasQueued + 1 from turned, List.replicate_succ']

private theorem recordings_turn {c client client' : Installation κ σ} {t : Thread} (orderly : client.store.Orderly)
    (answered : Answered client t call answer client') (present : ∀ p, (p k).toNat ≤ n p)
    (alone : n Stand.isClear ≤ 1)
    (recordings : n Stand.hasRecorded + c.isRecorded.toNat = client.isRecorded.toNat)
    (clear : client.isRecorded = true → n Stand.isClear = 0) :
    n' Stand.hasRecorded + c.isRecorded.toNat = client'.isRecorded.toNat ∧
      (client'.isRecorded = true → n' Stand.isClear = 0) := by
  have recorded := counted Stand.hasRecorded
  have cleared := counted Stand.isClear
  -- All moves but one leave the record as it is.
  have quiet (spares : Spares Account.complete.key call answer) (same : k'.hasRecorded = k.hasRecorded)
      (unclear : k'.isClear = true → k.isClear = true ∨ client.isRecorded = false) :
      n' Stand.hasRecorded + c.isRecorded.toNat = client'.isRecorded.toNat ∧
        (client'.isRecorded = true → n' Stand.isClear = 0) := by
    rw [answered.isRecorded_eq orderly spares, ← recordings]
    rw [same] at recorded
    refine ⟨congrArg (· + _) (Nat.add_right_cancel recorded), ?_⟩
    intro done
    have none_ := clear done
    cases after : k'.isClear with
    | false =>
      rw [after, none_] at cleared
      exact Nat.eq_zero_of_add_eq_zero_right cleared
    | true =>
      obtain before | unrecorded := unclear after
      · rw [before, after, none_] at cleared
        exact Nat.add_right_cancel cleared
      · cases unrecorded.symm.trans done
  cases moves with
  | records =>
    -- Only this worker was clear, and so nothing was recorded before.
    have one : 1 ≤ n Stand.isClear := present Stand.isClear
    have unrecorded : client.isRecorded = false := by
      by_contra done
      have none_ := clear (by simpa using done)
      omega
    have done : client'.isRecorded = true := Installation.isRecorded_iff.2 (answered.written orderly rfl rfl)
    rw [unrecorded] at recordings
    rw [done]
    simp only [Stand.hasRecorded, Stand.isClear, Bool.toNat_true, Bool.toNat_false] at recorded cleared recordings ⊢
    omega
  | finds found => exact quiet trivial rfl fun _ => Or.inr (isRecorded_of_finds answered orderly found)
  | stays k besides spares => exact quiet spares rfl Or.inl
  | leaves => exact quiet trivial (by cases k <;> rfl) (by cases k <;> exact nofun)
  | defaults => exact quiet (fun same => absurd same (by decide)) rfl nofun
  | chooses apart => exact quiet (fun same => absurd same apart) rfl nofun
  | _ => exact quiet trivial rfl nofun

end

theorem Sound.moves (sound : Sound c s) {i : Nat} {w : Worker} {call : Effect} {next : call.Answer → Plan effects Bool}
    (there : s.workers[i]? = some w) (asks : w.rest = .ask call next) (answer : call.Answer) :
    Stand.Moves call answer w.stand (w.hear next answer).stand ∧
      Plan.Meets passage Progress.Ends (next answer) (w.hear next answer).progress := by
  obtain ⟨permitted, rest⟩ : Plan.Meets passage Progress.Ends (.ask call next) w.progress :=
    asks ▸ sound.meets w (List.mem_of_getElem? there)
  rw [Worker.stand, Worker.stand, progress_hear]
  exact ⟨Stand.moves permitted answer, rest answer _ rfl⟩

theorem Sound.goesOn (sound : Sound c s) {i : Nat} {w : Worker} {call : Effect} {next : call.Answer → Plan effects Bool}
    {answer : call.Answer} {client : Installation κ σ} (there : s.workers[i]? = some w) (asks : w.rest = .ask call next)
    (free : call = .enterGate → s.taken = false) (answered : Answered s.client w.thread call answer client) :
    Sound c ⟨client, insideAfter s.taken call, s.workers.set i (w.hear next answer), s.journal ++ [⟨call, answer⟩]⟩ := by
  obtain ⟨moves, meets⟩ := sound.moves there asks answer
  let n (p : Stand → Bool) : Nat := (s.workers.set i (w.hear next answer)).countP fun w => p w.stand
  have counted (p : Stand → Bool) : n p + (p w.stand).toNat = s.count p + (p (w.hear next answer).stand).toNat :=
    countP_set there
  have alone : s.count Stand.isClear ≤ 1 := by
    have inside : s.count Stand.isClear ≤ s.count Stand.isInside := count_mono fun _ => Stand.isInside_of_isClear
    have := Bool.toNat_le s.taken
    have := sound.gate
    omega
  obtain ⟨recordings, clear⟩ :=
    recordings_turn counted moves sound.orderly answered (present there) alone sound.recordings sound.clear
  refine ⟨answered.orderly sound.orderly, ?_, gate_turn counted moves free sound.gate, recordings, clear, ?_⟩
  · intro w' member
    rcases List.mem_or_eq_of_mem_set member with before | rfl
    · exact sound.meets w' before
    · exact meets
  · rw [Journal.chains_append]
    exact chains_turn counted moves sound.chains

theorem Sound.begins (sound : Sound c s) (t : Thread) (task : Task) :
    Sound c { s with workers := s.workers ++ [.begin t task] } := by
  have begun (p : Stand → Bool) (aside : p task.start = false) :
      count { s with workers := s.workers ++ [.begin t task] } p = s.count p := by
    have stands : (Worker.begin t task).stand = task.start := rfl
    simp [count, List.countP_append, stands, aside]
  refine ⟨sound.orderly, ?_, ?_, ?_, ?_, ?_⟩
  · intro w member
    rcases List.mem_append.1 member with before | new
    · exact sound.meets w before
    · obtain rfl := List.mem_singleton.1 new
      exact task.meets_plan
  · rw [begun _ (by cases task <;> rfl)]
    exact sound.gate
  · rw [begun _ (by cases task <;> rfl)]
    exact sound.recordings
  · rw [begun _ (by cases task <;> rfl)]
    exact sound.clear
  · rw [begun _ (by cases task <;> rfl)]
    exact sound.chains

theorem Sound.restored (sound : Sound c s) {store : DataStore} (orderly : store.Orderly)
    (same : store.reading = s.client.store.reading) : Sound c { s with client := { s.client with store } } := by
  have recorded : Installation.isRecorded { s.client with store } = s.client.isRecorded := by
    unfold Installation.isRecorded
    rw [same]
  refine ⟨orderly, sound.meets, sound.gate, ?_, ?_, sound.chains⟩
  · rw [recorded]
    exact sound.recordings
  · rw [recorded]
    exact sound.clear

theorem sound_step {may : Task → Prop} (step : Step may s s') (sound : Sound c s) : Sound c s' := by
  cases step with
  | begins t task _ => exact sound.begins t task
  | goesOn there asks free answered => exact sound.goesOn there asks free answered
  | opensScope t admits =>
    obtain ⟨orderly, same⟩ := sound.orderly.openScope admits
    exact sound.restored orderly same
  | commitsScope t admits =>
    obtain ⟨orderly, same⟩ := sound.orderly.commitScope admits
    exact sound.restored orderly same
  | works queue => exact ⟨sound.orderly, sound.meets, sound.gate, sound.recordings, sound.clear, sound.chains⟩

/-! ## What any number of turns keeps -/

private theorem spares_or_records {k k' : Stand} {call : Effect} {answer : call.Answer}
    (moves : Stand.Moves call answer k k') {client client' : Installation κ σ} {t : Thread}
    (answered : Answered client t call answer client') (orderly : client.store.Orderly) :
    Spares Account.complete.key call answer ∨ client'.isRecorded = true := by
  cases moves with
  | records => exact Or.inr (Installation.isRecorded_iff.2 (answered.written orderly rfl rfl))
  | stays k besides spares => exact Or.inl spares
  | defaults => exact Or.inl fun same => absurd same (by decide)
  | chooses apart => exact Or.inl fun same => absurd same apart
  | _ => exact Or.inl trivial

variable {may : Task → Prop}

theorem sound_of_unfolds (unfolds : Unfolds may s s') (sound : Sound c s) : Sound c s' := by
  induction unfolds with
  | refl => exact sound
  | tail _ step ih => exact sound_step step ih

theorem Sound.isRecorded_step (sound : Sound c s) (step : Step may s s') (recorded : s.client.isRecorded = true) :
    s'.client.isRecorded = true := by
  have read := Installation.isRecorded_iff.1 recorded
  cases step with
  | begins | works => exact recorded
  | goesOn there asks _ answered =>
    obtain ⟨moves, -⟩ := sound.moves there asks _
    obtain spares | done := spares_or_records moves answered sound.orderly
    · exact (answered.isRecorded_eq sound.orderly spares).trans recorded
    · exact done
  | opensScope t admits =>
    obtain ⟨-, same⟩ := sound.orderly.openScope admits
    exact Installation.isRecorded_iff.2 ((congrFun same _).trans read)
  | commitsScope t admits =>
    obtain ⟨-, same⟩ := sound.orderly.commitScope admits
    exact Installation.isRecorded_iff.2 ((congrFun same _).trans read)

theorem Sound.isRecorded_unfolds (sound : Sound c s) (unfolds : Unfolds may s s') (recorded : s.client.isRecorded = true) :
    s'.client.isRecorded = true := by
  induction unfolds with
  | refl => exact recorded
  | tail earlier step ih => exact (sound_of_unfolds earlier sound).isRecorded_step step ih

private theorem mem_or_new {t : Thread} {task : Task} {i : Nat} {w : Worker}
    (there : (s.workers ++ [.begin t task])[i]? = some w) : s.workers[i]? = some w ∨ w = .begin t task := by
  rw [List.getElem?_append] at there
  split at there
  · exact Or.inl there
  · exact Or.inr (List.mem_singleton.1 (List.mem_of_getElem? there))

private theorem other_or_heard {i j : Nat} {w w' heard : Worker} (there : s.workers[j]? = some w)
    (found : (s.workers.set j heard)[i]? = some w') : i ≠ j ∧ s.workers[i]? = some w' ∨ i = j ∧ w' = heard := by
  by_cases same : i = j
  · subst same
    obtain ⟨inRange, -⟩ := List.getElem?_eq_some_iff.1 there
    rw [List.getElem?_set_self inRange] at found
    exact Or.inr ⟨rfl, (Option.some.inj found).symm⟩
  · rw [List.getElem?_set_ne (Ne.symm same)] at found
    exact Or.inl ⟨same, found⟩

/-- Once the completion is recorded, nobody records it who has not done so. -/
theorem Sound.recorded_before (sound : Sound c s) (unfolds : Unfolds may s s') (recorded : s.client.isRecorded = true)
    {i : Nat} {w' : Worker} (there : s'.workers[i]? = some w') (has : w'.stand.hasRecorded = true) :
    ∃ w, s.workers[i]? = some w ∧ w.stand.hasRecorded = true := by
  induction unfolds generalizing w' with
  | refl => exact ⟨w', there, has⟩
  | @tail s₁ s₂ earlier step ih =>
    have sound₁ := sound_of_unfolds earlier sound
    have recorded₁ := sound.isRecorded_unfolds earlier recorded
    cases step with
    | begins t task =>
      rcases mem_or_new there with before | rfl
      · exact ih before has
      · cases task <;> cases has
    | goesOn there₁ asks free answered =>
      rcases other_or_heard there₁ there with ⟨-, before⟩ | ⟨rfl, rfl⟩
      · exact ih before has
      obtain ⟨moves, -⟩ := sound₁.moves there₁ asks _
      rcases moves.clear_or_recorded has with already | clear
      · exact ih there₁ already
      · have one := present there₁ Stand.isClear
        rw [clear, sound₁.clear recorded₁] at one
        cases one
    | _ => exact ih there has

/-! ## Trying things on -/

theorem admits_of_memory {c : Installation κ σ} (t : Thread) (memory : ∃ m, c.store = .memory m) : c.store.Admits t := by
  obtain ⟨m, is⟩ := memory
  rw [is]
  trivial

def join (s : Crowd κ σ) (tasks : List Task) : Crowd κ σ :=
  tasks.foldl (fun s task => { s with workers := s.workers ++ [.begin ⟨s.workers.length, none⟩ task] }) s

theorem unfolds_join (tasks : List Task) : Unfolds (fun _ => True) s (s.join tasks) := by
  induction tasks generalizing s with
  | nil => exact .refl
  | cons task tasks ih => exact ih.head (.begins ⟨s.workers.length, none⟩ task trivial)

def mayGo (taken : Bool) : Effect → Bool
  | .enterGate => !taken
  | _ => true

/-- A worker makes its next call, unless it has to wait for the gate. -/
def turn (s : Crowd κ σ) (i : Nat) : Crowd κ σ :=
  match s.workers[i]? with
  | none => s
  | some w =>
    match w.rest with
    | .done _ => s
    | .ask call next =>
      if mayGo s.taken call then
        let (answer, client) := s.client.handle w.thread call
        ⟨client, insideAfter s.taken call, s.workers.set i (w.hear next answer), s.journal ++ [⟨call, answer⟩]⟩
      else s

def turns (s : Crowd κ σ) (schedule : List Nat) : Crowd κ σ := schedule.foldl turn s

private theorem unfolds_turn (may : Task → Prop) {m : Memory} (memory : s.client.store = .memory m) (i : Nat) :
    Unfolds may s (s.turn i) ∧ ∃ m', (s.turn i).client.store = .memory m' := by
  unfold turn
  split
  · exact ⟨.refl, m, memory⟩
  next w there =>
    split
    · exact ⟨.refl, m, memory⟩
    next call next asks =>
      split
      next free =>
        refine ⟨.single (.goesOn there asks ?_ (.performed call ?_)), ?_⟩
        · rintro rfl
          simpa [mayGo] using free
        · intro op _
          rw [memory]
          trivial
        · cases call with
          | store op => exact ⟨(m.perform op).2, by simp [Installation.handle, memory, DataStore.perform]⟩
          | _ => exact ⟨m, memory⟩
      · exact ⟨.refl, m, memory⟩

theorem unfolds_turns (may : Task → Prop) {m : Memory} (memory : s.client.store = .memory m) (schedule : List Nat) :
    Unfolds may s (s.turns schedule) ∧ ∃ m', (s.turns schedule).client.store = .memory m' := by
  induction schedule generalizing s m with
  | nil => exact ⟨.refl, m, memory⟩
  | cons i schedule ih =>
    obtain ⟨first, m', memory'⟩ := unfolds_turn may memory i
    obtain ⟨rest, memory''⟩ := ih memory'
    exact ⟨first.trans rest, memory''⟩

theorem client_join (tasks : List Task) : (s.join tasks).client = s.client := by
  induction tasks generalizing s with
  | nil => rfl
  | cons task tasks ih => exact ih

def rehearsed (c : Installation κ σ) (tasks : List Task) (schedule : List Nat) : Crowd κ σ :=
  ((start c).join tasks).turns schedule

theorem unfolds_rehearsed {m : Memory} (memory : c.store = .memory m) (tasks : List Task) (schedule : List Nat) :
    Unfolds (fun _ => True) (start c) (rehearsed c tasks schedule) ∧
      ∃ m', (rehearsed c tasks schedule).client.store = .memory m' := by
  have memory' : ((start c).join tasks).client.store = .memory m := by rw [client_join]; exact memory
  obtain ⟨unfolds, last⟩ := unfolds_turns _ memory' schedule
  exact ⟨(unfolds_join tasks).trans unfolds, last⟩

end Crowd

end Enrolment.Client
