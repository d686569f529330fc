import Enrolment.Proofs.Client.Contents
import Enrolment.Proofs.Client.Reach
import Enrolment.Proofs.Client.Run
import Enrolment.Proofs.Store.Order
import Mathlib.Data.Set.Card
/-!
What becomes of the session states that are stored. Whatever is stored, archived and bound in whatever
order, each session holds all states stored in it, newest first (`sessions_recounted`).

What was done is listed with the last move first.
-/
namespace Enrolment.Client

open Store Activity

/-! ## Histories -/

inductive SessionMove
  | stores (space : Namespace) (address : PeerAddress) (state : Bytes)
  | archives (space : Namespace)
  | binds (aci : Aci) (pni : Pni)

namespace SessionMove

def activity : SessionMove → Activity Fault Unit
  | stores space address state => store (.pushSession space address state)
  | archives space => do let _ ← store (.archiveSessions space)
  | binds aci pni => bindIdentity aci pni

/-- The state that a move stores in a session. -/
def state? (space : Namespace) (address : PeerAddress) : SessionMove → Option Bytes
  | stores space' address' state => if space' = space ∧ address' = address then some state else none
  | _ => none

def Archives (space : Namespace) : SessionMove → Prop
  | stores _ _ _ => False
  | archives space' => space' = space
  | binds _ _ => True

instance (space : Namespace) : DecidablePred (Archives space)
  | stores _ _ _ => inferInstanceAs (Decidable False)
  | archives space' => inferInstanceAs (Decidable (space' = space))
  | binds _ _ => inferInstanceAs (Decidable True)

def states (space : Namespace) (address : PeerAddress) (past : List SessionMove) : List Bytes :=
  past.filterMap (state? space address)

/-- The moves since a state was last stored in a session. -/
def sinceStored (space : Namespace) (address : PeerAddress) (past : List SessionMove) : List SessionMove :=
  past.takeWhile fun move => (move.state? space address).isNone

def sessionAfter (space : Namespace) (address : PeerAddress) : List SessionMove → Option Session
  | [] => none
  | move :: past =>
    match move.state? space address with
    | some state => some (((sessionAfter space address past).getD .empty).push state)
    | none =>
      if move.Archives space then (sessionAfter space address past).map Session.archive
      else sessionAfter space address past

variable {space : Namespace} {address : PeerAddress} {past : List SessionMove}

theorem sessionAfter_eq_none : sessionAfter space address past = none ↔ states space address past = [] := by
  induction past with
  | nil => simp [sessionAfter, states]
  | cons move past ih =>
    unfold states at ih ⊢
    rw [List.filterMap_cons, sessionAfter]
    cases move.state? space address with
    | some state => simp
    | none =>
      dsimp only
      split <;> simpa using ih

theorem states_sessionAfter {session : Session} (there : sessionAfter space address past = some session) :
    session.states = states space address past := by
  induction past generalizing session with
  | nil => simp [sessionAfter] at there
  | cons move past ih =>
    unfold states at ih ⊢
    rw [List.filterMap_cons]
    rw [sessionAfter] at there
    cases stored : move.state? space address with
    | some state =>
      rw [stored] at there
      obtain rfl := Option.some.inj there
      rw [Session.states_push]
      cases before : sessionAfter space address past with
      | none => rw [show past.filterMap (state? space address) = [] from sessionAfter_eq_none.1 before]; rfl
      | some session => rw [Option.getD_some, ih before]
    | none =>
      rw [stored] at there
      dsimp only at there ⊢
      split at there
      · obtain ⟨session', before, rfl⟩ := Option.map_eq_some_iff.1 there
        exact (Session.states_archive session').trans (ih before)
      · exact ih there

theorem hasCurrent_sessionAfter {session : Session} (there : sessionAfter space address past = some session) :
    session.hasCurrent = true ↔ ∀ move ∈ sinceStored space address past, ¬ move.Archives space := by
  induction past generalizing session with
  | nil => simp [sessionAfter] at there
  | cons move past ih =>
    unfold sinceStored at ih ⊢
    rw [List.takeWhile_cons]
    rw [sessionAfter] at there
    cases stored : move.state? space address with
    | some state =>
      rw [stored] at there
      obtain rfl := Option.some.inj there
      simp [Session.push, Session.hasCurrent]
    | none =>
      rw [stored] at there
      dsimp only at there
      split at there
      · rename_i archives
        obtain ⟨session', before, rfl⟩ := Option.map_eq_some_iff.1 there
        simp [Session.archive, Session.hasCurrent, archives]
      · rename_i keeps
        simp [ih there, keeps]

end SessionMove

/-! ## Sessions in memory -/

theorem get?_archive (space : Namespace) (sessions : Table (Namespace × PeerAddress) Session)
    (key : Namespace × PeerAddress) :
    (Memory.archive space sessions).get? key =
      if key.1 = space then (sessions.get? key).map Session.archive else sessions.get? key := by
  induction sessions with
  | nil => simp [Memory.archive, Table.get?_nil]
  | cons row rest ih =>
    unfold Memory.archive at ih ⊢
    rw [List.map_cons, Table.get?_cons, Table.get?_cons, ih]
    by_cases found : row.1 = key
    · subst found
      by_cases here : row.1.1 = space <;> simp [here]
    · have kept : (if row.1.1 = space then (row.1, row.2.archive) else row).1 = row.1 := by split <;> rfl
      simp [found, kept]

/-- The count is of addresses, since no key has two rows. -/
theorem currentCount_eq_ncard {sessions : Table (Namespace × PeerAddress) Session} (distinct : (sessions.map (·.1)).Nodup)
    (space : Namespace) : Memory.currentCount space sessions =
      {address | ∃ session, sessions.get? (space, address) = some session ∧ session.hasCurrent = true}.ncard := by
  let rows := sessions.filter fun row => row.1.1 = space && row.2.hasCurrent
  have keys : (rows.map (·.1)).Nodup := distinct.sublist (List.filter_sublist.map _)
  have addresses : (rows.map (·.1.2)).Nodup := by
    have inSpace : ∀ key ∈ rows.map (·.1), key.1 = space := by
      intro key there
      obtain ⟨row, kept, rfl⟩ := List.mem_map.1 there
      obtain ⟨-, passes⟩ := List.mem_filter.1 kept
      simp only [Bool.and_eq_true, decide_eq_true_eq] at passes
      exact passes.1
    have mapped := keys.map_on fun key there key' there' (same : key.2 = key'.2) =>
      Prod.ext ((inSpace key there).trans (inSpace key' there').symm) same
    rwa [List.map_map] at mapped
  have held : {address | ∃ session, sessions.get? (space, address) = some session ∧ session.hasCurrent = true} =
      ((rows.map (·.1.2)).toFinset : Set PeerAddress) := by
    ext address
    simp only [Set.mem_ofPred_eq, Table.get?_eq_some_iff distinct, List.coe_toFinset, List.mem_map, rows, List.mem_filter,
      Bool.and_eq_true, decide_eq_true_eq]
    constructor
    · rintro ⟨session, there, current⟩
      exact ⟨((space, address), session), ⟨there, rfl, current⟩, rfl⟩
    · rintro ⟨⟨⟨_, _⟩, session⟩, ⟨there, rfl, current⟩, rfl⟩
      exact ⟨session, there, current⟩
  rw [held, Set.ncard_coe_finset, List.toFinset_card_of_nodup addresses, List.length_map]
  rfl

/-! ## Activities that only use the store -/

def storing : Plan.Contract effects Memory where
  allowed call _ := ∃ op, call = .store op ∧ op.IsFaithful
  answered := Answers

variable {κ σ : Type} {c : Installation κ σ} {t : Thread} {m : Memory}

theorem serves_run (serves : c.store.Serves m) (admits : c.store.Admits t) {ε α : Type} {a : Activity ε α}
    {good : α → Memory → Prop} (ensures : Ensures storing a good (fun _ _ => False) m) :
    ∃ x m', (c.run t a).1 = .ok x ∧ good x m' ∧ (c.run t a).2.store.Serves m' := by
  have honours : Plan.Honours (Installation.handle t) storing fun (c : Installation κ σ) m =>
      c.store.Serves m ∧ c.store.Admits t := by
    rintro _ c m ⟨serves, admits⟩ ⟨op, rfl, faithful⟩
    obtain ⟨answers, served⟩ := serves.perform admits faithful
    exact ⟨_, ⟨answers, rfl⟩, served, admits.perform op⟩
  obtain ⟨m', held, served, -⟩ := Plan.Meets.run honours ensures (t := c) ⟨serves, admits⟩
  have ran : (a.run.run (Installation.handle t) c) = c.run t a := rfl
  rw [ran] at held served
  cases result : (c.run t a).1 with
  | ok x =>
    rw [result] at held
    exact ⟨x, m', rfl, held, served⟩
  | error e =>
    rw [result] at held
    exact held.elim

theorem ensures_storing {op : Operation} {good : op.Result → Memory → Prop} {bad : Fault → Memory → Prop}
    (faithful : op.IsFaithful) (told : op.told (m.perform op).1 = (m.perform op).1) (held : either good bad (m.perform op).1 (m.perform op).2) :
    Ensures storing (store op) good bad m := by
  refine ensures_store ⟨op, rfl, faithful⟩ ?_
  rintro answer m' ⟨answers, rfl⟩
  rwa [answers.eq told]

/-! ## Binding -/

def Readable (m : Memory) : Prop :=
  ∀ space, ∃ ledger, (Account.preKeys space).valueOr .initial (m.perform (.read (Account.preKeys space).key)).1 = .ok ledger

theorem Readable.write (readable : Readable m) {key : String} (apart : ∀ space, key ≠ (Account.preKeys space).key)
    (value : Json) : Readable (m.perform (.write key value)).2 := by
  intro space
  obtain ⟨ledger, read⟩ := readable space
  refine ⟨ledger, ?_⟩
  simp only [Memory.perform, Table.get?_put, if_neg (apart space)] at read ⊢
  exact read

theorem Readable.write_ledger (readable : Readable m) (space : Namespace) (ledger : PreKeyLedger) :
    Readable (m.perform (.write (Account.preKeys space).key ((Account.preKeys space).encode ledger))).2 := by
  intro other
  by_cases same : (Account.preKeys space).key = (Account.preKeys other).key
  · obtain rfl : space = other := by
      cases space <;> cases other <;> first | rfl | (revert same; decide)
    refine ⟨ledger, ?_⟩
    simp [Memory.perform, Table.get?_put, Slot.valueOr, Except.bind, Except.map]
  · obtain ⟨ledger', read⟩ := readable other
    refine ⟨ledger', ?_⟩
    simp only [Memory.perform, Table.get?_put, if_neg same] at read ⊢
    exact read

theorem updatePreKeys_storing (readable : Readable m) (space : Namespace) (edit : PreKeyLedger → PreKeyLedger) :
    Ensures storing (updatePreKeys space edit) (fun _ m' => Readable m' ∧ m'.sessions = m.sessions)
      (fun _ _ => False) m := by
  obtain ⟨ledger, read⟩ := readable space
  refine ensures_bind.2 (ensures_readOr ⟨_, rfl, trivial⟩ ?_)
  rintro _ _ ⟨answers, rfl⟩
  rw [answers.eq rfl, read]
  refine ensures_bind.2 (ensures_storing ((Account.preKeys space).isPlain_encode _) rfl ?_)
  exact ensures_pure ⟨readable.write_ledger space _, rfl⟩

theorem bindIdentity_storing (readable : Readable m) (aci : Aci) (pni : Pni) :
    Ensures storing (bindIdentity aci pni)
      (fun _ m' => Readable m' ∧ m'.sessions = Memory.archive .pni (Memory.archive .aci m.sessions)) (fun _ _ => False) m := by
  have set {key : String} {value : Json} {k : Memory} {doing : Doing} (plain : value.isPlain = true)
      (apart : ∀ space, key ≠ (Account.preKeys space).key) (held : Readable k ∧ k.sessions = m.sessions) :
      Ensures storing (during doing (store (.write key value)))
        (fun _ k' => Readable k' ∧ k'.sessions = m.sessions) (fun _ _ => False) k :=
    ensures_during.2 (ensures_storing plain rfl ⟨held.1.write apart value, held.2⟩)
  apply Ensures.bind (set (Account.registered.isPlain_encode false) (by intro space; cases space <;> decide) ⟨readable, rfl⟩)
  intro _ k held
  apply Ensures.bind (set (Account.aci.isPlain_encode aci) (by intro space; cases space <;> decide) held)
  intro _ k held
  apply Ensures.bind (set (Account.pni.isPlain_encode pni) (by intro space; cases space <;> decide) held)
  rintro _ k ⟨readable, same⟩
  -- While some namespaces are left, archiving those too leads to the same sessions.
  apply Ensures.bind (Ensures.forIn_rest (fun rest k => Readable k ∧ rest.foldl (fun sessions space =>
    Memory.archive space sessions) k.sessions = Memory.archive .pni (Memory.archive .aci m.sessions)) ?_ ⟨readable, ?_⟩)
  · rintro _ k ⟨readable, archived⟩
    refine ensures_bind.2 (ensures_during.2 (ensures_storing trivial rfl ?_))
    exact ensures_pure ⟨readable, archived⟩
  · rintro space rest _ k ⟨readable, archived⟩
    refine ensures_bind.2 (ensures_during.2 (ensures_storing trivial rfl ?_))
    have still : Readable (k.perform (.archiveSessions space)).2 := readable
    refine Ensures.bind (updatePreKeys_storing still space _) ?_
    rintro _ k' ⟨readable', same'⟩
    refine ensures_pure ⟨.unit, rfl, readable', ?_⟩
    rw [same']
    exact archived
  · rw [same]
    rfl

/-! ## Runs -/

/-- What the contents are after some moves. -/
structure Recounts (m : Memory) (past : List SessionMove) : Prop where
  readable : Readable m
  distinct : (m.sessions.map (·.1)).Nodup
  session : ∀ space address, m.sessions.get? (space, address) = SessionMove.sessionAfter space address past

open SessionMove

theorem recounts_empty : Recounts .empty [] :=
  ⟨fun _ => ⟨_, rfl⟩, List.nodup_nil, fun _ _ => rfl⟩

namespace Recounts

variable {past : List SessionMove} (recounts : Recounts m past)

include recounts

theorem stores (space : Namespace) (address : PeerAddress) (state : Bytes) :
    Recounts (m.perform (.pushSession space address state)).2 (.stores space address state :: past) := by
  refine ⟨fun other => recounts.readable other, Table.nodup_put recounts.distinct _ _, fun space' address' => ?_⟩
  simp only [Memory.perform, Table.get?_put, sessionAfter, state?, recounts.session, Prod.mk.injEq]
  split
  · rename_i same
    obtain ⟨rfl, rfl⟩ := same
    rfl
  · simp [Archives]

theorem archives {move : SessionMove} {m' : Memory} (readable : Readable m') (distinct : (m'.sessions.map (·.1)).Nodup)
    (storesNone : ∀ space address, move.state? space address = none)
    (archived : ∀ space address, m'.sessions.get? (space, address) =
      if move.Archives space then (m.sessions.get? (space, address)).map Session.archive else m.sessions.get? (space, address)) :
    Recounts m' (move :: past) := by
  refine ⟨readable, distinct, fun space address => ?_⟩
  rw [archived, recounts.session, sessionAfter, storesNone]

theorem move (move : SessionMove) :
    Ensures storing move.activity (fun _ m' => Recounts m' (move :: past)) (fun _ _ => False) m := by
  cases move with
  | stores space address state => exact ensures_storing trivial rfl (recounts.stores space address state)
  | archives space =>
    refine ensures_bind.2 (ensures_storing trivial rfl (ensures_pure ?_))
    refine recounts.archives (fun other => recounts.readable other) ?_ (fun _ _ => rfl) fun space' address => ?_
    · rw [show (m.perform (.archiveSessions space)).2.sessions = Memory.archive space m.sessions from rfl, map_fst_archive]
      exact recounts.distinct
    · refine (get?_archive space m.sessions (space', address)).trans ?_
      by_cases here : space' = space
      · simp [Archives, here]
      · simp [Archives, here, Ne.symm here]
  | binds aci pni =>
    refine (bindIdentity_storing recounts.readable aci pni).mono ?_ fun _ _ => id
    rintro _ m' ⟨readable, sessions⟩
    refine recounts.archives readable ?_ (fun _ _ => rfl) fun space address => ?_
    · rw [sessions, map_fst_archive, map_fst_archive]
      exact recounts.distinct
    · rw [sessions, get?_archive, get?_archive]
      cases space <;> simp [Archives]

theorem rescoped {m' : Memory} (same : { m' with transactions := m.transactions } = m) : Recounts m' past := by
  rw [← same] at recounts
  exact ⟨recounts.readable, recounts.distinct, recounts.session⟩

end Recounts

/-- A client that started with an empty store, and the moves that were made on it. Each was made by a
thread that had its turn; what scopes there were, were committed. -/
inductive Reached : Installation κ σ → List SessionMove → Prop
  | inMemory {c : Installation κ σ} (empty : c.store = .memory .empty) : Reached c []
  | inDatabase {c : Installation κ σ} {shared : Bool} (empty : c.store = .database (.new .empty shared)) : Reached c []
  | moves {c : Installation κ σ} {past : List SessionMove} (reached : Reached c past) {t : Thread}
    (admits : c.store.Admits t) (move : SessionMove) : Reached (c.run t move.activity).2 (move :: past)
  | opens {c : Installation κ σ} {past : List SessionMove} (reached : Reached c past) {t : Thread}
    (admits : c.store.Admits t) : Reached { c with store := (c.store.openScope t).2 } past
  | commits {c : Installation κ σ} {past : List SessionMove} (reached : Reached c past) {t : Thread}
    (admits : c.store.Admits t) : Reached { c with store := (c.store.closeScope t true).2 } past

theorem Reached.serves {past : List SessionMove} (reached : Reached c past) : ∃ m, c.store.Serves m ∧ Recounts m past := by
  induction reached with
  | inMemory empty => exact ⟨.empty, empty ▸ Memory.serves_empty, recounts_empty⟩
  | inDatabase empty => exact ⟨.empty, empty ▸ Database.serves_new _, recounts_empty⟩
  | moves reached admits move ih =>
    obtain ⟨m, serves, recounts⟩ := ih
    obtain ⟨_, m', -, recounts', served⟩ := serves_run serves admits (recounts.move move)
    exact ⟨m', served, recounts'⟩
  | opens reached admits ih =>
    obtain ⟨m, serves, recounts⟩ := ih
    obtain ⟨m', served, same⟩ := serves.openScope admits
    exact ⟨m', served, recounts.rescoped same⟩
  | commits reached admits ih =>
    obtain ⟨m, serves, recounts⟩ := ih
    obtain ⟨m', served, same⟩ := serves.commitScope admits
    exact ⟨m', served, recounts.rescoped same⟩

/-- However states are stored, sessions archived and identifiers bound, every move succeeds. A session is
there once a state was stored in it; it then holds all states stored in it, newest first, and has a
current one just when its namespace was not archived since. To archive a namespace counts the
addresses in it that have a current state. -/
theorem sessions_recounted {past : List SessionMove} (reached : Reached c past) (admits : c.store.Admits t)
    (space : Namespace) :
    let load (address : PeerAddress) := (c.run t (store (.session space address))).1
    (∀ move : SessionMove, (c.run t move.activity).1 = .ok ()) ∧
      (∀ address, ∃ loaded, load address = .ok loaded ∧ (loaded = none ↔ states space address past = []) ∧
        ∀ session, loaded = some session →
          session.current.toList ++ session.previous = states space address past ∧
            (session.current.isSome ↔ ∀ move ∈ sinceStored space address past, ¬ move.Archives space)) ∧
      (c.run t (store (.archiveSessions space))).1 =
        .ok {address | ∃ session, load address = .ok (some session) ∧ session.current.isSome}.ncard := by
  obtain ⟨m, serves, recounts⟩ := reached.serves
  have loads (address : PeerAddress) : (c.run t (store (.session space address))).1 =
      .ok (sessionAfter space address past) := by
    have faithful : (Operation.session space address).IsFaithful := trivial
    rw [Installation.run_store, (serves.perform admits faithful).1.eq rfl, ← recounts.session]
    rfl
  refine ⟨fun move => ?_, fun address => ?_, ?_⟩
  · obtain ⟨_, _, succeeds, -⟩ := serves_run serves admits (recounts.move move)
    exact succeeds
  · exact ⟨_, loads address, sessionAfter_eq_none, fun session there =>
      ⟨states_sessionAfter there, hasCurrent_sessionAfter there⟩⟩
  · have faithful : (Operation.archiveSessions space).IsFaithful := trivial
    rw [Installation.run_store, (serves.perform admits faithful).1.eq rfl]
    simp only [loads, Except.ok.injEq, ← recounts.session]
    exact congrArg Except.ok (currentCount_eq_ncard recounts.distinct space)

/-- Two states, of which the first was archived when identifiers were bound. -/
theorem sessions_recounted_bound :
    ∃ (c : Installation Rehearsal.KeyScript Rehearsal.ServiceScript) (loaded : Session),
      (c.run default (store (.session .aci default))).1 = .ok (some loaded) ∧
        loaded.current.toList ++ loaded.previous = [[2], [1]] := by
  have start : Reached (.rehearsed .empty .empty) [] := .inMemory rfl
  have first := start.moves (t := default) trivial (.stores .aci default [1])
  have bound := first.moves (t := default) trivial (.binds default default)
  have second := bound.moves (t := default) trivial (.stores .aci default [2])
  obtain ⟨-, loads, -⟩ := sessions_recounted second (t := default) trivial .aci
  obtain ⟨loaded, answers, there, held⟩ := loads default
  cases loaded with
  | none => simp [states, state?] at there
  | some session => exact ⟨_, session, answers, (held session rfl).1⟩

end Enrolment.Client
