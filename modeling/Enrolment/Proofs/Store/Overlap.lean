import Enrolment.Proofs.Store.Depiction
import Mathlib.Logic.Function.Basic
/-!
Calls that put session states into a database that several threads share. A call holds the protocol lock
from its first statement to its last, but what it writes within a transaction shows elsewhere only when the
transaction is committed, and the lock is free again by then. Main result: `pushed_kept`.
-/
namespace Enrolment.Store

namespace Database

variable {d : Database} {t : Thread} {tables : Tables}

def written? (d : Database) (t : Thread) : Option Tables := (d.transactions.get? t).bind (·.written)

def execute (d : Database) (t : Thread) (statement : Statement) : statement.Answer × Database :=
  let (answer, tables) := statement.run (d.view t)
  (answer, if statement.writes (d.view t) then d.keep t tables else d)

/-- A record stands otherwise in another thread's transaction than for everyone else. -/
def hides (d : Database) (t : Thread) (slot : Namespace × String) : Bool :=
  (d.others t).any fun row => row.2.written.any fun tables => tables.sessions.get? slot ≠ d.committed.sessions.get? slot

/-- The tables with all that was ever written: what one transaction wrote that is still open, or else what is
committed. -/
inductive Latest (d : Database) : Tables → Prop
  | uncommitted {t : Thread} {tables : Tables} (wrote : d.written? t = some tables)
    (alone : ∀ u, u ≠ t → d.written? u = none) : Latest d tables
  | committed (nobody : ∀ u, d.written? u = none) : Latest d d.committed

theorem mem_others {u : Thread} {transaction : Transaction} (different : u ≠ t)
    (found : d.transactions.get? u = some transaction) : (u, transaction) ∈ d.others t :=
  List.mem_filter.2 ⟨Table.mem_of_get? found, by simpa using different⟩

theorem written?_of_unlocked (unlocked : d.writeLocked t = false) {u : Thread} (different : u ≠ t) :
    d.written? u = none := by
  cases found : d.transactions.get? u with
  | none => simp [written?, found]
  | some transaction =>
    have unwritten := List.any_eq_false.1 unlocked _ (mem_others different found)
    simpa [written?, found] using unwritten

theorem get?_of_not_hides {slot : Namespace × String} (shown : d.hides t slot = false) {u : Thread} (different : u ≠ t)
    (wrote : d.written? u = some tables) : tables.sessions.get? slot = d.committed.sessions.get? slot := by
  obtain ⟨transaction, found, written⟩ := Option.bind_eq_some_iff.1 wrote
  have same := List.any_eq_false.1 shown _ (mem_others different found)
  simpa [written] using same

theorem Latest.get?_view (latest : d.Latest tables) {slot : Namespace × String} (shown : d.hides t slot = false) :
    (d.view t).sessions.get? slot = tables.sessions.get? slot := by
  show ((d.written? t).getD d.committed).sessions.get? slot = _
  cases latest with
  | @uncommitted u tables wrote alone =>
    by_cases same : t = u
    · rw [same, wrote, Option.getD_some]
    · rw [alone t same, Option.getD_none]
      exact (get?_of_not_hides shown (Ne.symm same) wrote).symm
  | committed nobody => rw [nobody, Option.getD_none]

theorem Latest.view_eq (latest : d.Latest tables) (unlocked : d.writeLocked t = false) : d.view t = tables := by
  show (d.written? t).getD d.committed = tables
  cases latest with
  | @uncommitted u tables wrote alone =>
    by_cases same : t = u
    · rw [same, wrote, Option.getD_some]
    · rw [written?_of_unlocked unlocked (Ne.symm same)] at wrote
      contradiction
  | committed nobody => rw [nobody, Option.getD_none]

theorem latest_keep (unlocked : d.writeLocked t = false) (tables : Tables) : (d.keep t tables).Latest tables := by
  have others (u : Thread) (different : u ≠ t) : (d.keep t tables).written? u = none := by
    have before := written?_of_unlocked unlocked different
    unfold keep
    cases found : d.transactions.get? t with
    | none => exact before
    | some transaction => simpa [written?, Table.get?_put, Ne.symm different] using before
  unfold keep at others ⊢
  cases found : d.transactions.get? t with
  | none =>
    rw [found] at others
    refine .committed fun u => ?_
    by_cases same : u = t
    · simp [written?, same, found]
    · exact others u same
  | some transaction =>
    rw [found] at others
    exact .uncommitted (t := t) (by simp [written?, Table.get?_put]) others

private theorem written?_put (d : Database) {t : Thread} (transaction : Transaction)
    (same : transaction.written = d.written? t) (u : Thread) :
    written? { d with transactions := d.transactions.put t transaction } u = d.written? u := by
  by_cases here : t = u
  · subst here
    simp [written?, Table.get?_put, same]
  · simp [written?, Table.get?_put, here]

theorem written?_openScope (d : Database) (t u : Thread) : (d.openScope t).2.written? u = d.written? u := by
  unfold openScope
  cases found : d.transactions.get? t with
  | some transaction => exact written?_put d _ (by simp [written?, found]) u
  | none =>
    by_cases crowded : d.crowdedOut t = true
    · simp [crowded]
    · simpa [crowded] using written?_put d ⟨1, false, none⟩ (by simp [written?, found]) u

theorem committed_openScope (d : Database) (t : Thread) : (d.openScope t).2.committed = d.committed := by
  unfold openScope
  split
  · rfl
  · split <;> rfl

theorem Latest.congr {d' : Database} (latest : d.Latest tables) (written : ∀ u, d'.written? u = d.written? u)
    (committed : d'.committed = d.committed) : d'.Latest tables := by
  cases latest with
  | uncommitted wrote alone => exact .uncommitted (by rwa [written]) fun u different => by rw [written, alone u different]
  | committed nobody =>
    rw [← committed]
    exact .committed fun u => by rw [written, nobody]

theorem Latest.openScope (latest : d.Latest tables) (t : Thread) : (d.openScope t).2.Latest tables :=
  latest.congr (written?_openScope d t) (committed_openScope d t)

private theorem Latest.ended (latest : d.Latest tables) :
    Latest { d with transactions := d.transactions.erase t, committed := (d.written? t).getD d.committed } tables := by
  have ended (u : Thread) (rest : Tables) :
      written? { d with transactions := d.transactions.erase t, committed := rest } u =
        if t = u then none else d.written? u := by
    by_cases here : t = u <;> simp [written?, Table.get?_erase, here]
  cases latest with
  | @uncommitted writer tables wrote alone =>
    by_cases here : t = writer
    · subst here
      rw [wrote, Option.getD_some]
      refine .committed fun u => ?_
      rw [ended]
      split
      · rfl
      · exact alone u (Ne.symm ‹_›)
    · rw [alone t here, Option.getD_none]
      exact .uncommitted (by rwa [ended, if_neg here]) fun u different => by rw [ended, alone u different, ite_self]
  | committed nobody =>
    rw [nobody, Option.getD_none]
    exact .committed fun u => by rw [ended, nobody, ite_self]

theorem Latest.commit (latest : d.Latest tables) (committed : (d.closeScope t true).1 = .ok ()) :
    (d.closeScope t true).2.Latest tables := by
  unfold closeScope at committed ⊢
  cases found : d.transactions.get? t with
  | none => exact latest
  | some transaction =>
    simp only [found] at committed ⊢
    by_cases inner : 1 < transaction.depth
    · rw [if_pos inner]
      exact latest.congr (written?_put d _ (by simp [written?, found])) rfl
    · cases given : transaction.rollbackOnly with
      | true => simp [inner, given] at committed
      | false => simpa [inner, given, written?, found] using latest.ended (t := t)

end Database

/-! ## One call -/

/-- A call that puts a session state. -/
structure Push where
  space : Namespace
  address : PeerAddress
  state : Bytes

def Records : Option Cell → Session → Prop
  | none, session => session = .empty
  | some cell, session => cell.ShowsSession session

theorem Records.unique {row : Option Cell} {session other : Session} (records : Records row session)
    (records' : Records row other) : session = other := by
  cases row with
  | none => exact Eq.trans records (Eq.symm records')
  | some cell =>
    obtain ⟨text, rfl, read⟩ := records
    obtain ⟨text', same, read'⟩ := records'
    cases same
    exact Option.some.inj (read.symm.trans read')

namespace Push

variable (p : Push)

def slot : Namespace × String := (p.space, addressText p.address)

def plan : Plan statements (Except Fault Unit) := ExceptT.run (Script.ofOperation (.pushSession p.space p.address p.state))

def reading : Statement := ⟨Option Cell, fun _ => false, fun tables => (tables.sessions.get? p.slot, tables)⟩

def writing (before : Session) : Statement :=
  ⟨Unit, fun _ => true,
    fun tables => ((), { tables with sessions := tables.sessions.put p.slot (.text (sessionText (before.push p.state))) })⟩

end Push

theorem Script.sessionOf_cases (cell : Cell) :
    (∃ session, cell.ShowsSession session ∧ sessionOf cell = pure session) ∨ ∃ f, sessionOf cell = throw f := by
  cases cell with
  | text text =>
    have is : sessionOf (.text text) =
        orFault (.during (.ofMedium .json) .readingSession) ((Json.document? text).bind Session.ofJson?) := rfl
    rw [is]
    cases read : (Json.document? text).bind Session.ofJson? with
    | none => exact .inr ⟨_, rfl⟩
    | some session => exact .inl ⟨session, ⟨text, rfl, read⟩, rfl⟩
  | null | blob _ | integer _ | real => exact .inr ⟨_, rfl⟩

/-- A call is two statements: it reads the record, and puts it again with the state. -/
theorem Push.plan_eq (p : Push) : ∃ next, p.plan = .ask p.reading next ∧ ∀ row,
    (∃ before, Records row before ∧ next row = .ask (p.writing before) fun _ => .done (.ok ())) ∨
      ∃ f, next row = .done (.error f) := by
  refine ⟨_, rfl, fun row => ?_⟩
  cases row with
  | none => exact .inl ⟨.empty, rfl, rfl⟩
  | some cell =>
    let rest (session : Option Session) : Script Unit :=
      Script.putSession p.space (addressText p.address) ((session.getD .empty).push p.state)
    obtain ⟨session, shows, read⟩ | ⟨f, read⟩ := Script.sessionOf_cases cell
    · refine .inl ⟨session, shows, ?_⟩
      show ExceptT.run ((do return some (← Script.sessionOf cell)) >>= rest) = _
      rw [read]
      rfl
    · refine .inr ⟨f, ?_⟩
      show ExceptT.run ((do return some (← Script.sessionOf cell)) >>= rest) = _
      rw [read]
      rfl

/-- A call that nobody gets in the way of is the operation. -/
theorem Push.run_plan (p : Push) {d : Database} {t : Thread} (free : d.Free t) :
    Plan.run (I := statements) (fun statement d => d.execute t statement) p.plan d =
      d.perform t (.pushSession p.space p.address p.state) := by
  obtain ⟨next, is, goes⟩ := p.plan_eq
  have operation : ExceptT.run (Script.ofOperation (.pushSession p.space p.address p.state)) = .ask p.reading next := is
  rw [is, Database.perform, Database.runScript, if_neg (by simp [free.connected]), Script.runNoting, operation]
  obtain ⟨before, -, goes⟩ | ⟨f, goes⟩ := goes ((d.view t).sessions.get? p.slot)
  · simp [Plan.run, Database.execute, reading, writing, goes, free.unlocked]
  · simp [Plan.run, Database.execute, reading, goes]

/-! ## Many calls -/

/-- Where a thread is with its calls. -/
inductive Whereabouts
  | outside
  | waiting (p : Push)
  | within (p : Push) (rest : Plan statements (Except Fault Unit))

def Whereabouts.isWithin : Whereabouts → Bool
  | within _ _ => true
  | _ => false

/-- Threads with a database in a file, and the lock around protocol state. -/
structure Hall where
  database : Database
  lock : Lock.Reentrant
  place : Thread → Whereabouts
  returned : List Push
  /-- The calls that another thread's transaction hid the record from. -/
  overlooking : List Push

namespace Hall

def Fresh (h : Hall) : Prop :=
  (∃ tables, h.database = .new tables false) ∧ (∃ name, h.lock = .free name) ∧ (∀ t, h.place t = .outside) ∧
    h.returned = [] ∧ h.overlooking = []

def put (h : Hall) (t : Thread) (place : Whereabouts) : Hall := { h with place := Function.update h.place t place }

def worked (h : Hall) (t : Thread) (p : Push) (statement : Statement)
    (next : statement.Answer → Plan statements (Except Fault Unit)) : Hall :=
  { h.put t (.within p (next (h.database.execute t statement).1)) with
    database := (h.database.execute t statement).2
    overlooking := if h.database.hides t p.slot then p :: h.overlooking else h.overlooking }

/-- Nothing fails. A statement that writes waits until no other thread has written in a transaction that is
still open; any other statement sees what its own thread wrote, and else what is committed. -/
inductive Step (h : Hall) : Hall → Prop
  | opens {t : Thread} (outside : h.place t = .outside) (opened : (h.database.openScope t).1 = .ok ()) :
    Step h { h with database := (h.database.openScope t).2 }
  | commits {t : Thread} (outside : h.place t = .outside) (inside : h.database.inTransaction t = true)
    (committed : (h.database.closeScope t true).1 = .ok ()) : Step h { h with database := (h.database.closeScope t true).2 }
  | calls {t : Thread} (outside : h.place t = .outside) (p : Push) : Step h (h.put t (.waiting p))
  | enters {t : Thread} {p : Push} (waiting : h.place t = .waiting p) (free : h.lock.canEnter t = true) :
    Step h { h.put t (.within p p.plan) with lock := h.lock.enter t }
  | works {t : Thread} {p : Push} {statement : Statement} {next : statement.Answer → Plan statements (Except Fault Unit)}
    (within : h.place t = .within p (.ask statement next))
    (turn : statement.writes (h.database.view t) = true → h.database.writeLocked t = false) :
    Step h (h.worked t p statement next)
  | returns {t : Thread} {p : Push} (within : h.place t = .within p (.done (.ok ()))) :
    Step h { h.put t .outside with lock := h.lock.leave, returned := p :: h.returned }

inductive Reachable : Hall → Prop
  | fresh {h : Hall} (fresh : h.Fresh) : Reachable h
  | step {h h' : Hall} (reachable : Reachable h) (step : Step h h') : Reachable h'

/-- No call for the record was kept from seeing what another thread had written. -/
def Clear (h : Hall) (slot : Namespace × String) : Prop := ∀ q ∈ h.overlooking, q.slot ≠ slot

variable {h h' : Hall} {t : Thread} {p : Push} {tables : Tables}

/-! ### The lock -/

/-- The thread within a call has the lock, and no other thread is within one. -/
inductive Held (place : Thread → Whereabouts) : Lock.Reentrant → Prop
  | free (name : String) (nobody : ∀ t, (place t).isWithin = false) : Held place (.free name)
  | taken (name : String) {t : Thread} (inside : (place t).isWithin = true)
    (alone : ∀ u, u ≠ t → (place u).isWithin = false) : Held place ((Lock.Reentrant.free name).enter t)

theorem Held.alone {place : Thread → Whereabouts} {lock : Lock.Reentrant} (held : Held place lock)
    (inside : (place t).isWithin = true) {u : Thread} (different : u ≠ t) : (place u).isWithin = false := by
  cases held with
  | free name nobody => exact nobody u
  | @taken name owner _ alone =>
    obtain rfl : t = owner := by
      by_contra other
      rw [alone t other] at inside
      contradiction
    exact alone u different

theorem Held.moves {place : Thread → Whereabouts} {lock : Lock.Reentrant} (held : Held place lock)
    {spot : Whereabouts} (same : spot.isWithin = (place t).isWithin) : Held (Function.update place t spot) lock := by
  have unmoved (u : Thread) : (Function.update place t spot u).isWithin = (place u).isWithin := by
    by_cases here : u = t
    · subst here
      rw [Function.update_self, same]
    · rw [Function.update_of_ne here]
  cases held with
  | free name nobody => exact .free name fun u => (unmoved u).trans (nobody u)
  | taken name inside alone =>
    exact .taken name ((unmoved _).trans inside) fun u different => (unmoved u).trans (alone u different)

theorem Held.enters {place : Thread → Whereabouts} {lock : Lock.Reentrant} (held : Held place lock)
    (waiting : (place t).isWithin = false) (free : lock.canEnter t = true) (rest : Plan statements (Except Fault Unit)) :
    Held (Function.update place t (.within p rest)) (lock.enter t) := by
  cases held with
  | free name nobody =>
    refine .taken name (t := t) (by simp [Whereabouts.isWithin]) fun u different => ?_
    rw [Function.update_of_ne different]
    exact nobody u
  | @taken name owner inside alone =>
    obtain rfl : owner = t := by simpa [Lock.Reentrant.canEnter, Lock.Reentrant.heldBy, Lock.Reentrant.enter,
      Lock.Reentrant.free] using free
    rw [waiting] at inside
    contradiction

theorem Held.leaves {place : Thread → Whereabouts} {lock : Lock.Reentrant} (held : Held place lock)
    (inside : (place t).isWithin = true) : Held (Function.update place t .outside) lock.leave := by
  have nobody (u : Thread) : (Function.update place t .outside u).isWithin = false := by
    by_cases here : u = t
    · subst here
      rw [Function.update_self]
      rfl
    · rw [Function.update_of_ne here]
      exact held.alone inside here
  cases held with
  | free name nobody' =>
    rw [nobody'] at inside
    contradiction
  | taken name _ _ => exact .free name nobody

/-! ### What a call knows -/

/-- The state stands in the record. -/
def Kept (tables : Tables) (p : Push) : Prop :=
  ∃ session, Records (tables.sessions.get? p.slot) session ∧ p.state ∈ session.states

/-- How far a call is, in a database with these as the latest tables. -/
inductive Midway (tables : Tables) (clear : Prop) (p : Push) : Plan statements (Except Fault Unit) → Prop
  | about : Midway tables clear p p.plan
  | read {before : Session} (sees : clear → Records (tables.sessions.get? p.slot) before) :
    Midway tables clear p (.ask (p.writing before) fun _ => .done (.ok ()))
  | wrote (kept : clear → Kept tables p) : Midway tables clear p (.done (.ok ()))
  | failed (f : Fault) : Midway tables clear p (.done (.error f))

theorem Midway.mono {clear clear' : Prop} {rest : Plan statements (Except Fault Unit)}
    (midway : Midway tables clear p rest) (still : clear' → clear) : Midway tables clear' p rest := by
  cases midway with
  | about => exact .about
  | read sees => exact .read fun is => sees (still is)
  | wrote kept => exact .wrote fun is => kept (still is)
  | failed f => exact .failed f

theorem Kept.written {q : Push} (kept : Kept tables q) {before : Session}
    (sees : q.slot = p.slot → Records (tables.sessions.get? p.slot) before) :
    Kept ((p.writing before).run tables).2 q := by
  obtain ⟨session, records, there⟩ := kept
  show ∃ session, Records ((tables.sessions.put p.slot _).get? q.slot) session ∧ _
  rw [Table.get?_put]
  by_cases same : p.slot = q.slot
  · rw [if_pos same]
    obtain rfl := Records.unique (sees same.symm) (same ▸ records)
    exact ⟨_, showsSession_sessionText _, by simp [Session.states_push, there]⟩
  · rw [if_neg same]
    exact ⟨session, records, there⟩

theorem kept_writing (p : Push) (before : Session) (tables : Tables) : Kept ((p.writing before).run tables).2 p := by
  refine ⟨before.push p.state, ?_, by simp [Session.states_push]⟩
  show Records ((tables.sessions.put p.slot _).get? p.slot) _
  rw [Table.get?_put, if_pos rfl]
  exact showsSession_sessionText _

/-! ### Runs -/

structure Sound (h : Hall) (tables : Tables) : Prop where
  latest : h.database.Latest tables
  held : Held h.place h.lock
  kept : ∀ p ∈ h.returned, h.Clear p.slot → Kept tables p
  midway : ∀ t p rest, h.place t = .within p rest → Midway tables (h.Clear p.slot) p rest

theorem sound_of_fresh (fresh : h.Fresh) : ∃ tables, Sound h tables := by
  obtain ⟨⟨tables, is⟩, ⟨name, free⟩, outside, nothing, -⟩ := fresh
  refine ⟨h.database.committed, .committed ?_, ?_, by simp [nothing], by simp [outside]⟩
  · simp [is, Database.written?, Database.new, Table.get?_nil]
  · rw [free]
    exact .free name fun t => by rw [outside]; rfl

theorem Sound.put (sound : Sound h tables) {spot : Whereabouts} (same : spot.isWithin = (h.place t).isWithin)
    (known : ∀ p rest, spot = .within p rest → Midway tables (h.Clear p.slot) p rest) : Sound (h.put t spot) tables where
  latest := sound.latest
  held := sound.held.moves same
  kept := sound.kept
  midway u p rest there := by
    by_cases here : u = t
    · subst here
      exact known p rest (by simpa [Hall.put] using there)
    · exact sound.midway u p rest (by simpa [Hall.put, here] using there)

theorem clear_of_worked {slot : Namespace × String} {statement : Statement}
    {next : statement.Answer → Plan statements (Except Fault Unit)} (clear : (h.worked t p statement next).Clear slot) :
    h.Clear slot := by
  intro q there
  refine clear q ?_
  unfold worked
  split
  · exact List.mem_cons_of_mem p there
  · exact there

theorem Sound.reads (sound : Sound h tables) {next : Option Cell → Plan statements (Except Fault Unit)}
    (inside : (h.place t).isWithin = true)
    (goes : ∀ row, (∃ before, Records row before ∧ next row = .ask (p.writing before) fun _ => .done (.ok ())) ∨
      ∃ f, next row = .done (.error f)) : Sound (h.worked t p p.reading next) tables where
  latest := sound.latest
  held := sound.held.moves inside.symm
  kept q there clear := sound.kept q there (clear_of_worked clear)
  midway u q rest there := by
    by_cases here : u = t
    · subst here
      obtain ⟨rfl, rfl⟩ : p = q ∧ next ((h.database.view u).sessions.get? p.slot) = rest := by
        simpa [worked, Hall.put, Database.execute, Push.reading] using there
      obtain ⟨before, records, goes⟩ | ⟨f, goes⟩ := goes ((h.database.view u).sessions.get? p.slot)
      · rw [goes]
        refine .read fun clear => ?_
        have shown : h.database.hides u p.slot = false := by
          by_contra hidden
          exact clear p (by simp [worked, hidden]) rfl
        rwa [← sound.latest.get?_view shown]
      · rw [goes]
        exact .failed f
    · have there : h.place u = .within q rest := by simpa [worked, Hall.put, here] using there
      exact (sound.midway u q rest there).mono clear_of_worked

theorem Sound.writes (sound : Sound h tables) (inside : (h.place t).isWithin = true)
    (unlocked : h.database.writeLocked t = false) {before : Session}
    (sees : h.Clear p.slot → Records (tables.sessions.get? p.slot) before) :
    Sound (h.worked t p (p.writing before) fun _ => .done (.ok ())) ((p.writing before).run tables).2 where
  latest := by
    rw [← sound.latest.view_eq unlocked]
    exact Database.latest_keep unlocked _
  held := sound.held.moves inside.symm
  kept q there clear := by
    have clear := clear_of_worked clear
    exact (sound.kept q there clear).written fun same => sees (same ▸ clear)
  midway u q rest there := by
    by_cases here : u = t
    · subst here
      obtain ⟨rfl, rfl⟩ : p = q ∧ Plan.done (.ok ()) = rest := by simpa [worked, Hall.put] using there
      exact .wrote fun _ => kept_writing p before tables
    · have there : h.place u = .within q rest := by simpa [worked, Hall.put, here] using there
      have outside := sound.held.alone inside here
      rw [there] at outside
      contradiction

theorem Step.sound (step : Step h h') (sound : Sound h tables) : ∃ tables', Sound h' tables' := by
  cases step with
  | opens outside opened => exact ⟨tables, sound.latest.openScope _, sound.held, sound.kept, sound.midway⟩
  | commits outside inside committed => exact ⟨tables, sound.latest.commit committed, sound.held, sound.kept, sound.midway⟩
  | calls outside p => exact ⟨tables, sound.put (by rw [outside]; rfl) fun _ _ is => nomatch is⟩
  | @enters t p waiting free =>
    refine ⟨tables, sound.latest, sound.held.enters (by rw [waiting]; rfl) free _, sound.kept, fun u q rest there => ?_⟩
    by_cases here : u = t
    · subst here
      obtain ⟨rfl, rfl⟩ : p = q ∧ p.plan = rest := by simpa [Hall.put] using there
      exact .about
    · exact sound.midway u q rest (by simpa [Hall.put, here] using there)
  | @works t p statement next within turn =>
    have inside : (h.place t).isWithin = true := by rw [within]; rfl
    have midway := sound.midway t p _ within
    generalize told : Plan.ask (I := statements) statement next = rest at midway
    cases midway with
    | about =>
      obtain ⟨next', is, goes⟩ := p.plan_eq
      cases told.trans is
      exact ⟨tables, sound.reads inside goes⟩
    | read sees =>
      cases told
      exact ⟨_, sound.writes inside (turn rfl) sees⟩
    | wrote _ | failed _ => cases told
  | @returns t p within =>
    have inside : (h.place t).isWithin = true := by rw [within]; rfl
    refine ⟨tables, sound.latest, sound.held.leaves inside, fun q there clear => ?_, fun u q rest there => ?_⟩
    · obtain rfl | there := List.mem_cons.1 there
      · cases sound.midway t q _ within with
        | wrote kept => exact kept clear
      · exact sound.kept q there clear
    · by_cases here : u = t
      · subst here
        simp [Hall.put] at there
      · exact sound.midway u q rest (by simpa [Hall.put, here] using there)

theorem Reachable.sound (reachable : Reachable h) : ∃ tables, Sound h tables := by
  induction reachable with
  | fresh fresh => exact sound_of_fresh fresh
  | step _ step ih =>
    obtain ⟨tables, sound⟩ := ih
    exact step.sound sound

theorem session_of_records {d : Database} (idle : d.transactions = []) (t : Thread) {space : Namespace}
    {address : PeerAddress} {cell : Cell} {session : Session} (shows : cell.ShowsSession session)
    (row : d.committed.sessions.get? (space, addressText address) = some cell) :
    (d.perform t (.session space address)).1 = .ok (some session) := by
  have free : d.Free t := by
    refine ⟨?_, ?_⟩
    · simp [Database.crowdedOut, Database.others, idle, Table.erase]
    · simp [Database.writeLocked, Database.others, idle, Table.erase]
  have view : d.view t = d.committed := by simp [Database.view, idle, Table.get?_nil]
  rw [(Database.perform_of_free free _).1, view]
  show ((Script.session space address).run d.committed).1 = _
  simp [Script.session, row, run_sessionOf shows, Except.map]

/-! ### A call beside a transaction -/

def single (p : Push) : Cell := .text (sessionText (Session.empty.push p.state))

/-- One thread calls within a transaction. Another one has read its record before that is committed, and
writes after. -/
theorem reachable_beside (p q : Push) : ∃ h, Reachable h ∧
    h.database = .new { Tables.empty with sessions := Table.put [(p.slot, single p)] q.slot (single q) } false ∧
    (∀ t, h.place t = .outside) ∧ h.returned = [q, p] ∧ h.overlooking = if p.slot = q.slot then [q] else [] := by
  let first : Thread := ⟨1, none⟩
  let second : Thread := ⟨2, none⟩
  let start : Hall := ⟨.new .empty false, .free "protocol", fun _ => .outside, [], []⟩
  have fresh : Reachable start := .fresh ⟨⟨_, rfl⟩, ⟨_, rfl⟩, fun _ => rfl, rfl, rfl⟩
  have asked := ((fresh.step (.opens (t := first) rfl rfl)).step (.calls (t := first) rfl p)).step (.enters (t := first) rfl rfl)
  have wrote := (asked.step (.works (t := first) (p := p) rfl (nomatch ·))).step (.works (t := first) (p := p) rfl fun _ => rfl)
  have waits := ((wrote.step (.returns (t := first) rfl)).step (.calls (t := second) rfl q)).step (.enters (t := second) rfl rfl)
  have read := waits.step (.works (t := second) (p := q) rfl (nomatch ·))
  have committed := read.step (.commits (t := first) rfl rfl rfl)
  have done := (committed.step (.works (t := second) (p := q) rfl fun _ => rfl)).step (.returns (t := second) rfl)
  refine ⟨_, done, rfl, fun t => ?_, rfl, ?_⟩
  · by_cases two : t = second
    · simp [Hall.put, two]
    · by_cases one : t = first <;> simp [Hall.put, worked, one, start]
  · show (if decide ((Table.get? [(p.slot, single p)] q.slot) ≠ none) || false then [q] else []) = _
    by_cases same : p.slot = q.slot <;> simp [Table.get?_cons, Table.get?_nil, same]

/-! ### What stays -/

/-- However threads call and commit, once no transaction is open, a state that a call has put stands in the
record, as long as no call for the record was kept from seeing what another thread had written to it. -/
theorem pushed_kept (reachable : Reachable h) (idle : h.database.transactions = []) (returned : p ∈ h.returned)
    (clear : h.Clear p.slot) (t : Thread) : ∃ session,
      (h.database.perform t (.session p.space p.address)).1 = .ok (some session) ∧ p.state ∈ session.states := by
  obtain ⟨tables, sound⟩ := reachable.sound
  obtain ⟨session, records, there⟩ := sound.kept p returned clear
  have committed : h.database.committed = tables := by
    cases sound.latest with
    | uncommitted wrote _ => simp [Database.written?, idle, Table.get?_nil] at wrote
    | committed _ => rfl
  cases row : tables.sessions.get? p.slot with
  | none =>
    rw [row] at records
    obtain rfl : session = .empty := records
    simp [Session.states, Session.empty] at there
  | some cell =>
    rw [row] at records
    exact ⟨session, session_of_records idle t records (committed ▸ row), there⟩

/-- Two devices of one peer: the call for the second one misses nothing. -/
theorem pushed_kept_of_other : ∃ h p, Reachable h ∧ h.database.transactions = [] ∧ p ∈ h.returned ∧
    h.returned.length = 2 ∧ ∃ session,
      (h.database.perform default (.session p.space p.address)).1 = .ok (some session) ∧ p.state ∈ session.states := by
  let p : Push := ⟨.aci, ⟨.aci ⟨⟨1⟩⟩, ⟨1⟩⟩, [1]⟩
  let q : Push := ⟨.aci, ⟨.aci ⟨⟨1⟩⟩, ⟨2⟩⟩, [2]⟩
  have apart : p.slot ≠ q.slot := fun same => by
    have same := addressText_injective (congrArg Prod.snd same)
    simp [p, q] at same
  obtain ⟨h, reachable, database, -, returned, overlooking⟩ := reachable_beside p q
  have there : p ∈ h.returned := by simp [returned]
  have clear : h.Clear p.slot := by simp [Clear, overlooking, apart]
  have idle : h.database.transactions = [] := by rw [database]; rfl
  exact ⟨h, p, reachable, idle, there, by simp [returned], pushed_kept reachable idle there clear default⟩

/-- Both calls are for one record. The second one puts it back as it was before the transaction, with only
its own state, and the first one's is nowhere. -/
theorem pushed_lost :
    let peer : PeerAddress := ⟨.aci ⟨⟨1⟩⟩, ⟨1⟩⟩
    ∃ h, Reachable h ∧ h.database.transactions = [] ∧ (∀ t, h.place t = .outside) ∧
      h.returned = [⟨.aci, peer, [2]⟩, ⟨.aci, peer, [1]⟩] ∧
      ∀ t, (h.database.perform t (.session .aci peer)).1 = .ok (some ⟨some [2], []⟩) := by
  intro peer
  let p : Push := ⟨.aci, peer, [1]⟩
  let q : Push := ⟨.aci, peer, [2]⟩
  obtain ⟨h, reachable, database, outside, returned, -⟩ := reachable_beside p q
  have idle : h.database.transactions = [] := by rw [database]; rfl
  have row : h.database.committed.sessions.get? p.slot = some (single q) := by
    have same : q.slot = p.slot := rfl
    simp only [database, Database.new, Table.get?_put, same, if_true]
  exact ⟨h, reachable, idle, outside, returned,
    fun t => session_of_records idle t (showsSession_sessionText (Session.empty.push [2])) row⟩

end Hall
end Enrolment.Store
