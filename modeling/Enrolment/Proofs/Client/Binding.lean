import Enrolment.Proofs.Client.Aftermath
import Enrolment.Proofs.Store.Stock
/-!
What binding identifiers makes of a store, be it kept in memory or in a database, whatever the store held
before. Main result: `bindIdentity_rebinds`.
-/
namespace Enrolment.Client

open Store Activity

variable {κ σ ε α : Type} {c : Installation κ σ} {t : Thread} {x : Stock}

/-! ## A thread at work on a stock -/

namespace Installation

theorem run_during_of_ok {a : Activity Fault α} {y : α} {c' : Installation κ σ} (doing : Doing)
    (done : c.run t a = (.ok y, c')) : c.run t (during doing a) = (.ok y, c') := by
  rw [run_during, done]
  rfl

def on (c : Installation κ σ) (t : Thread) (x : Stock) : Installation κ σ := { c with store := c.store.shelve t x }

variable (ready : c.store.Ready t x)

include ready

theorem run_store_on (op : Operation) :
    (c.on t x).run t (Activity.store op) = ((x.perform op).1, c.on t (x.perform op).2) := by
  rw [run_store]
  show (((c.store.shelve t x).perform t op).1, { c with store := ((c.store.shelve t x).perform t op).2 }) = _
  rw [DataStore.perform_shelve ready]
  rfl

theorem run_put_on (slot : Slot α) (a : α) :
    (c.on t x).run t (put slot a) = (.ok (), c.on t (x.write slot.key (slot.encode a))) := by
  rw [put, run_store_on ready, Stock.perform_write]

theorem run_get?_on (slot : Slot α) :
    (c.on t x).run t (get? slot) = ((x.read slot.key).bind slot.interpret, c.on t x) := by
  rw [get?, run_bind, run_store_on ready, Stock.perform_read]
  cases x.read slot.key <;> rfl

theorem run_getOr_on (slot : Slot α) (default : α) :
    (c.on t x).run t (getOr slot default) = (slot.valueOr default (x.read slot.key), c.on t x) := by
  rw [getOr, run_bind, run_get?_on ready, Slot.valueOr]
  cases (x.read slot.key).bind slot.interpret <;> rfl

end Installation

open Installation

/-! ## One namespace -/

def ledger (x : Stock) (space : Namespace) : Except Fault PreKeyLedger :=
  (Account.preKeys space).valueOr .initial (x.read (Account.preKeys space).key)

def unpublished (l : PreKeyLedger) : PreKeyLedger := { l with signedRegistered := false }

def rebindSpace (space : Namespace) : Activity Fault Unit := do
  let _ ← during (.archivingSessions space) (store (.archiveSessions space))
  let _ ← updatePreKeys space unpublished

def reboundSpace (x : Stock) (space : Namespace) (l : PreKeyLedger) : Stock :=
  (x.archived space).write (Account.preKeys space).key ((Account.preKeys space).encode (unpublished l))

variable {aci : Aci} {pni : Pni} {space : Namespace}

private theorem run_archiveSessions_on (ready : c.store.Ready t x) (distinct : (x.sessions.map (·.1)).Nodup)
    (legible : x.Legible space) : ∃ count,
      (c.on t x).run t (during (.archivingSessions space) (store (.archiveSessions space))) =
        (.ok count, c.on t (x.archived space)) := by
  obtain ⟨count, archives⟩ := x.perform_archiveSessions distinct legible
  refine ⟨count, run_during_of_ok _ ?_⟩
  rw [run_store_on ready, archives]

private theorem run_updatePreKeys_on (ready : c.store.Ready t x) (space : Namespace) (edit : PreKeyLedger → PreKeyLedger) :
    (c.on t x).run t (updatePreKeys space edit) = match ledger x space with
      | .ok l => (.ok (edit l), c.on t (x.write (Account.preKeys space).key ((Account.preKeys space).encode (edit l))))
      | .error e => (.error e, c.on t x) := by
  have read : (c.on t x).run t (preKeys space) = (ledger x space, c.on t x) := run_getOr_on ready _ _
  rw [updatePreKeys, run_bind, read]
  cases ledger x space with
  | error e => rfl
  | ok l => exact run_bind_of_ok (run_put_on ready _ _) _

theorem run_rebindSpace (ready : c.store.Ready t x) (distinct : (x.sessions.map (·.1)).Nodup) (legible : x.Legible space)
    {l : PreKeyLedger} (there : ledger x space = .ok l) :
    (c.on t x).run t (rebindSpace space) = (.ok (), c.on t (reboundSpace x space l)) := by
  obtain ⟨count, archives⟩ := run_archiveSessions_on ready distinct legible
  have kept : ledger (x.archived space) space = .ok l := by rwa [ledger, Stock.read_archived]
  have updates := run_updatePreKeys_on (ready.archived space) space unpublished
  rw [kept] at updates
  rw [rebindSpace, run_bind_of_ok archives, run_bind_of_ok updates]
  rfl

theorem rebindSpace_ok (ready : c.store.Ready t x) (distinct : (x.sessions.map (·.1)).Nodup)
    (done : ((c.on t x).run t (rebindSpace space)).1 = .ok ()) : x.Legible space ∧ ∃ l, ledger x space = .ok l := by
  by_cases legible : x.Legible space
  · refine ⟨legible, ?_⟩
    obtain ⟨count, archives⟩ := run_archiveSessions_on ready distinct legible
    have kept : ledger (x.archived space) space = ledger x space := by rw [ledger, Stock.read_archived, ledger]
    rw [rebindSpace, run_bind_of_ok archives, run_bind, run_updatePreKeys_on (ready.archived space), kept] at done
    cases there : ledger x space with
    | ok l => exact ⟨l, rfl⟩
    | error e =>
      rw [there] at done
      cases done
  · obtain ⟨e, fails⟩ := Stock.perform_archiveSessions_error legible
    rw [rebindSpace, run_bind, run_during, run_store_on ready, fails] at done
    cases done

private theorem ready_reboundSpace (ready : c.store.Ready t x) (space : Namespace) (l : PreKeyLedger) :
    c.store.Ready t (reboundSpace x space l) :=
  (ready.archived space).write _ _

private theorem distinct_reboundSpace (distinct : (x.sessions.map (·.1)).Nodup) (l : PreKeyLedger) :
    ((reboundSpace x space l).sessions.map (·.1)).Nodup := by
  rwa [reboundSpace, Stock.sessions_write, Stock.map_fst_sessions_archived]

private theorem legible_reboundSpace {space' : Namespace} {l : PreKeyLedger} :
    (reboundSpace x space l).Legible space' ↔ x.Legible space' := by
  rw [reboundSpace, Stock.Legible, Stock.sessions_write]
  exact Stock.legible_archived

private theorem ledger_reboundSpace {l : PreKeyLedger} : ledger (reboundSpace x .aci l) .pni = ledger x .pni := by
  rw [ledger, reboundSpace, Stock.read_write (by decide), Stock.read_archived, ledger]

/-! ## Both namespaces -/

def rebindSpaces : Activity Fault Unit := do
  rebindSpace .aci
  rebindSpace .pni
  let _ ← during .clearingSenderKeys (store .clearSenderKeys)

def reboundSpaces (x : Stock) (l : Namespace → PreKeyLedger) : Stock :=
  (reboundSpace (reboundSpace x .aci (l .aci)) .pni (l .pni)).withoutSenderKeys

/-- All that binding identifiers reads can be read. -/
structure Rebindable (x : Stock) (l : Namespace → PreKeyLedger) : Prop where
  distinct : (x.sessions.map (·.1)).Nodup
  legible : ∀ space, x.Legible space
  ledgers : ∀ space, ledger x space = .ok (l space)

theorem run_rebindSpaces (ready : c.store.Ready t x) {l : Namespace → PreKeyLedger} (rebindable : Rebindable x l) :
    (c.on t x).run t rebindSpaces = (.ok (), c.on t (reboundSpaces x l)) := by
  obtain ⟨distinct, legible, ledgers⟩ := rebindable
  have first := run_rebindSpace ready distinct (legible .aci) (ledgers .aci)
  have between := ready_reboundSpace ready .aci (l .aci)
  have second := run_rebindSpace between (distinct_reboundSpace distinct _) (legible_reboundSpace.2 (legible .pni))
    (ledger_reboundSpace.trans (ledgers .pni))
  have cleared := run_store_on (ready_reboundSpace between .pni (l .pni)) .clearSenderKeys
  rw [Stock.perform_clearSenderKeys] at cleared
  rw [rebindSpaces, run_bind_of_ok first, run_bind_of_ok second, run_bind_of_ok (run_during_of_ok _ cleared)]
  rfl

theorem rebindSpaces_ok (ready : c.store.Ready t x) (distinct : (x.sessions.map (·.1)).Nodup)
    (done : ((c.on t x).run t rebindSpaces).1 = .ok ()) : ∃ l, Rebindable x l := by
  have done_first : ((c.on t x).run t (rebindSpace .aci)).1 = .ok () := by
    obtain ⟨e, -, failed, -⟩ | ⟨_, done, -⟩ := (c.on t x).run_bind_cases t (rebindSpace .aci) _
    · rw [rebindSpaces, failed] at done
      cases done
    · exact done
  obtain ⟨legible, l, there⟩ := rebindSpace_ok ready distinct done_first
  have between := ready_reboundSpace ready .aci l
  rw [rebindSpaces, run_bind_of_ok (run_rebindSpace ready distinct legible there)] at done
  have done_second : ((c.on t (reboundSpace x .aci l)).run t (rebindSpace .pni)).1 = .ok () := by
    obtain ⟨e, -, failed, -⟩ | ⟨_, done, -⟩ := (c.on t (reboundSpace x .aci l)).run_bind_cases t (rebindSpace .pni) _
    · rw [failed] at done
      cases done
    · exact done
  obtain ⟨legible', l', there'⟩ := rebindSpace_ok between (distinct_reboundSpace distinct l) done_second
  refine ⟨fun space => if space = .aci then l else l', distinct, ?_, ?_⟩
  · rintro (_ | _)
    · exact legible
    · exact legible_reboundSpace.1 legible'
  · rintro (_ | _)
    · exact there
    · exact ledger_reboundSpace.symm.trans there'

/-! ## All of it -/

def named (x : Stock) (aci : Aci) (pni : Pni) : Stock :=
  ((x.write Account.registered.key (Account.registered.encode false)).write Account.aci.key (Account.aci.encode aci)).write
    Account.pni.key (Account.pni.encode pni)

def rebound (x : Stock) (aci : Aci) (pni : Pni) (l : Namespace → PreKeyLedger) : Stock :=
  reboundSpaces (named x aci pni) l

private theorem rebinding_eq (aci : Aci) (pni : Pni) :
    rebinding aci pni = (do
      during .storingAci (put Account.aci aci)
      during .storingPni (put Account.pni pni)
      rebindSpaces) := by
  simp [rebinding, rebindSpaces, rebindSpace, Namespace.all]
  rfl

private theorem ready_named (ready : c.store.Ready t x) : c.store.Ready t (named x aci pni) :=
  ((ready.write _ _).write _ _).write _ _

private theorem run_bindIdentity_on (ready : c.store.Ready t x) (aci : Aci) (pni : Pni) :
    (c.on t x).run t (bindIdentity aci pni) = (c.on t (named x aci pni)).run t rebindSpaces := by
  have second := ready.write Account.registered.key (Account.registered.encode false)
  have third := second.write Account.aci.key (Account.aci.encode aci)
  rw [bindIdentity_eq, run_bind_of_ok (run_during_of_ok _ (run_put_on ready _ _)), rebinding_eq,
    run_bind_of_ok (run_during_of_ok _ (run_put_on second _ _)), run_bind_of_ok (run_during_of_ok _ (run_put_on third _ _))]
  rfl

private theorem rebindable_named {l : Namespace → PreKeyLedger} : Rebindable (named x aci pni) l ↔ Rebindable x l := by
  have sessions : (named x aci pni).sessions = x.sessions := by simp [named]
  have ledgers (space : Namespace) : ledger (named x aci pni) space = ledger x space := by
    have apart : Account.registered.key ≠ (Account.preKeys space).key ∧ Account.aci.key ≠ (Account.preKeys space).key ∧
        Account.pni.key ≠ (Account.preKeys space).key := by cases space <;> decide
    rw [ledger, named, Stock.read_write apart.2.2, Stock.read_write apart.2.1, Stock.read_write apart.1, ledger]
  constructor
  · rintro ⟨distinct, legible, there⟩
    simp only [sessions, ledgers, Stock.Legible] at distinct legible there
    exact ⟨distinct, legible, there⟩
  · rintro ⟨distinct, legible, there⟩
    refine ⟨by rwa [sessions], ?_, fun space => (ledgers space).trans (there space)⟩
    simpa only [Stock.Legible, sessions] using legible

private theorem ready_rebound (ready : c.store.Ready t x) {l : Namespace → PreKeyLedger} :
    c.store.Ready t (rebound x aci pni l) :=
  (ready_reboundSpace (ready_reboundSpace (ready_named ready) _ _) _ _).withoutSenderKeys

theorem run_bindIdentity (ready : c.store.Ready t x) {l : Namespace → PreKeyLedger} (rebindable : Rebindable x l) (aci : Aci)
    (pni : Pni) : (c.on t x).run t (bindIdentity aci pni) = (.ok (), c.on t (rebound x aci pni l)) := by
  rw [run_bindIdentity_on ready]
  exact run_rebindSpaces (ready_named ready) (rebindable_named.2 rebindable)

theorem bindIdentity_ok (distinct : ((c.store.stock t).sessions.map (·.1)).Nodup)
    (done : (c.run t (bindIdentity aci pni)).1 = .ok ()) :
    c.store.Ready t (c.store.stock t) ∧ ∃ l, Rebindable (c.store.stock t) l ∧
      c.run t (bindIdentity aci pni) = (.ok (), c.on t (rebound (c.store.stock t) aci pni l)) := by
  obtain ⟨e, -, failed, -⟩ | ⟨_, cleared, -⟩ :=
    c.run_bind_cases t (during .clearingRegistered (put Account.registered false)) fun _ => rebinding aci pni
  · rw [bindIdentity_eq, failed] at done
    cases done
  have written : (c.store.perform t (.write Account.registered.key (Account.registered.encode false))).1 = .ok () :=
    c.ok_of_mapError t cleared
  obtain ⟨ready, wrote⟩ := DataStore.perform_write_of_ok written
  have here : c.run t (put Account.registered false) =
      (.ok (), c.on t ((c.store.stock t).write Account.registered.key (Account.registered.encode false))) := by
    rw [run_put, written, wrote]
    rfl
  have same : c.run t (bindIdentity aci pni) = (c.on t (c.store.stock t)).run t (bindIdentity aci pni) := by
    rw [bindIdentity_eq, run_bind_of_ok (run_during_of_ok _ here), run_bind_of_ok (run_during_of_ok _ (run_put_on ready _ _))]
  rw [same, run_bindIdentity_on ready] at done
  obtain ⟨l, rebindable⟩ := rebindSpaces_ok (ready_named ready) (by simpa [named] using distinct) done
  have rebindable := rebindable_named.1 rebindable
  exact ⟨ready, l, rebindable, same.trans (run_bindIdentity ready rebindable aci pni)⟩

/-! ## What it makes of a stock -/

def boundRows (aci : Aci) (pni : Pni) (l : Namespace → PreKeyLedger) : List (String × Json) :=
  [(Account.registered.key, Account.registered.encode false), (Account.aci.key, Account.aci.encode aci),
    (Account.pni.key, Account.pni.encode pni),
    ((Account.preKeys .aci).key, (Account.preKeys .aci).encode (unpublished (l .aci))),
    ((Account.preKeys .pni).key, (Account.preKeys .pni).encode (unpublished (l .pni)))]

variable {l : Namespace → PreKeyLedger}

private theorem form_rebound : (rebound x aci pni l).form = x.form := by
  simp [rebound, reboundSpaces, reboundSpace, named]

private theorem get?_rebound {row : String × Json} (there : row ∈ boundRows aci pni l) :
    (rebound x aci pni l).get? row.1 = some ((rebound x aci pni l).form row.2) := by
  rw [form_rebound]
  simp only [boundRows, List.mem_cons, List.not_mem_nil, or_false] at there
  rcases there with rfl | rfl | rfl | rfl | rfl <;>
    simp [rebound, reboundSpaces, reboundSpace, named, Stock.get?_write, Account.registered, Account.aci, Account.pni,
      Account.preKeys, Namespace.name, Slot.flag]

private theorem sessions_rebound :
    (rebound x aci pni l).sessions = x.sessions.map fun row => (row.1, row.2.map Session.archive) := by
  simp only [rebound, reboundSpaces, reboundSpace, named, Stock.sessions_withoutSenderKeys, Stock.sessions_write,
    Stock.sessions_archived, List.map_map]
  refine List.map_congr_left fun row _ => ?_
  cases space : row.1.1 <;> simp [space]

private theorem apart_rebound : (rebound x aci pni l).apart = x.apart := by
  simp [rebound, reboundSpaces, reboundSpace, named]

private theorem read_rebound {slot : Slot α} [slot.Lawful] {a : α} (there : (slot.key, slot.encode a) ∈ boundRows aci pni l) :
    (rebound x aci pni l).read slot.key = .ok (some (slot.encode a)) :=
  Stock.read_of_get? (slot.isPlain_encode a) (get?_rebound there)

private theorem preKeys_mem_boundRows (space : Namespace) : ((Account.preKeys space).key,
    (Account.preKeys space).encode (unpublished (l space))) ∈ boundRows aci pni l := by
  cases space <;> simp [boundRows]

private theorem ledger_rebound (space : Namespace) : ledger (rebound x aci pni l) space = .ok (unpublished (l space)) := by
  rw [ledger, read_rebound (preKeys_mem_boundRows space), Slot.valueOr, Except.bind, Slot.interpret_encode]
  rfl

theorem rebound_rebound : rebound (rebound x aci pni l) aci pni (fun space => unpublished (l space)) = rebound x aci pni l := by
  generalize done : rebound x aci pni l = y
  have there (row : String × Json) (member : row ∈ boundRows aci pni l) : y.write row.1 row.2 = y :=
    Stock.write_of_get? (done ▸ get?_rebound member)
  have archived (space : Namespace) : y.archived space = y := by
    refine Stock.archived_of_noCurrent ?_
    rw [← done, sessions_rebound, List.forall_mem_map]
    intro row _ _
    cases row.2 <;> rfl
  have one (space : Namespace) : reboundSpace y space (unpublished (l space)) = y := by
    rw [reboundSpace, archived]
    exact there _ (preKeys_mem_boundRows space)
  have names : named y aci pni = y := by
    rw [named, there (Account.registered.key, _) (by simp [boundRows]),
      there (Account.aci.key, _) (by simp [boundRows]), there (Account.pni.key, _) (by simp [boundRows])]
  have cleared : y.withoutSenderKeys = y := by
    refine Stock.withoutSenderKeys_of_none ?_
    rw [← done, rebound, reboundSpaces, Stock.senderKeyCount_withoutSenderKeys]
  rw [rebound, reboundSpaces, names, one, one, cleared]

theorem rebindable_rebound (rebindable : Rebindable x l) : Rebindable (rebound x aci pni l) fun space => unpublished (l space) where
  distinct := by simpa [sessions_rebound, List.map_map, Function.comp_def] using rebindable.distinct
  legible space := by
    rw [Stock.Legible, sessions_rebound, List.forall_mem_map]
    intro row there here
    rw [Option.isSome_map]
    exact rebindable.legible space row there here
  ledgers := ledger_rebound

/-! ## The account afterwards -/

/-- The client after two identifiers were bound on a thread. -/
structure Rebound (c c' : Installation κ σ) (t : Thread) (aci : Aci) (pni : Pni) : Prop where
  unregistered : (c'.run t (getOr Account.registered false)).1 = .ok false
  aci : (c'.run t (get? Account.aci)).1 = .ok (some aci)
  pni : (c'.run t (get? Account.pni)).1 = .ok (some pni)
  ledgers : ∀ space, ∃ l, (c.run t (preKeys space)).1 = .ok l ∧
    (c'.run t (preKeys space)).1 = .ok { l with signedRegistered := false }
  legible : ∀ row ∈ (c.store.stock t).sessions, row.2.isSome
  sessions : (c'.store.stock t).sessions = (c.store.stock t).sessions.map fun row => (row.1, row.2.map Session.archive)
  noSenderKeys : (c'.store.stock t).senderKeyCount = 0
  entries : ∀ key ∉ boundKeys, ∀ u, c'.store.stored? u key = c.store.stored? u key
  apart : ∀ u, (c'.store.stock u).apart = (c.store.stock u).apart
  elsewhere : c' = c.on t (c'.store.stock t)

private theorem rebound_on (ready : c.store.Ready t (c.store.stock t)) (rebindable : Rebindable (c.store.stock t) l)
    (spared : ∀ key ∉ boundKeys, ∀ u,
      (c.on t (rebound (c.store.stock t) aci pni l)).store.stored? u key = c.store.stored? u key) :
    Rebound c (c.on t (rebound (c.store.stock t) aci pni l)) t aci pni := by
  have ready' : c.store.Ready t (rebound (c.store.stock t) aci pni l) := ready_rebound ready
  have stock : (c.on t (rebound (c.store.stock t) aci pni l)).store.stock t = _ := DataStore.stock_shelve ready'
  have reads {α : Type} {slot : Slot α} [slot.Lawful] {a : α} (there : (slot.key, slot.encode a) ∈ boundRows aci pni l) :
      ((c.on t (rebound (c.store.stock t) aci pni l)).run t (get? slot)).1 = .ok (some a) := by
    rw [run_get?_on ready', read_rebound there]
    exact slot.interpret_encode a
  exact
    { unregistered := by rw [run_getOr, reads (a := false) (by simp [boundRows])]; rfl
      aci := reads (by simp [boundRows])
      pni := reads (by simp [boundRows])
      ledgers := fun space => by
        refine ⟨l space, ?_, ?_⟩
        · rw [preKeys, run_getOr, run_get?, DataStore.perform_read_stock ready]
          exact rebindable.ledgers space
        · rw [preKeys, run_getOr, reads (preKeys_mem_boundRows space)]
          rfl
      legible := fun row there => rebindable.legible row.1.1 row there rfl
      sessions := by rw [stock, sessions_rebound]
      noSenderKeys := by rw [stock, rebound, reboundSpaces, Stock.senderKeyCount_withoutSenderKeys]
      entries := spared
      apart := DataStore.untouched_shelve Stock.apart ready' apart_rebound
      elsewhere := by rw [stock] }

/-- Binding identifiers drops all that belonged to the keys before, leaves everything else, and done once more
changes nothing. No two sessions have the same key. -/
theorem bindIdentity_rebinds (c : Installation κ σ) (t : Thread) (aci : Aci) (pni : Pni)
    (distinct : ((c.store.stock t).sessions.map (·.1)).Nodup) (done : (c.run t (bindIdentity aci pni)).1 = .ok ()) :
    let c' := (c.run t (bindIdentity aci pni)).2
    Rebound c c' t aci pni ∧ c'.run t (bindIdentity aci pni) = (.ok (), c') := by
  obtain ⟨ready, l, rebindable, ran⟩ := bindIdentity_ok distinct done
  have spared (key : String) (unwritten : key ∉ boundKeys) (u : Thread) :=
    stored?_run (c := c) (t := t) (sparesKey_bindIdentity aci pni unwritten) u
  rw [ran] at spared ⊢
  refine ⟨rebound_on ready rebindable spared, ?_⟩
  rw [run_bindIdentity (ready_rebound ready) (rebindable_rebound rebindable), rebound_rebound]

open Rehearsal in
/-- A registered client with a session in either namespace, of which one is current, and a sender key. -/
private def acquainted : Installation KeyScript ServiceScript :=
  { Installation.rehearsed Installation.rehearsedKeys .empty with
    store := .database (.new { Tables.empty with
      values := [("account.registered", .text "true"),
        ("account.pni.pre_keys", .text (PreKeyLedger.toJson ⟨some ⟨8⟩, some ⟨7⟩, some ⟨6⟩, some ⟨5⟩, true⟩).render)]
      sessions := [((.aci, "friend"), .text (sessionText ⟨some [1], [[2]]⟩)), ((.pni, "friend"), .text (sessionText ⟨none, [[3]]⟩))]
      senderKeys := [(("friend", "list"), [4])] } false) }

/-- The current state is archived, and the ledger says that nothing is published. -/
theorem bindIdentity_rebinds_acquainted :
    let c' := (acquainted.run ⟨0, none⟩ (bindIdentity default default)).2
    Rebound acquainted c' ⟨0, none⟩ default default ∧
      (c'.store.stock ⟨0, none⟩).sessions =
        [((.aci, "friend"), some ⟨none, [[1], [2]]⟩), ((.pni, "friend"), some ⟨none, [[3]]⟩)] ∧
      (c'.run ⟨0, none⟩ (preKeys .pni)).1 = .ok ⟨some ⟨8⟩, some ⟨7⟩, some ⟨6⟩, some ⟨5⟩, false⟩ ∧
      c'.run ⟨0, none⟩ (bindIdentity default default) = (.ok (), c') := by
  have distinct : ((acquainted.store.stock ⟨0, none⟩).sessions.map (·.1)).Nodup := by decide
  have done : (acquainted.run ⟨0, none⟩ (bindIdentity default default)).1 = .ok () := by decide +kernel
  obtain ⟨rebound, again⟩ := bindIdentity_rebinds acquainted ⟨0, none⟩ default default distinct done
  refine ⟨rebound, ?_, ?_, again⟩
  · rw [rebound.sessions]
    simp [acquainted, DataStore.stock, Stock.sessions, Database.view, Database.new, Cell.session?_sessionText,
      Session.archive, Session.states, Table.get?_nil]
  · obtain ⟨l, before, after⟩ := rebound.ledgers .pni
    have read : (acquainted.run ⟨0, none⟩ (preKeys .pni)).1 = .ok ⟨some ⟨8⟩, some ⟨7⟩, some ⟨6⟩, some ⟨5⟩, true⟩ := by
      decide +kernel
    obtain rfl := Except.ok.inj (before.symm.trans read)
    exact after

end Enrolment.Client
