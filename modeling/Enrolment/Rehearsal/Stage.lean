import Enrolment.Client.Installation
import Enrolment.Client.Registration
import Enrolment.Rehearsal.Keys
import Enrolment.Store.Column
import Enrolment.Store.Opening
/-!
A client on a stage: one thread acts, a worker stands by for the background, and other threads come
in to hold the group lock.
-/
namespace Enrolment.Rehearsal

open Lock Store

structure Stage (σ : Type) where
  client : Client.Installation KeyScript σ
  /-- Where the client's database is kept, unless the client works in memory. -/
  opened : Option Opened
  strict : Bool
  /-- How many transaction scopes the acting thread can still end. -/
  scopes : Nat
  /-- The threads that hold the group lock until they are told to leave it, the latest first. -/
  holders : List Thread

namespace Stage

variable {σ ε α : Type}

def actor : Thread := ⟨0, some "driver"⟩

def worker : Thread := ⟨1, some "worker"⟩

def inMemory (strict : Bool) (groupTimeout : Nat) (keys : KeyScript) (accountService : Service.AccountService σ)
    (service : σ) : Stage σ :=
  ⟨.new (.memory .empty) strict groupTimeout KeyScript.factory keys accountService service, none, strict, 0, []⟩

def onDatabase (files : FileTree) (url : String) (strict : Bool) (groupTimeout : Nat) (keys : KeyScript)
    (accountService : Service.AccountService σ) (service : σ) : Except Fault (Stage σ) := do
  let opened ← whileDoing .openingAccount (openDatabase files url).1
  return ⟨.new (.database opened.database) strict groupTimeout KeyScript.factory keys accountService service,
    some opened, strict, 0, []⟩

def run (s : Stage σ) (t : Thread) (a : Activity ε α) : Except ε α × Stage σ :=
  let (result, client) := s.client.run t a
  (result, { s with client })

def setStore (s : Stage σ) (store : DataStore) : Stage σ := { s with client := { s.client with store } }

def setYard (s : Stage σ) (yard : Yard) : Stage σ := { s with client := { s.client with yard } }

def setQueue (s : Stage σ) (queue : JobQueue) : Stage σ := { s with client := { s.client with queue } }

/-! ## Locks -/

def askGroup (s : Stage σ) (t : Thread) : Outcome × Stage σ :=
  let y := s.client.yard
  let (result, yard) :=
    Client.Installation.awaitGroups (y.askGroup t (s.client.store.inTransaction t) y.groupLock.timeout none) t
  (result, s.setYard yard)

def holdGroup (s : Stage σ) (t : Thread) (span : Option Nat) : Bool × Stage σ :=
  match s.askGroup t with
  | (.refused _, s) => (false, s)
  | (.granted, s) =>
    match span with
    | none => (true, { s with holders := t :: s.holders })
    | some span =>
      let y := s.client.yard
      (true, s.setYard { y with alarms := y.alarms ++ [⟨y.now + span, t⟩] })

def releaseGroup (s : Stage σ) : Stage σ :=
  match s.holders with
  | [] => s
  | t :: holders => { s with holders }.setYard ((s.client.yard.leave t .group).getD s.client.yard)

def leave? (s : Stage σ) (which : Which) : Option (Stage σ) :=
  (s.client.yard.leave actor which).map s.setYard

def enterProtocol (s : Stage σ) : Stage σ :=
  let y := s.client.yard
  s.setYard { y with protocolLock := y.protocolLock.enter actor }

/-! ## Transactions -/

def openScope (s : Stage σ) : Except Fault Unit × Stage σ :=
  match s.client.store.openScope actor with
  | (.ok (), store) => (.ok (), { s.setStore store with scopes := s.scopes + 1 })
  | (.error f, store) => (.error f, s.setStore store)

def closeScope (s : Stage σ) (commit : Bool) : Except Fault Unit × Stage σ :=
  let (result, store) := s.client.store.closeScope actor commit
  (result, { s.setStore store with scopes := s.scopes - 1 })

def giveUpScopes : Nat → Stage σ → Stage σ
  | 0, s => s
  | scopes + 1, s => giveUpScopes scopes (s.closeScope false).2

/-- Closes the database and starts over with it; the queue and the scripts stay. -/
def reopen (s : Stage σ) : Stage σ :=
  let s := giveUpScopes s.scopes s
  match s.client.store, s.opened with
  | .database d, some o =>
    let opened := { o with database := d }.reopen
    let yard := Yard.new Client.protocolLockName s.strict s.client.yard.groupLock.timeout
    { (s.setStore (.database opened.database)).setYard yard with opened := some opened }
  | _, _ => s

def overwrite? (s : Stage σ) (column : Column) (cell : Cell) : Option (Except Fault Nat × Stage σ) :=
  match s.client.store with
  | .database d =>
    let (result, d) := d.overwrite column cell
    some (result, s.setStore (.database d))
  | .memory _ => none

/-! ## Many threads -/

def evaluateMany (s : Stage σ) : Nat → Nat × Stage σ
  | 0 => (0, s)
  | count + 1 =>
    let (passed, s) := s.evaluateMany count
    match s.run worker Client.evaluate with
    | (.ok true, s) => (passed + 1, s)
    | (_, s) => (passed, s)

def threadKey (thread each i : Nat) : SignedPreKey :=
  ⟨⟨UInt32.ofNat (thread * each + i + 1)⟩, [UInt8.ofNat thread, UInt8.ofNat i], [], [], .epoch⟩

def threadSpace (thread : Nat) : Namespace := if thread % 2 = 0 then .aci else .pni

def storeKeys (s : Stage σ) (thread each : Nat) : Nat → Bool × Stage σ
  | 0 => (true, s)
  | count + 1 =>
    let (fine, s) := s.storeKeys thread each count
    let (result, s) := s.run worker (Activity.store (.putSignedPreKey (threadSpace thread) (threadKey thread each count)))
    (fine && result.toOption.isSome, s)

def storeKeysMany (s : Stage σ) (each : Nat) : Nat → Nat × Stage σ
  | 0 => (0, s)
  | count + 1 =>
    let (finished, s) := s.storeKeysMany each count
    let (fine, s) := s.storeKeys count each each
    (if fine then finished + 1 else finished, s)

def keysUpTo (s : Stage σ) (last : Nat) : List (Namespace × SignedPreKey) :=
  Namespace.all.flatMap fun space =>
    (List.range last).filterMap fun n =>
      match (s.run actor (Activity.store (.signedPreKey space ⟨UInt32.ofNat (n + 1)⟩))).1 with
      | .ok (some key) => some (space, key)
      | _ => none

end Stage
end Enrolment.Rehearsal
