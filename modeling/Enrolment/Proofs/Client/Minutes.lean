import Enrolment.Proofs.Client.Office
/-!
What comes of many changes of groups. Since only one thread at a time has the lock, every change finds
the groups as the changes before it left them. Main result: the changes come out as if they had been
made one after another, in the order in which they had the lock (`changes_serial`).
-/
namespace Enrolment.Client

open Store Activity Lock

def changesOf (clerks : List Clerk) (id : GroupId) (order : List Nat) : List MembershipChange :=
  order.filterMap fun i => clerks[i]?.bind fun clerk => if clerk.id = id then some clerk.change else none

/-- The places of those that succeed, among the places of those that had the lock. -/
def succeeded (clerks : List Clerk) (served : List Nat) : List Nat :=
  served.filter fun i => (clerks[i]?.bind (·.phase.group?)).isSome

section

variable {clerks clerks' : List Clerk} {served order : List Nat} {i : Nat} {clerk clerk' : Clerk}

private theorem bind_set {β : Type} {f : Clerk → Option β} (there : clerks[i]? = some clerk) (same : f clerk' = f clerk)
    (j : Nat) : (clerks.set i clerk')[j]?.bind f = clerks[j]?.bind f := by
  rw [getElem?_set there]
  split
  · rename_i here
    rw [← here, there, Option.bind_some, Option.bind_some, same]
  · rfl

theorem changesOf_congr (same : ∀ i ∈ order, clerks'[i]? = clerks[i]?) (id : GroupId) :
    changesOf clerks' id order = changesOf clerks id order :=
  List.filterMap_congr fun i there => by rw [same i there]

theorem changesOf_set (there : clerks[i]? = some clerk) (sameId : clerk'.id = clerk.id)
    (sameChange : clerk'.change = clerk.change) : changesOf (clerks.set i clerk') = changesOf clerks := by
  funext id order
  exact List.filterMap_congr fun j _ => bind_set there (by rw [sameId, sameChange]) j

theorem changesOf_concat (there : clerks[i]? = some clerk) (id : GroupId) (order : List Nat) :
    changesOf clerks id (order ++ [i]) = changesOf clerks id order ++ if clerk.id = id then [clerk.change] else [] := by
  rw [changesOf, List.filterMap_append]
  congr 1
  by_cases here : clerk.id = id <;> simp [there, here]

theorem succeeded_set_of_same (there : clerks[i]? = some clerk) (same : clerk'.phase.group? = clerk.phase.group?) :
    succeeded (clerks.set i clerk') served = succeeded clerks served :=
  List.filter_congr fun j _ => by rw [bind_set there same j]

theorem succeeded_set_of_last (there : clerks[i]? = some clerk) (before : clerk.phase.group? = none)
    (after : clerk'.phase.group?.isSome = true) (distinct : served.Nodup) (last : served.getLast? = some i) :
    succeeded (clerks.set i clerk') served = succeeded clerks served ++ [i] := by
  obtain ⟨front, rfl⟩ := List.getLast?_eq_some_iff.1 last
  have earlier : ∀ j ∈ front, i ≠ j := by
    rintro j member rfl
    exact (List.nodup_append.1 distinct).2.2 _ member _ (List.mem_singleton_self _) rfl
  unfold succeeded
  rw [List.filter_append, List.filter_append]
  have same : front.filter (fun j => ((clerks.set i clerk')[j]?.bind (·.phase.group?)).isSome) =
      front.filter fun j => (clerks[j]?.bind (·.phase.group?)).isSome :=
    List.filter_congr fun j member => by rw [getElem?_set there, if_neg (earlier j member)]
  rw [same]
  simp [getElem?_set there, there, before, after]

end

/-- The groups are as those changes leave them, one after another, that succeed; each of these returns
the group as it leaves it. -/
structure Tally (clerks : List Clerk) (order : List Nat) (store : DataStore) : Prop where
  lists : store.Lists fun id => storedAfter id (changesOf clerks id order)
  bounded : ∀ id, effective (changesOf clerks id order) < UInt32.size
  returned : ∀ k i, order[k]? = some i → ∃ clerk, clerks[i]? = some clerk ∧
    clerk.phase.group? = some (groupAfter clerk.id (changesOf clerks clerk.id (order.take (k + 1))))
  writing : ∀ clerk ∈ clerks, ∀ after, clerk.phase = .writing after →
    Revised clerk.id (changesOf clerks clerk.id order) clerk.change after

namespace Tally

variable {clerks : List Clerk} {order : List Nat} {store store' : DataStore} {i : Nat} {clerk clerk' : Clerk}

theorem goesOn (tally : Tally clerks order store) (there : clerks[i]? = some clerk) (sameId : clerk'.id = clerk.id)
    (sameChange : clerk'.change = clerk.change) (sameGroup : clerk'.phase.group? = clerk.phase.group?)
    (lists : store'.Lists fun id => storedAfter id (changesOf clerks id order))
    (writing : ∀ after, clerk'.phase = .writing after →
      Revised clerk.id (changesOf clerks clerk.id order) clerk.change after) :
    Tally (clerks.set i clerk') order store' := by
  have same : changesOf (clerks.set i clerk') = changesOf clerks := changesOf_set there sameId sameChange
  refine ⟨by rwa [same], by rw [same]; exact tally.bounded, fun k j found => ?_, fun other member after is => ?_⟩
  · obtain ⟨earlier, there', returned⟩ := tally.returned k j found
    rw [getElem?_set there]
    split
    · rename_i here
      obtain rfl : clerk = earlier := Option.some.inj (there.symm.trans (here ▸ there'))
      exact ⟨clerk', rfl, by rw [same, sameGroup, sameId, returned]⟩
    · exact ⟨earlier, there', by rw [same, returned]⟩
  · rw [same]
    obtain before | rfl := List.mem_or_eq_of_mem_set member
    · exact tally.writing other before after is
    · rw [sameId, sameChange]
      exact writing after is

theorem counts (tally : Tally clerks order store) (there : clerks[i]? = some clerk) (sameId : clerk'.id = clerk.id)
    (sameChange : clerk'.change = clerk.change) (before : clerk.phase.group? = none)
    (after : clerk'.phase.group? = some (groupAfter clerk.id (changesOf clerks clerk.id order ++ [clerk.change])))
    (bounded : effective (changesOf clerks clerk.id order ++ [clerk.change]) < UInt32.size)
    (lists : store'.Lists (Function.update (fun id => storedAfter id (changesOf clerks id order)) clerk.id
      (storedAfter clerk.id (changesOf clerks clerk.id order ++ [clerk.change]))))
    (alone : ∀ other ∈ clerks.set i clerk', ∀ g, other.phase ≠ .writing g) :
    Tally (clerks.set i clerk') (order ++ [i]) store' := by
  have same : changesOf (clerks.set i clerk') = changesOf clerks := changesOf_set there sameId sameChange
  have more (id : GroupId) : changesOf (clerks.set i clerk') id (order ++ [i]) =
      if clerk.id = id then changesOf clerks id order ++ [clerk.change] else changesOf clerks id order := by
    rw [same, changesOf_concat there]
    split
    · rfl
    · rw [List.append_nil]
  refine ⟨?_, fun id => ?_, fun k j found => ?_, fun other member g is => absurd is (alone other member g)⟩
  · convert lists using 2 with id
    rw [more, Function.update_apply]
    by_cases here : id = clerk.id
    · rw [here, if_pos rfl, if_pos rfl]
    · rw [if_neg here, if_neg (Ne.symm here)]
  · rw [more]
    split
    · rename_i here
      rw [← here]
      exact bounded
    · exact tally.bounded id
  · rw [List.getElem?_append] at found
    split at found
    · rename_i earlier
      obtain ⟨other, there', returned⟩ := tally.returned k j found
      have different : i ≠ j := by
        rintro rfl
        obtain rfl := Option.some.inj (there.symm.trans there')
        cases before.symm.trans returned
      rw [getElem?_set there, if_neg different, same, List.take_append_of_le_length earlier]
      exact ⟨other, there', returned⟩
    · rename_i last
      obtain ⟨last, rfl⟩ : k = order.length ∧ i = j := by
        rw [List.getElem?_singleton] at found
        split at found
        · exact ⟨by omega, Option.some.inj found⟩
        · cases found
      refine ⟨clerk', by rw [getElem?_set there, if_pos rfl], ?_⟩
      rw [List.take_of_length_le (by simp [last]), more, sameId, if_pos rfl, after]

end Tally

def Office.past (s : Office) (id : GroupId) : List MembershipChange := changesOf s.clerks id (succeeded s.clerks s.served)

/-- The tally of those that had the lock, where whoever is inside was the last to get it. -/
structure Tallied (s : Office) : Prop where
  distinct : s.served.Nodup
  served : ∀ i, i ∈ s.served ↔ ∃ clerk, s.clerks[i]? = some clerk ∧ clerk.phase.wasInside = true
  last : ∀ i clerk, s.clerks[i]? = some clerk → clerk.phase.isInside = true → s.served.getLast? = some i
  tally : Tally s.clerks (succeeded s.clerks s.served) s.store

namespace Tallied

variable {s : Office} {room : Room} {store : DataStore} {i : Nat} {clerk clerk' : Clerk} {before after : Phase}

private theorem served_set (tallied : Tallied s) (there : s.clerks[i]? = some clerk)
    (sameWas : clerk'.phase.wasInside = clerk.phase.wasInside) (j : Nat) :
    j ∈ s.served ↔ ∃ other, (s.clerks.set i clerk')[j]? = some other ∧ other.phase.wasInside = true := by
  rw [tallied.served, getElem?_set there]
  split
  · rename_i here
    rw [← here, there]
    simp [sameWas]
  · rfl

theorem goesOn (tallied : Tallied s) (there : s.clerks[i]? = some clerk) (clerk' : Clerk) (sameId : clerk'.id = clerk.id)
    (sameChange : clerk'.change = clerk.change) (here : clerk.phase = before) (next : clerk'.phase = after)
    (sameGroup : after.group? = before.group?) (sameWas : after.wasInside = before.wasInside)
    (inside : after.isInside = true → before.isInside = true)
    (lists : store.Lists fun id => storedAfter id (s.past id))
    (writing : ∀ g, after = .writing g → Revised clerk.id (s.past clerk.id) clerk.change g) :
    Tallied ⟨room, s.timeout, s.checker, store, s.clerks.set i clerk', s.served⟩ := by
  subst here next
  refine ⟨tallied.distinct, tallied.served_set there sameWas, fun j other found insideNow => ?_, ?_⟩
  · obtain ⟨-, there'⟩ | ⟨rfl, rfl⟩ := other_or_heard there found
    · exact tallied.last j other there' insideNow
    · exact tallied.last i clerk there (inside insideNow)
  · show Tally _ (succeeded (s.clerks.set i clerk') s.served) _
    rw [succeeded_set_of_same there sameGroup]
    exact tallied.tally.goesOn there sameId sameChange sameGroup lists writing

theorem counts (tallied : Tallied s) (ordered : s.Ordered) (there : s.clerks[i]? = some clerk) (clerk' : Clerk)
    (sameId : clerk'.id = clerk.id) (sameChange : clerk'.change = clerk.change) (here : clerk.phase = before)
    (next : clerk'.phase = .leaving (.ok (groupAfter clerk.id (s.past clerk.id ++ [clerk.change]))))
    (inside : before.isInside = true) (unfinished : before.group? = none)
    (bounded : effective (s.past clerk.id ++ [clerk.change]) < UInt32.size)
    (lists : store.Lists (Function.update (fun id => storedAfter id (s.past id)) clerk.id
      (storedAfter clerk.id (s.past clerk.id ++ [clerk.change])))) :
    Tallied ⟨room, s.timeout, s.checker, store, s.clerks.set i clerk', s.served⟩ := by
  subst here
  have last := tallied.last i clerk there inside
  have was : clerk.phase.wasInside = true := by
    obtain ⟨clerk, there', was⟩ := (tallied.served i).1 (List.mem_of_getLast? last)
    rwa [Option.some.inj (there.symm.trans there')]
  refine ⟨tallied.distinct, tallied.served_set there (by rw [next, was]; rfl), fun j other found insideNow => ?_, ?_⟩
  · obtain ⟨-, found'⟩ | ⟨rfl, rfl⟩ := other_or_heard there found
    · exact tallied.last j other found' insideNow
    · exact last
  · show Tally _ (succeeded (s.clerks.set i clerk') s.served) _
    rw [succeeded_set_of_last there unfinished (by rw [next]; rfl) tallied.distinct last]
    refine tallied.tally.counts there sameId sameChange unfinished (by rw [next]; rfl) bounded lists
      fun other member g is => ?_
    obtain ⟨j, found⟩ := List.getElem?_of_mem member
    obtain ⟨different, found'⟩ | ⟨-, rfl⟩ := other_or_heard there found
    · exact different (ordered.eq_of_inside there found' inside (by rw [is]; rfl))
    · cases is.symm.trans next

theorem enters (tallied : Tallied s) (there : s.clerks[i]? = some clerk) (clerk' : Clerk) (sameId : clerk'.id = clerk.id)
    (sameChange : clerk'.change = clerk.change) (here : clerk.phase = .outside) (next : clerk'.phase = .reading)
    (nobody : ∀ other ∈ s.clerks, other.phase.isInside = false) :
    Tallied ⟨room, s.timeout, s.checker, s.store, s.clerks.set i clerk', s.served ++ [i]⟩ := by
  have new : i ∉ s.served := fun there' => by
    obtain ⟨clerk, found, was⟩ := (tallied.served i).1 there'
    obtain rfl := Option.some.inj (there.symm.trans found)
    rw [here] at was
    cases was
  refine ⟨?_, fun j => ?_, fun j other found inside => ?_, ?_⟩
  · exact List.nodup_append.2 ⟨tallied.distinct, List.nodup_singleton i, fun j earlier k last same =>
      new (List.mem_singleton.1 last ▸ same ▸ earlier)⟩
  · rw [List.mem_append, List.mem_singleton, tallied.served, getElem?_set there]
    by_cases this : i = j
    · simp [this, next, Phase.wasInside]
    · simp [this, Ne.symm this]
  · obtain ⟨-, found'⟩ | ⟨rfl, rfl⟩ := other_or_heard there found
    · exact Bool.noConfusion ((nobody other (List.mem_of_getElem? found')).symm.trans inside)
    · exact List.getLast?_concat
  · have same : succeeded (s.clerks.set i clerk') (s.served ++ [i]) = succeeded s.clerks s.served := by
      rw [succeeded_set_of_same there (by rw [here, next]; rfl)]
      simp [succeeded, List.filter_append, there, here, Phase.group?]
    show Tally _ (succeeded (s.clerks.set i clerk') (s.served ++ [i])) _
    rw [same]
    refine tallied.tally.goesOn there sameId sameChange (by rw [here, next]; rfl) tallied.tally.lists fun g writing => ?_
    cases next.symm.trans writing

theorem begun (tallied : Tallied s) (t : Thread) (id : GroupId) (change : MembershipChange) :
    Tallied { s with clerks := s.clerks ++ [.begin t id change] } := by
  have kept {j : Nat} {clerk : Clerk} (there : s.clerks[j]? = some clerk) :
      (s.clerks ++ [.begin t id change])[j]? = some clerk := by
    rw [List.getElem?_append_left (List.getElem?_eq_some_iff.1 there).1, there]
  have same : ∀ j ∈ s.served, (s.clerks ++ [.begin t id change])[j]? = s.clerks[j]? := fun j member => by
    obtain ⟨clerk, there, -⟩ := (tallied.served j).1 member
    rw [there, kept there]
  have sameOrder : succeeded (s.clerks ++ [.begin t id change]) s.served = succeeded s.clerks s.served :=
    List.filter_congr fun j member => by rw [same j member]
  have sameChanges (id' : GroupId) {order : List Nat} (served : order ⊆ s.served) :
      changesOf (s.clerks ++ [.begin t id change]) id' order = changesOf s.clerks id' order :=
    changesOf_congr (fun j member => same j (served member)) id'
  have within : succeeded s.clerks s.served ⊆ s.served :=
    fun _ member => (List.mem_filter.1 member).1
  refine ⟨tallied.distinct, fun j => ⟨fun member => ?_, ?_⟩, fun j clerk found inside => ?_, ?_⟩
  · obtain ⟨clerk, there, was⟩ := (tallied.served j).1 member
    exact ⟨clerk, kept there, was⟩
  · rintro ⟨clerk, found, was⟩
    obtain there | ⟨-, rfl⟩ := old_or_new found
    · exact (tallied.served j).2 ⟨clerk, there, was⟩
    · cases was
  · obtain there | ⟨-, rfl⟩ := old_or_new found
    · exact tallied.last j clerk there inside
    · cases inside
  · show Tally _ (succeeded (s.clerks ++ [.begin t id change]) s.served) _
    rw [sameOrder]
    obtain ⟨lists, bounded, returned, writing⟩ := tallied.tally
    refine ⟨?_, fun id' => ?_, fun k j found => ?_, fun clerk member g is => ?_⟩
    · simpa only [sameChanges _ within] using lists
    · rw [sameChanges _ within]
      exact bounded id'
    · obtain ⟨clerk, there, is⟩ := returned k j found
      refine ⟨clerk, kept there, ?_⟩
      rwa [sameChanges _ (List.Subset.trans (List.take_subset _ _) within)]
    · obtain ⟨j, found⟩ := List.getElem?_of_mem member
      obtain there | ⟨-, rfl⟩ := old_or_new found
      · rw [sameChanges _ within]
        exact writing clerk (List.mem_of_getElem? there) g is
      · cases is

theorem turnedAway (tallied : Tallied s) (proper : clerk.Proper) (there : s.clerks[i]? = some clerk)
    {next : Outcome → Plan effects (Except GroupError Group)} (wants : clerk.rest = .ask .enterGroups next) (r : Refusal) :
    Tallied { @Office.told s i clerk .enterGroups next (.refused r) with room } := by
  obtain ⟨before, after⟩ := (proper.moves wants (.refused r)).of_refused
  exact tallied.goesOn there _ rfl rfl before after rfl rfl id tallied.tally.lists fun g writing => by cases writing

private theorem reads (tallied : Tallied s) (ordered : s.Ordered) (there : s.clerks[i]? = some clerk) (clerk' : Clerk)
    (sameId : clerk'.id = clerk.id) (sameChange : clerk'.change = clerk.change) (here : clerk.phase = .reading)
    (next : clerk'.phase = decided clerk.id clerk.change (storedAfter clerk.id (s.past clerk.id)))
    (lists : store.Lists fun id => storedAfter id (s.past id)) :
    Tallied ⟨room, s.timeout, s.checker, store, s.clerks.set i clerk', s.served⟩ := by
  have bounded : effective (s.past clerk.id) < UInt32.size := tallied.tally.bounded clerk.id
  obtain ⟨makes, same, unchanged⟩ | ⟨g, makes, revised⟩ | ⟨makes, -⟩ := decided_cases bounded clerk.change
  · refine tallied.counts ordered there clerk' sameId sameChange here (next.trans makes) rfl rfl (unchanged ▸ bounded) ?_
    rwa [same, Function.update_eq_self]
  · refine tallied.goesOn there clerk' sameId sameChange here (next.trans makes) rfl rfl (fun _ => rfl) lists
      fun g' writing => ?_
    rwa [← Phase.writing.inj writing]
  · exact tallied.goesOn there clerk' sameId sameChange here (next.trans makes) rfl rfl (fun _ => rfl) lists
      fun g writing => by cases writing

theorem answered (tallied : Tallied s) (ordered : s.Ordered) (there : s.clerks[i]? = some clerk) {op : Operation}
    {next : Except Fault op.Result → Plan effects (Except GroupError Group)} (wants : clerk.rest = .ask (.store op) next)
    {answer : Except Fault op.Result}
    (answered : (answer, store) = s.store.perform clerk.thread op ∨ ∃ f, answer = .error f ∧ store = s.store) :
    Tallied { @Office.told s i clerk (.store op) next answer with store } := by
  have member := List.mem_of_getElem? there
  have moves := (ordered.proper clerk member).moves wants answer
  have lists : s.store.Lists fun id => storedAfter id (s.past id) := tallied.tally.lists
  have outside := ordered.apart clerk member (by simp [Clerk.isBusy, wants])
  generalize before : clerk.phase = p, after : (@Clerk.hear clerk (.store op) next answer).phase = p' at moves
  cases moves with
  | reads stored decides =>
    obtain performed | ⟨f, failed, -⟩ := answered
    · have read := lists.group clerk.thread clerk.id
      have kept := lists.perform clerk.thread (.group clerk.id) rfl
      rw [← performed] at read kept
      obtain found | ⟨e, failed⟩ := read
      · refine tallied.reads ordered there _ rfl rfl before ?_ kept
        rw [after, ← decides, Except.ok.inj found]
      · cases failed
    · cases failed
  | readFails f =>
    refine tallied.goesOn there _ rfl rfl before after rfl rfl (fun _ => rfl) ?_ fun g writing => by cases writing
    obtain performed | ⟨f, -, same⟩ := answered
    · have kept := lists.perform clerk.thread (.group clerk.id) rfl
      rwa [← performed] at kept
    · rwa [same]
  | writes g =>
    obtain ⟨is, stored, bounded⟩ := tallied.tally.writing clerk member g before
    refine tallied.counts ordered there _ rfl rfl before (by rw [after, is]; rfl) rfl rfl bounded ?_
    have put := lists.putGroup outside g
    obtain performed | ⟨f, failed, -⟩ := answered
    · rw [← performed] at put
      obtain ⟨-, lists⟩ | ⟨e, failed⟩ := put
      · have sameId : g.id = clerk.id := congrArg Group.id is
        rw [sameId, ← stored] at lists
        exact lists
      · cases congrArg Prod.fst failed
    · cases failed
  | writeFails g f =>
    refine tallied.goesOn there _ rfl rfl before after rfl rfl (fun _ => rfl) ?_ fun g writing => by cases writing
    have put := lists.putGroup outside g
    obtain performed | ⟨f, -, same⟩ := answered
    · rw [← performed] at put
      obtain ⟨done, -⟩ | ⟨e, failed⟩ := put
      · cases done
      · rwa [show store = s.store from congrArg Prod.snd failed]
    · rwa [same]

end Tallied

theorem Office.Step.tallied {s s' : Office} (step : Office.Step s s') (ordered : s.Ordered) (tallied : Tallied s) :
    Tallied s' := by
  have proper {i : Nat} {clerk : Clerk} (there : s.clerks[i]? = some clerk) : clerk.Proper :=
    ordered.proper clerk (List.mem_of_getElem? there)
  have changed {room : Room} {store : DataStore}
      (lists : store.Lists fun id => storedAfter id (s.past id)) : Tallied { s with room, store } :=
    ⟨tallied.distinct, tallied.served, tallied.last, { tallied.tally with lists }⟩
  have lists : s.store.Lists fun id => storedAfter id (s.past id) := tallied.tally.lists
  cases step with
  | begins t id change => exact tallied.begun t id change
  | asks | stirs => exact changed lists
  | breaks there wants => exact tallied.turnedAway (proper there) there wants _
  | @looks i clerk next patience number there wants looking new =>
    unfold Office.looked
    cases turn : s.room.lock.look clerk.thread s.room.fired s.room.now patience with
    | enter =>
      obtain ⟨before, after⟩ := ((proper there).moves wants .granted).of_granted
      refine tallied.enters there { @Clerk.hear clerk .enterGroups next .granted with number } rfl rfl before after
        fun other => ?_
      exact ordered.nobody_inside there (by simp [Clerk.isBusy, wants]) (by rw [before]; rfl) (Reentrant.canEnter_of_look turn)
    | fail e => exact tallied.turnedAway (proper there) there wants _
    | sleep limit => exact changed lists
  | performs there wants => exact tallied.answered ordered there wants (Or.inl rfl)
  | fails there wants f => exact tallied.answered ordered there wants (Or.inr ⟨f, rfl, rfl⟩)
  | leaves there wants step =>
    obtain ⟨result, before, after⟩ := ((proper there).moves wants ()).of_left
    exact tallied.goesOn there _ rfl rfl before after (by cases result <;> rfl) rfl (fun _ => rfl) lists
      fun g writing => by cases writing
  | works t op free other => exact changed (lists.perform t op other)
  | opensScope t => exact changed (lists.openScope t)
  | closesScope t commit => exact changed (lists.closeScope t commit)

namespace Office

variable {s : Office}

/-- The places of those clerks that have returned a group, in the order in which they had the lock. -/
def order (s : Office) : List Nat := s.served.filter fun i => (s.clerks[i]?.bind Clerk.returned?).isSome

theorem Reachable.tallied (reachable : Reachable s) : s.Ordered ∧ Tallied s := by
  induction reachable with
  | @fresh s fresh =>
    obtain ⟨room, lists, none_, nobody⟩ := fresh
    refine ⟨⟨(Room.Reachable.fresh room).sound, ?_, ?_, ?_, ?_⟩, ?_, ?_, ?_, ?_⟩
    · simp [none_]
    · simp [none_]
    · simp [none_]
    · simp [none_]
    · simp [nobody]
    · simp [none_, nobody]
    · simp [none_]
    · simp only [none_, nobody]
      exact ⟨lists, fun _ => Nat.two_pow_pos 32, nofun, nofun⟩
  | step _ step ih => exact ⟨step.ordered ih.1, step.tallied ih.1 ih.2⟩

private theorem returned_eq (ordered : s.Ordered) (quiet : ∀ clerk ∈ s.clerks, clerk.isBusy = false) {clerk : Clerk}
    (member : clerk ∈ s.clerks) : clerk.returned? = clerk.phase.group? :=
  (ordered.proper clerk member).returned?_eq (quiet clerk member)

theorem order_eq (ordered : s.Ordered) (quiet : ∀ clerk ∈ s.clerks, clerk.isBusy = false) :
    s.order = succeeded s.clerks s.served := by
  refine List.filter_congr fun i _ => ?_
  cases there : s.clerks[i]? with
  | none => rfl
  | some clerk => rw [Option.bind_some, Option.bind_some, returned_eq ordered quiet (List.mem_of_getElem? there)]

theorem mem_order_iff (ordered : s.Ordered) (tallied : Tallied s) (i : Nat) :
    i ∈ s.order ↔ ∃ (clerk : Clerk) (g : Group), s.clerks[i]? = some clerk ∧ clerk.rest = .done (.ok g) := by
  rw [order, List.mem_filter, tallied.served]
  constructor
  · rintro ⟨⟨clerk, there, -⟩, counted⟩
    rw [there, Option.bind_some] at counted
    obtain ⟨g, is⟩ := Option.isSome_iff_exists.1 counted
    exact ⟨clerk, g, there, Clerk.returned?_eq_some.1 is⟩
  · rintro ⟨clerk, g, there, is⟩
    refine ⟨⟨clerk, there, ?_⟩, by rw [there, Option.bind_some, Clerk.returned?_eq_some.2 is]; rfl⟩
    -- whoever returns a group had the lock
    obtain ⟨left, -⟩ | ⟨r, -, failed⟩ := (ordered.proper clerk (List.mem_of_getElem? there)).ends is
    · rw [left]
      rfl
    · cases failed

theorem refused_of_busy (ordered : s.Ordered) (tallied : Tallied s) {i : Nat} {clerk : Clerk} {e : BusyError}
    (there : s.clerks[i]? = some clerk) (done : clerk.rest = .done (.error (.busy e))) :
    i ∉ s.served ∧ ∃ r, refusal r = .busy e ∧ clerk.said = [⟨.enterGroups, .refused r⟩] := by
  have proper := ordered.proper clerk (List.mem_of_getElem? there)
  obtain ⟨-, other⟩ | ⟨r, refused, tells⟩ := proper.ends done
  · exact absurd rfl (other e)
  · refine ⟨fun served => ?_, r, (Except.error.inj tells).symm, proper.refused r refused⟩
    obtain ⟨clerk', there', was⟩ := (tallied.served i).1 served
    obtain rfl := Option.some.inj (there.symm.trans there')
    rw [refused] at was
    cases was

theorem revision_eq (tallied : Tallied s) (k : Nat) (id : GroupId) :
    (groupAfter id (changesOf s.clerks id ((succeeded s.clerks s.served).take k))).revision.toNat =
      effective (changesOf s.clerks id ((succeeded s.clerks s.served).take k)) := by
  have parts : s.past id = changesOf s.clerks id ((succeeded s.clerks s.served).take k) ++
      changesOf s.clerks id ((succeeded s.clerks s.served).drop k) := by
    rw [past, changesOf, changesOf, changesOf, ← List.filterMap_append, List.take_append_drop]
  have fewer := effective_le_append (changesOf s.clerks id ((succeeded s.clerks s.served).take k))
    (changesOf s.clerks id ((succeeded s.clerks s.served).drop k))
  rw [← parts] at fewer
  exact UInt32.toNat_ofNat_of_lt' (Nat.lt_of_le_of_lt fewer (tallied.tally.bounded id))

/-- When no change is going on, the groups are as those changes leave them, one after another in the
order in which they had the lock, that have returned a group. A group's revision is the number of those
that changed its membership, each has returned the group as it left it, and one that did not get the
lock has asked for nothing else. -/
theorem changes_serial (reachable : Reachable s) (quiet : ∀ clerk ∈ s.clerks, clerk.isBusy = false) :
    s.served.Nodup ∧
      (∀ i, i ∈ s.order ↔ ∃ (clerk : Clerk) (g : Group), s.clerks[i]? = some clerk ∧ clerk.rest = .done (.ok g)) ∧
      (∀ t id, s.store.Admits t →
        (s.store.perform t (.group id)).1 = .ok (storedAfter id (changesOf s.clerks id s.order))) ∧
      (∀ k id, (groupAfter id (changesOf s.clerks id (s.order.take k))).revision.toNat =
        effective (changesOf s.clerks id (s.order.take k))) ∧
      (∀ k i : Nat, s.order[k]? = some i → ∃ clerk : Clerk, s.clerks[i]? = some clerk ∧
        clerk.rest = .done (.ok (groupAfter clerk.id (changesOf s.clerks clerk.id (s.order.take (k + 1)))))) ∧
      ∀ (i : Nat) (clerk : Clerk) (e : BusyError), s.clerks[i]? = some clerk → clerk.rest = .done (.error (.busy e)) →
        i ∉ s.served ∧ ∃ r, refusal r = .busy e ∧ clerk.said = [⟨.enterGroups, .refused r⟩] := by
  obtain ⟨ordered, tallied⟩ := reachable.tallied
  have same := order_eq ordered quiet
  obtain ⟨lists, -, results, -⟩ := tallied.tally
  rw [← same] at lists results
  refine ⟨tallied.distinct, mem_order_iff ordered tallied, fun t id admits => lists.group_of_admits admits id,
    fun k id => ?_, fun k i found => ?_, fun i clerk e there done => refused_of_busy ordered tallied there done⟩
  · rw [same]
    exact revision_eq tallied k id
  · obtain ⟨clerk, there, is⟩ := results k i found
    rw [← returned_eq ordered quiet (List.mem_of_getElem? there)] at is
    exact ⟨clerk, there, Clerk.returned?_eq_some.1 is⟩

/-- While one thread is at a change, another one does not get the lock, which it does not wait for. -/
theorem changes_serial_of_two : ∃ s : Office, s.Reachable ∧ (∀ clerk ∈ s.clerks, clerk.isBusy = false) ∧
    s.clerks.length = 2 ∧ s.order = [0] ∧
    (s.store.perform ⟨3, none⟩ (.group ⟨7⟩)).1 = .ok (some ⟨⟨7⟩, 1, Members.empty.insert ⟨⟨5⟩⟩⟩) := by
  let room : Room := ⟨.free GroupLock.lockName, [], fun _ => .outside, 0, fun _ => false⟩
  let start : Office := ⟨room, 0, .strict "protocol", .memory .empty, [], []⟩
  have fresh : Reachable start := .fresh ⟨⟨⟨_, rfl⟩, rfl, fun _ => rfl⟩, DataStore.lists_of_fresh.1, rfl, rfl⟩
  have one := fresh.step (.begins ⟨1, none⟩ ⟨7⟩ (.add [⟨⟨5⟩⟩]) (by simp [Busy, start]) rfl)
  have both := one.step (.begins ⟨2, none⟩ ⟨7⟩ (.add [⟨⟨6⟩⟩]) (by simp [Busy, start, Clerk.begin]) rfl)
  have asked := both.step (@Step.asks _ 0 _ _ _ false false rfl rfl rfl (.asks _ rfl))
  have inside := asked.step (@Step.looks _ 0 _ _ _ 0 rfl rfl rfl nofun)
  have read := inside.step (.performs (i := 0) rfl rfl)
  have written := read.step (.performs (i := 0) rfl rfl)
  have late := written.step (@Step.asks _ 1 _ _ _ false false rfl rfl rfl (.asks _ rfl))
  have busy := late.step (@Step.looks _ 1 _ _ _ 1 rfl rfl rfl (by decide))
  have left := busy.step (.leaves (i := 0) rfl rfl (.drops (.head _) rfl))
  obtain ⟨s, reachable, quiet, both, first, changes, admits⟩ : ∃ s : Office, s.Reachable ∧
      (∀ clerk ∈ s.clerks, clerk.isBusy = false) ∧ s.clerks.length = 2 ∧ s.order = [0] ∧
      changesOf s.clerks ⟨7⟩ s.order = [.add [⟨⟨5⟩⟩]] ∧ s.store.Admits ⟨3, none⟩ :=
    ⟨_, left, List.forall_mem_cons.2 ⟨rfl, List.forall_mem_singleton.2 rfl⟩, rfl, rfl, rfl, trivial⟩
  obtain ⟨-, -, stored, -⟩ := changes_serial reachable quiet
  refine ⟨s, reachable, quiet, both, first, ?_⟩
  rw [stored _ _ admits, changes]
  rfl

end Office
end Enrolment.Client
