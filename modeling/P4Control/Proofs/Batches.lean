import Mathlib.Data.Finmap
import P4Control.Proofs.Stores

namespace P4Control

/-!
# A batch of updates on a finite map

The entity table of a switch is a list, but it stands for a finite map from places to data.  A batch of
updates that the master writes does to the table what it does to the map, and the report that the client
makes out of the answer says of every update whether the map has taken it.

* `EntryPlace`, `EntityMap` — what an entity is an entry for, and tables as finite maps.
* `EntityMap.step`, `EntityMap.run` — one update of a map, and many.
* `attempt_spec`, `applyAll_spec` — a table follows its map.
* `write_reports` — a write reports for every update what has become of it.
-/

/-- What an entity is an entry for: its kind, the object it belongs to and its key. -/
abbrev EntryPlace := EntityKind × UInt32 × Bytes

/-- The place of an entity. -/
def Entity.place (e : Entity) : EntryPlace := (e.kind, e.id, e.key)

/-- The forwarding state as a finite map: the data that is filed under each place. -/
abbrev EntityMap := Finmap fun _ : EntryPlace => Bytes

namespace EntityMap

/-- Why an update cannot be done, if it cannot.  Only an absent place can be inserted, and only a present
one modified or deleted. -/
def objection? (m : EntityMap) (u : Update) : Option Status :=
  match u.type, m.lookup u.entity.place with
  | .insert, some _ => some ⟨.alreadyExists, "entry exists"⟩
  | .modify, none | .delete, none => some ⟨.notFound, "entry not found"⟩
  | _, _ => none

/-- The map after an update that can be done. -/
def change (m : EntityMap) (u : Update) : EntityMap :=
  match u.type with
  | .insert | .modify => m.insert u.entity.place u.entity.data
  | .delete => m.erase u.entity.place

/-- Why an update is not applied, if it is not: it is marked to fail, or it cannot be done. -/
def rejection? (m : EntityMap) (mark : Option Status) (u : Update) : Option Status :=
  mark.or (m.objection? u)

/-- An update with its position: it is applied, or nothing happens. -/
def step (marks : Directory Nat Status) (m : EntityMap) (u : Update × Nat) : EntityMap :=
  match m.rejection? (marks.find? u.2) u.1 with
  | some _ => m
  | none => m.change u.1

/-- The map after updates with their positions, one after the other. -/
def run (marks : Directory Nat Status) (m : EntityMap) (us : List (Update × Nat)) : EntityMap :=
  us.foldl (step marks) m

/-- Why the update at position `i` of a batch is not applied, if it is not, when all updates before it
have been run. -/
def verdict (marks : Directory Nat Status) (m : EntityMap) (us : List Update) (i : Nat) (u : Update) :
    Option Status :=
  (m.run marks (us.zipIdx.take i)).rejection? (marks.find? i) u

end EntityMap

namespace EntityTable

variable {t : EntityTable} {e : Entity}

/-- The finite map that a table stands for. -/
def toMap (t : EntityTable) : EntityMap :=
  (t.map fun e => (⟨e.place, e.data⟩ : Σ _ : EntryPlace, Bytes)).toFinmap

/-- The places of a table are pairwise distinct. -/
def Keyed (t : EntityTable) : Prop := (t.map Entity.place).Nodup

instance : Decidable t.Keyed := inferInstanceAs (Decidable (List.Nodup _))

/-! ### Tables and their maps -/

/-- Two entities are of the same entry when they have the same place. -/
theorem sameEntry_iff {a b : Entity} : sameEntry a b = true ↔ a.place = b.place := by
  simp [sameEntry, Entity.place, and_assoc]

theorem toMap_cons (e : Entity) (t : EntityTable) :
    toMap (e :: t) = (toMap t).insert e.place e.data :=
  Finmap.toFinmap_cons _ _ _

/-- The first entity of a table is the one that counts at its place. -/
theorem lookup_toMap_cons (e : Entity) (t : EntityTable) (p : EntryPlace) :
    (toMap (e :: t)).lookup p = if e.place = p then some e.data else (toMap t).lookup p := by
  rw [toMap_cons]
  split
  · next h => rw [← h, Finmap.lookup_insert]
  · next h => rw [Finmap.lookup_insert_of_ne _ (Ne.symm h)]

/-- A place is present in a table if and only if it is present in the map. -/
theorem any_sameEntry (t : EntityTable) (e : Entity) :
    (t.any fun e' => sameEntry e' e) = ((toMap t).lookup e.place).isSome := by
  induction t with
  | nil => rfl
  | cons head rest ih =>
    rw [List.any_cons, ih, lookup_toMap_cons]
    by_cases h : head.place = e.place
    · rw [sameEntry_iff.mpr h, if_pos h]
      rfl
    · rw [Bool.eq_false_iff.mpr (mt sameEntry_iff.mp h), if_neg h]
      rfl

/-- A place without data is not in the table. -/
theorem not_mem_of_lookup {p : EntryPlace} (h : (toMap t).lookup p = none) : p ∉ t.map Entity.place := by
  induction t with
  | nil => exact List.not_mem_nil
  | cons head rest ih =>
    rw [lookup_toMap_cons] at h
    split at h
    · cases h
    · next hne => exact List.not_mem_cons_of_ne_of_not_mem (Ne.symm hne) (ih h)

/-- An entry at the end is filed in the map, where its place was free. -/
theorem toMap_append (h : (toMap t).lookup e.place = none) :
    toMap (t ++ [e]) = (toMap t).insert e.place e.data := by
  induction t with
  | nil => exact toMap_cons e []
  | cons head rest ih =>
    rw [lookup_toMap_cons] at h
    split at h
    · cases h
    · next hne =>
      rw [List.cons_append, toMap_cons, toMap_cons, ih h, Finmap.insert_insert_of_ne _ (Ne.symm hne)]

/-- The data of an entity does not change its place. -/
theorem places_replace (e : Entity) (t : EntityTable) :
    (replace e t).map Entity.place = t.map Entity.place := by
  induction t with
  | nil => rfl
  | cons head rest ih =>
    unfold replace
    split
    · next h => rw [List.map_cons, List.map_cons, sameEntry_iff.mp h]
    · rw [List.map_cons, List.map_cons, ih]

/-- Where its place is present, a replaced entry is filed in the map. -/
theorem toMap_replace (h : ((toMap t).lookup e.place).isSome) :
    toMap (replace e t) = (toMap t).insert e.place e.data := by
  induction t with
  | nil => cases h
  | cons head rest ih =>
    unfold replace
    by_cases hs : head.place = e.place
    · rw [if_pos (sameEntry_iff.mpr hs), toMap_cons, toMap_cons, hs, Finmap.insert_insert]
    · rw [lookup_toMap_cons, if_neg hs] at h
      rw [if_neg (mt sameEntry_iff.mp hs), toMap_cons, toMap_cons, ih h,
        Finmap.insert_insert_of_ne _ (Ne.symm hs)]

/-- Where places are distinct, removing an entry keeps all others. -/
theorem remove_eq_filter (h : t.Keyed) (e : Entity) :
    remove e t = t.filter fun e' => e'.place ≠ e.place := by
  induction t with
  | nil => rfl
  | cons head rest ih =>
    obtain ⟨hhead, hrest⟩ := List.nodup_cons.mp (show (head.place :: rest.map Entity.place).Nodup from h)
    unfold remove
    by_cases hs : head.place = e.place
    · -- the head goes, and nothing behind it has the same place
      rw [if_pos (sameEntry_iff.mpr hs), List.filter_cons_of_neg (by simpa using hs)]
      refine (List.filter_eq_self.mpr fun e' he' => ?_).symm
      have hne : e'.place ≠ e.place := fun heq =>
        hhead (hs ▸ heq ▸ List.mem_map_of_mem he')
      simpa using hne
    · rw [if_neg (mt sameEntry_iff.mp hs), List.filter_cons_of_pos (by simpa using hs), ih hrest]

/-- Removal leaves nothing at the place of the entity, and every other place as it was. -/
theorem lookup_toMap_remove (h : t.Keyed) (e : Entity) (p : EntryPlace) :
    (toMap (remove e t)).lookup p = if p = e.place then none else (toMap t).lookup p := by
  rw [remove_eq_filter h]
  clear h
  induction t with
  | nil => exact (ite_self none).symm
  | cons head rest ih =>
    rw [lookup_toMap_cons]
    by_cases hs : head.place = e.place
    · rw [List.filter_cons_of_neg (by simpa using hs), ih, hs]
      split
      · rfl
      · next hp => rw [if_neg (Ne.symm hp)]
    · rw [List.filter_cons_of_pos (by simpa using hs), lookup_toMap_cons, ih]
      split
      · next hp => rw [if_neg (hp ▸ hs)]
      · rfl

/-- Where places are distinct, a removed entry is forgotten by the map. -/
theorem toMap_remove (h : t.Keyed) (e : Entity) : toMap (remove e t) = (toMap t).erase e.place := by
  refine Finmap.ext_lookup fun p => ?_
  rw [lookup_toMap_remove h]
  split
  · next hp => rw [hp, Finmap.lookup_erase]
  · next hp => rw [Finmap.lookup_erase_ne hp]

/-- A query that the place does not meet does not see the replacement. -/
theorem filter_replace {q : EntryPlace → Bool} (hq : q e.place = false) (t : EntityTable) :
    (replace e t).filter (fun e' => q e'.place) = t.filter fun e' => q e'.place := by
  induction t with
  | nil => rfl
  | cons head rest ih =>
    unfold replace
    split
    · next hs =>
      have hhead : q head.place = false := sameEntry_iff.mp hs ▸ hq
      rw [List.filter_cons_of_neg (by simp [hq]), List.filter_cons_of_neg (by simp [hhead])]
    · rw [List.filter_cons, List.filter_cons, ih]

/-- A query that the place does not meet does not see the removal. -/
theorem filter_remove {q : EntryPlace → Bool} (h : t.Keyed) (hq : q e.place = false) :
    (remove e t).filter (fun e' => q e'.place) = t.filter fun e' => q e'.place := by
  rw [remove_eq_filter h, List.filter_filter]
  refine List.filter_congr fun e' _ => ?_
  by_cases he : e'.place = e.place
  · simp [he, hq]
  · simp [he]

/-- A new place may be added to a table. -/
theorem keyed_append (h : t.Keyed) (hnew : (toMap t).lookup e.place = none) : Keyed (t ++ [e]) := by
  unfold Keyed
  rw [List.map_append]
  refine List.nodup_append.mpr ⟨h, List.nodup_singleton _, fun p hp p' hp' heq => ?_⟩
  exact not_mem_of_lookup hnew (List.mem_singleton.mp hp' ▸ heq ▸ hp)

/-- A replacement keeps the places distinct. -/
theorem keyed_replace (h : t.Keyed) (e : Entity) : (replace e t).Keyed := by
  unfold Keyed
  rwa [places_replace]

/-- A removal keeps the places distinct. -/
theorem keyed_remove (h : t.Keyed) (e : Entity) : (remove e t).Keyed := by
  rw [remove_eq_filter h]
  exact List.Nodup.sublist (List.filter_sublist.map _) h

/-! ### One update -/

/-- An update is refused as the map refuses it, or it is applied to the map and to no other place of the
table. -/
theorem apply_cases (h : t.Keyed) (u : Update) :
    (∃ status, (toMap t).objection? u = some status ∧ status.isOk = false ∧
      t.apply u = (t, status)) ∨
    ((toMap t).objection? u = none ∧ (t.apply u).2 = .success ∧
      toMap (t.apply u).1 = (toMap t).change u ∧ (t.apply u).1.Keyed ∧
      ∀ q : EntryPlace → Bool, q u.entity.place = false →
        (t.apply u).1.filter (fun e => q e.place) = t.filter fun e => q e.place) := by
  unfold apply
  rw [any_sameEntry]
  unfold EntityMap.objection? EntityMap.change
  obtain ⟨type, e⟩ := u
  dsimp only
  -- whether there is an objection depends on whether the place is taken
  cases hl : (toMap t).lookup e.place with
  | none =>
    cases type with
    | insert =>
      refine .inr ⟨rfl, rfl, toMap_append hl, keyed_append h hl, fun q hq => ?_⟩
      show (t ++ [e]).filter _ = _
      rw [List.filter_append, List.filter_cons_of_neg (by simp [hq]), List.filter_nil, List.append_nil]
    | modify => exact .inl ⟨_, rfl, rfl, rfl⟩
    | delete => exact .inl ⟨_, rfl, rfl, rfl⟩
  | some data =>
    cases type with
    | insert => exact .inl ⟨_, rfl, rfl, rfl⟩
    | modify =>
      exact .inr ⟨rfl, rfl, toMap_replace (by simp [hl]), keyed_replace h e,
        fun q hq => filter_replace hq t⟩
    | delete =>
      exact .inr ⟨rfl, rfl, toMap_remove h e, keyed_remove h e, fun q hq => filter_remove h hq⟩

end EntityTable

namespace Agent

open EntityTable

variable {marks : Directory Nat Status} {t : EntityTable}

/-- What an agent does with the update at position `i`. -/
def attempt (marks : Directory Nat Status) (i : Nat) (u : Update) (t : EntityTable) :
    EntityTable × Status :=
  match marks.find? i with
  | some injected => (t, injected)
  | none => t.apply u

/-- A batch attempts its first update, and goes on with the others on what that leaves. -/
theorem applyAll_cons (marks : Directory Nat Status) (i : Nat) (u : Update) (us : List Update)
    (t : EntityTable) :
    applyAll marks i (u :: us) t =
      ((applyAll marks (i + 1) us (attempt marks i u t).1).1,
       (attempt marks i u t).2 :: (applyAll marks (i + 1) us (attempt marks i u t).1).2) :=
  rfl

/-- The agent makes of a table what the update makes of its map, and the status says whether it has been
applied. -/
theorem attempt_spec (h : t.Keyed) {i : Nat}
    (hmark : ∀ status, marks.find? i = some status → status.isOk = false) (u : Update) :
    WriteReport.result u (attempt marks i u t).2 =
        ⟨u, t.toMap.rejection? (marks.find? i) u⟩ ∧
      (attempt marks i u t).1.toMap = t.toMap.step marks (u, i) ∧ (attempt marks i u t).1.Keyed ∧
      ∀ q : EntryPlace → Bool,
        (t.toMap.rejection? (marks.find? i) u = none → q u.entity.place = false) →
        (attempt marks i u t).1.filter (fun e => q e.place) = t.filter fun e => q e.place := by
  unfold attempt EntityMap.step EntityMap.rejection? WriteReport.result
  dsimp only
  cases hm : marks.find? i with
  | some injected =>
    dsimp only [Option.some_or]
    rw [hmark injected hm]
    exact ⟨rfl, rfl, h, fun _ _ => rfl⟩
  | none =>
    dsimp only [Option.none_or]
    obtain ⟨status, ho, hbad, ha⟩ | ⟨ho, hok, hmap, hkeyed, hfilter⟩ := apply_cases h u
    · rw [ho, ha, hbad]
      exact ⟨rfl, rfl, h, fun _ _ => rfl⟩
    · rw [ho, hok]
      exact ⟨rfl, hmap, hkeyed, fun q hq => hfilter q (hq rfl)⟩

/-! ### Many updates -/

/-- Every update of a batch has an outcome. -/
theorem length_applyAll (marks : Directory Nat Status) (k : Nat) (us : List Update)
    (t : EntityTable) : (applyAll marks k us t).2.length = us.length := by
  induction us generalizing k t with
  | nil => rfl
  | cons u us ih => rw [applyAll_cons, List.length_cons, List.length_cons, ih]

/-- The agent makes of a table what the updates make of its map. -/
theorem applyAll_spec (h : t.Keyed) {k : Nat} {us : List Update}
    (hmarks : ∀ i < us.length, ∀ status, marks.find? (k + i) = some status → status.isOk = false) :
    (applyAll marks k us t).1.toMap = t.toMap.run marks (us.zipIdx k) ∧
      (applyAll marks k us t).1.Keyed ∧
      ∀ (i : Nat) (u : Update), us[i]? = some u →
        (List.zipWith WriteReport.result us (applyAll marks k us t).2)[i]? =
          some ⟨u, (t.toMap.run marks ((us.zipIdx k).take i)).rejection? (marks.find? (k + i)) u⟩ := by
  induction us generalizing k t with
  | nil => exact ⟨rfl, h, fun _ _ hu => by cases hu⟩
  | cons u us ih =>
    obtain ⟨hresult, hmap, hkeyed, -⟩ := attempt_spec (i := k) h (hmarks 0 (Nat.zero_lt_succ _)) u
    obtain ⟨hrun, hkeyed', hresults⟩ := ih hkeyed (k := k + 1) fun i hi status =>
      Nat.add_right_comm k 1 i ▸ hmarks (i + 1) (Nat.succ_lt_succ hi) status
    rw [applyAll_cons]
    -- what remains runs at the next position, on a table that stands for the changed map
    rw [hmap] at hrun hresults
    refine ⟨hrun, hkeyed', fun i u' hu => ?_⟩
    cases i with
    | zero =>
      cases hu
      exact congrArg some hresult
    | succ i =>
      have hi := hresults i u' hu
      rw [Nat.add_right_comm k 1 i] at hi
      exact hi

/-- Entries at places that no applied update names stay, in the order in which they are. -/
theorem filter_applyAll (h : t.Keyed) {k : Nat} {us : List Update}
    (hmarks : ∀ i < us.length, ∀ status, marks.find? (k + i) = some status → status.isOk = false)
    {q : EntryPlace → Bool}
    (hq : ∀ r ∈ List.zipWith WriteReport.result us (applyAll marks k us t).2,
      r.isSuccess = true → q r.update.entity.place = false) :
    (applyAll marks k us t).1.filter (fun e => q e.place) = t.filter fun e => q e.place := by
  induction us generalizing k t with
  | nil => rfl
  | cons u us ih =>
    obtain ⟨hresult, -, hkeyed, hfilter⟩ := attempt_spec (i := k) h (hmarks 0 (Nat.zero_lt_succ _)) u
    rw [applyAll_cons] at hq ⊢
    rw [List.zipWith_cons_cons, hresult] at hq
    have hrest := ih hkeyed (k := k + 1)
      (fun i hi status => Nat.add_right_comm k 1 i ▸ hmarks (i + 1) (Nat.succ_lt_succ hi) status)
      fun r hr => hq r (List.mem_cons_of_mem _ hr)
    -- the first update leaves the others' places alone, unless it is applied
    refine hrest.trans (hfilter q fun hnone => hq _ List.mem_cons_self ?_)
    exact congrArg Option.isNone hnone

/-- The agent takes a batch of its master, if no fault waits for it. -/
theorem write_taken {a : Agent} (batch : UpdateBatch) (hfault : a.nextFault .write = none)
    (hmaster : a.isMaster batch.election = true) :
    (a.write batch).2 = .reply (sentStatuses a.statusLimit
        (applyAll a.updateFailures 0 batch.updates a.entities).2) ∧
      (a.write batch).1.entities = (applyAll a.updateFailures 0 batch.updates a.entities).1 := by
  obtain ⟨-, he⟩ | ⟨⟨fault, hf⟩, -⟩ := answer_cases (rfl : _ = a.write batch)
  · rw [he, a.isMaster_enter, if_pos hmaster, enter_eq]
    exact ⟨rfl, rfl⟩
  · rw [hfault] at hf
    cases hf

end Agent

namespace WriteReport

/-- The client makes the same report of the statuses that are sent as of all statuses. -/
theorem ofStatuses?_sent {us : List Update} (hne : us ≠ []) {statuses : List Status}
    (hlength : statuses.length = us.length) :
    ofStatuses? us (Agent.sentStatuses none statuses) =
      some ⟨List.zipWith result us statuses⟩ := by
  unfold ofStatuses? Agent.sentStatuses
  dsimp only
  by_cases hall : statuses.all (·.isOk) = true
  · -- nothing is sent, and the client fills in a success for each update
    rw [if_pos hall, if_pos rfl]
    refine congrArg (fun results => some (⟨results⟩ : WriteReport)) ?_
    refine List.ext_getElem (by simp [hlength]) fun i hi hi' => ?_
    rw [List.length_map] at hi
    have hstatus : i < statuses.length := hlength ▸ hi
    have hok := List.all_eq_true.mp hall statuses[i] (List.getElem_mem hstatus)
    simp [result, hok]
  · have hsent : statuses ≠ [] := fun h => hne (List.length_eq_zero_iff.mp (hlength ▸ h ▸ rfl))
    rw [if_neg hall, if_neg hsent, if_pos hlength]

/-- A report is a success if and only if no update has been rejected. -/
theorem isSuccess_iff {r : WriteReport} {us : List Update} {verdict : Nat → Update → Option Status}
    (hlength : r.results.length = us.length)
    (hresults : ∀ (i : Nat) (u : Update), us[i]? = some u → r.results[i]? = some ⟨u, verdict i u⟩) :
    r.isSuccess = true ↔ ∀ (i : Nat) (u : Update), us[i]? = some u → verdict i u = none := by
  unfold isSuccess
  rw [List.all_eq_true]
  constructor
  · intro h i u hu
    exact Option.isNone_iff_eq_none.mp (h _ (List.mem_of_getElem? (hresults i u hu)))
  · intro h result hr
    obtain ⟨i, hi, rfl⟩ := List.getElem_of_mem hr
    have hu : us[i]? = some us[i] := List.getElem?_eq_getElem (hlength ▸ hi)
    have hri := hresults i _ hu
    rw [List.getElem?_eq_getElem hi, h i _ hu] at hri
    rw [Option.some.inj hri]
    rfl

variable {r : WriteReport} {result : UpdateResult}

/-- What is reported as a success has not been rejected. -/
theorem rejection_of_mem_successes (h : result ∈ r.successes) : result.rejection = none :=
  Option.isNone_iff_eq_none.mp (List.mem_filter.mp h).2

/-- What is reported as a failure has been rejected. -/
theorem rejection_of_mem_failures (h : result ∈ r.failures) : result.rejection ≠ none := by
  intro hnone
  have hfailed := (List.mem_filter.mp h).2
  rw [UpdateResult.isSuccess, hnone] at hfailed
  cases hfailed

end WriteReport

namespace System

/-- A write by the master runs at the agent and ends with a report. -/
theorem write_runs (s : System) (id : ClientId) {request : WriteRequest} {token : Token}
    (hopen : (s.client id).scope.openToken? = some token) (herror : request.error = none)
    (hne : request.updates ≠ []) {w : Switch} (hw : s.switch (s.client id).switch = w)
    (hscript : w.scriptedWrites = []) (hfault : w.agent.nextFault .write = none)
    (hmaster : w.agent.isMaster ((s.client id).arbiter.lastUsed.map (·.toWire)) = true)
    (hlimit : w.agent.statusLimit = none) :
    let applied := Agent.applyAll w.agent.updateFailures 0 request.updates w.agent.entities
    (s.write id request).1.finished = s.finished ++ [⟨(s.newCall id).2, .returned (.report
        ⟨List.zipWith WriteReport.result request.updates applied.2⟩), none⟩] ∧
      ((s.write id request).1.switch (s.client id).switch).agent.entities = applied.1 := by
  have hsends : (s.client id).batch? request ≠ none := by
    simp [Client.batch?, hopen, herror, hne]
  obtain ⟨-, hnone, -⟩ | ⟨token, batch, hsome, he⟩ := s.write_cases id request
  -- there is something to send in an open session
  · exact absurd hnone hsends
  obtain ⟨-, -, hbatch⟩ := Client.batch?_eq_some hsome
  have helection : batch.election = (s.client id).arbiter.lastUsed.map (·.toWire) := by
    rw [hbatch]
  have hupdates : batch.updates = request.updates := by
    rw [hbatch]
  obtain ⟨hreply, hentities⟩ := Agent.write_taken batch hfault (helection ▸ hmaster)
  rw [hlimit, hupdates] at hreply
  rw [hupdates] at hentities
  rw [he, hw, Switch.write_unscripted hscript, hreply, await_reply, WriteRequest.conclude,
    WriteReport.ofStatuses?_sent hne (Agent.length_applyAll _ _ _ _)]
  refine ⟨finished_complete _ _ _, ?_⟩
  rw [switch_complete, switch_updateSwitch, if_pos rfl]
  exact hentities

/-- A write by the master is reported update by update, as the finite map takes the updates.  The table
stays the list of what is in the map, and what no applied update names stays in its place. -/
theorem write_reports (s : System) (id : ClientId) (request : WriteRequest) (token : Token)
    (hopen : (s.client id).scope.openToken? = some token) (herror : request.error = none)
    (hne : request.updates ≠ [])
    (hscript : (s.switch (s.client id).switch).scriptedWrites = [])
    (hfault : (s.switch (s.client id).switch).agent.nextFault .write = none)
    (hmaster : (s.switch (s.client id).switch).agent.isMaster
      ((s.client id).arbiter.lastUsed.map (·.toWire)) = true)
    (hlimit : (s.switch (s.client id).switch).agent.statusLimit = none)
    (hmarks : ∀ i < request.updates.length,
      ∀ status ∈ (s.switch (s.client id).switch).agent.updateFailures.find? i, status.isOk = false)
    (hkeys : (s.switch (s.client id).switch).agent.entities.Keyed) :
    let marks := (s.switch (s.client id).switch).agent.updateFailures
    let before := (s.switch (s.client id).switch).agent.entities
    let after := ((s.write id request).1.switch (s.client id).switch).agent.entities
    ∃ r : WriteReport,
      (s.write id request).1.finished =
        s.finished ++ [⟨(s.newCall id).2, .returned (.report r), none⟩] ∧
      -- one result per update, in order, with what the map says to it
      r.results.length = request.updates.length ∧
      (∀ (i : Nat) (u : Update), request.updates[i]? = some u →
        r.results[i]? = some ⟨u, before.toMap.verdict marks request.updates i u⟩) ∧
      -- the table is the map that the updates have been run on
      after.toMap = before.toMap.run marks request.updates.zipIdx ∧ after.Keyed ∧
      (let touched := r.successes.map (·.update.entity.place)
       after.filter (·.place ∉ touched) = before.filter (·.place ∉ touched)) ∧
      -- the views of the report
      (r.isSuccess = true ↔ ∀ (i : Nat) (u : Update), request.updates[i]? = some u →
        before.toMap.verdict marks request.updates i u = none) ∧
      (∀ result ∈ r.successes, result.rejection = none) ∧
      (∀ result ∈ r.failures, result.rejection ≠ none) ∧
      r.successes.Sublist r.results ∧ r.failures.Sublist r.results ∧
      (r.successes ++ r.failures).Perm r.results := by
  intro marks before after
  obtain ⟨hfinished, hafter⟩ := s.write_runs id hopen herror hne rfl hscript hfault hmaster hlimit
  have hmarks' : ∀ i < request.updates.length, ∀ status, marks.find? (0 + i) = some status →
      status.isOk = false := fun i hi status hs => hmarks i hi status (Nat.zero_add i ▸ hs)
  obtain ⟨hmap, hkeyed, hresults⟩ := Agent.applyAll_spec hkeys hmarks'
  have hstatuses := Agent.length_applyAll marks 0 request.updates before
  simp only [Nat.zero_add] at hresults
  have hlength : (List.zipWith WriteReport.result request.updates
      (Agent.applyAll marks 0 request.updates before).2).length = request.updates.length := by
    rw [List.length_zipWith, hstatuses, Nat.min_self]
  rw [show after = _ from hafter]
  refine ⟨_, hfinished, hlength, hresults, hmap, hkeyed, ?_, WriteReport.isSuccess_iff hlength hresults,
    fun _ => WriteReport.rejection_of_mem_successes, fun _ => WriteReport.rejection_of_mem_failures,
    List.filter_sublist, List.filter_sublist, List.filter_append_perm ..⟩
  intro touched
  refine Agent.filter_applyAll hkeys hmarks' (q := fun p => decide (p ∉ touched)) fun result hr hok => ?_
  have htouched : result.update.entity.place ∈ touched :=
    List.mem_map_of_mem (List.mem_filter.mpr ⟨hr, hok⟩)
  simpa using htouched

/-- A client has opened its session and is master of a switch with one entry.  The second update of the next
batch is marked to fail. -/
def provisioned : System :=
  ((Scenario.initial ["leaf"] [] [] {} 16).after
    [.act (.new ⟨⟨"leaf"⟩, 1⟩ "leaf" none), .start "t0" (.openSession "leaf"), .poll, .poll, .poll,
     .act (.run "leaf" ⟨0, 5⟩), .poll, .poll, .poll, .poll,
     .act (.steer "leaf" (.addEntities [⟨.tableEntry, 1, [1], [10]⟩])),
     .act (.steer "leaf" (.failUpdate 1 ⟨.resourceExhausted, "full"⟩))]).system

/-- A batch that names one place twice and the other three times. -/
def rewiring : WriteRequest where
  pipeconf := { id := ⟨"basic"⟩, fingerprint := 1, description := [1] }
  updates :=
    [⟨.insert, ⟨.tableEntry, 1, [2], [20]⟩⟩, ⟨.delete, ⟨.tableEntry, 1, [1], []⟩⟩,
     ⟨.insert, ⟨.tableEntry, 1, [2], [21]⟩⟩, ⟨.delete, ⟨.tableEntry, 1, [1], []⟩⟩,
     ⟨.modify, ⟨.tableEntry, 1, [1], [11]⟩⟩]

/-- The marked update and those that cannot be done any more are reported, and the others are run. -/
theorem write_reports_rewiring :
    let id : ClientId := ⟨⟨"leaf"⟩, 0⟩
    let before := (provisioned.switch "leaf").agent.entities
    ∃ r : WriteReport,
      (provisioned.write id rewiring).1.finished =
        provisioned.finished ++ [⟨⟨id, 1⟩, .returned (.report r), none⟩] ∧
      r.results.length = 5 ∧
      ((provisioned.write id rewiring).1.switch "leaf").agent.entities.toMap =
        before.toMap.run (provisioned.switch "leaf").agent.updateFailures rewiring.updates.zipIdx := by
  intro id before
  obtain ⟨r, hfinished, hlength, -, hmap, -⟩ := write_reports provisioned ⟨⟨"leaf"⟩, 0⟩ rewiring 0
    (by decide +kernel) rfl (by decide) (by decide +kernel) (by decide +kernel) (by decide +kernel)
    (by decide +kernel) (by decide +kernel) (by decide +kernel)
  have hswitch : (provisioned.client id).switch = "leaf" := by decide +kernel
  have hcall : (provisioned.newCall id).2 = ⟨id, 1⟩ := by decide +kernel
  exact ⟨r, hcall ▸ hfinished, hlength, hswitch ▸ hmap⟩

end System

end P4Control
