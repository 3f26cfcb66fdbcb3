import P4Control.Proofs.Lifecycle
import P4Control.Proofs.Outcomes

namespace P4Control

/-!
# The line of those that open a session

Between two moves in which a call that opens the session of a client runs, the line of these calls, what
they wait for, and a client without a scope stay as they are.

* `Client.origin`, `Happens.origin`, `origin_make` — a client keeps what it was made with.
* `Scenario.opener?` — the call that opens the session of a client and runs in a move.
* `Scenario.dropsOpener` — a move drops such a call.
* `System.KeepsLine`, `line_make` — the line stays.
* `begun_make`, `vacant_make` — no scope begins.
* `stays_or_ends_make` — the scope in place stays, or it ends.
-/

/-- What a client is made with, its key apart. -/
def Client.origin (c : Client) : ClientConfig × SwitchName := (c.config, c.switch)

namespace System

variable {s t : System} {id : ClientId}

/-! ### What a client is made with -/

/-- A client keeps what it was made with. -/
theorem Happens.origin {i : Incident} (hi : Happens s i t) (hv : s.Valid) (hk : s.Knows id) :
    (t.client id).origin = (s.client id).origin := by
  -- Whatever changes a client puts it back with another scope or arbiter.
  have begun : ∀ id' begun, ((s.beginScope id' begun).client id).origin = (s.client id).origin := by
    intro id' begun
    rw [client_beginScope]
    split
    · next he => rw [← he]; rfl
    · rfl
  have lived : ∀ {v : System} {id' begun}, SameClients (s.beginScope id' begun) v →
      ∀ token afterFailure activated st,
        ((v.goLive id' token afterFailure activated st).client id).origin = (s.client id).origin := by
    intro v id' begun' hs token afterFailure activated st
    rw [client_goLive]
    split
    · next he =>
      rw [hs.client, he]
      exact begun id begun'
    · rw [hs.client, begun]
  have ended : ∀ id' ended, ((s.endScope id' ended).client id).origin = (s.client id).origin := by
    intro id' ended
    rw [client_endScope]
    split
    · next he => rw [← he]; rfl
    · rfl
  have closed : ∀ id', ((s.closeSession id').client id).origin = (s.client id).origin := by
    intro id'
    rw [closeSession_eq]
    split
    · exact ended id' _
    · exact ended id' _
  have past : i.passesBy = true → (t.client id).origin = (s.client id).origin :=
    fun hp => congrArg Client.origin ((hi.passesBy hp).clients.client id)
  cases hi with
  | created key switch config =>
    rw [client_newClient]
    split
    · next he => exact absurd (he ▸ hk) (hv.not_knows_newClient key switch config)
    · rfl
  | filed _ _ _ _ => rfl
  | told _ _ => rfl
  | began id' token afterFailure scope _ _ => exact begun id' scope
  | opened id' token afterFailure scope activated capacity v st _ hb hc ha =>
    exact lived (PassesBy.of_connect hc).clients token afterFailure activated st
  | played id' token afterFailure scope activated capacity script rest v st _ hb hn hc ha =>
    exact lived (PassesBy.of_playScript hc).clients token afterFailure activated st
  | closed id' _ => exact closed id'
  | released id' _ _ => exact closed id'
  | failed id' token _ ht =>
    rw [failSession_eq ht]
    exact ended id' _
  | unavailable id' token reason _ ht =>
    show ((s.failSession id' token).client id).origin = _
    rw [failSession_eq ht]
    exact ended id' _
  | claimed id' election st uplink _ hs hu =>
    show (System.client (wake _ _) id).origin = _
    rw [client_wake, client_updateStream, client_updateClient]
    split
    · next he => rw [← he]; rfl
    · rfl
  | heard id' token st frame downlink hl hc hd =>
    obtain ⟨arbiter, he⟩ := arbiter_listenFrame (s.updateStream st fun v => { v with downlink }) id' id frame
    rw [he]
    rfl
  | sent | left | served | drained | idled | detached | pushed | steered => exact past rfl
  | foreign _ hc hh hr hf hj hl =>
    unfold System.client
    rw [hc]

/-- No incident changes what a client has been made with. -/
theorem Leads.origin {is : List Incident} (l : Leads s is t) (hv : s.Valid) (hk : s.Knows id) :
    (t.client id).origin = (s.client id).origin := by
  induction l with
  | refl s => rfl
  | quiet q _ ih =>
    rw [ih (q.valid hv) ((q.knows id).mpr hk)]
    exact congrArg (fun c : Profile => (c.config, c.switch)) (q.profile id)
  | cons hi _ ih => rw [ih (hi.valid hv) (hi.knows hv hk), hi.origin hv hk]

end System

/-! ### Clients without a scope -/

/-- Whether a scope of the client begins by an incident. -/
def Incident.begins (id : ClientId) : Incident → Bool
  | .began id' _ _ | .opened id' _ _ _ => decide (id' = id)
  | _ => false

/-- Only an incident that begins a scope changes how many have begun. -/
theorem Incident.begun_affect_of_not_begins {i : Incident} {id : ClientId} (h : i.begins id = false)
    (c : Standing) : (i.affect id c).scope.begun = c.scope.begun := by
  cases i with
  | began id' token afterFailure =>
    rw [affect, if_neg (by simpa [begins] using h)]
  | opened id' token afterFailure st =>
    rw [affect, if_neg (by simpa [begins] using h)]
  | heard id' st frame =>
    cases frame with
    | arbitration update =>
      simp only [affect]
      split <;> rfl
    | error e => rfl
    | packet wire => rfl
  | closed | released =>
    simp only [affect]
    split
    · exact Scope.begun_close _
    · rfl
  | created | lost | claimed =>
    simp only [affect]
    split <;> rfl
  | _ => rfl

/-- A call begins no scope of a client unless it is one of that client and opens the session. -/
theorem Incident.OfCall.not_begins {id id' : ClientId} {opening : Bool} {i : Incident}
    (h : i.OfCall id' opening) (hn : id' = id → opening = false) : i.begins id = false := by
  have other : opening = true → decide (id' = id) = false := by
    intro ho
    refine decide_eq_false fun he => ?_
    rw [hn he] at ho
    cases ho
  cases h with
  | began token afterFailure ho => exact other ho
  | opened token afterFailure st ho => exact other ho
  | lost | told => rfl

/-- Unless a scope begins, the one in place stays as it is or ends.  It is known to have failed if it has
not been closed. -/
theorem Incident.stays_or_ends {i : Incident} {id : ClientId} (hb : i.begins id = false) {c : Standing}
    (hc : c.scope.current.isSome = true) :
    (i.affect id c).scope = c.scope ∨
      (i.affect id c).scope.current = none ∧
        ∃ how, .ended how ∈ i.passages id c ∧ (how ≠ .closed → (i.affect id c).scope.failed = true) := by
  cases i with
  | closed id' wasOpen | released id' wasOpen =>
    by_cases he : id' = id
    · refine .inr ⟨?_, .closed, ?_, fun h => absurd rfl h⟩
      · rw [affect, if_pos he]
        exact Scope.current_close _
      · rw [passages, if_pos he, closing, if_pos hc]
        exact List.mem_singleton_self _
    · rw [affect, if_neg he]
      exact .inl rfl
  | lost id' token reason =>
    -- a scope that is lost has failed, and its failure is remembered
    by_cases he : id' = id
    · refine .inr ⟨?_, .failed reason, ?_, fun _ => ?_⟩
      · rw [affect, if_pos he]
        rfl
      · rw [passages, if_pos he]
        exact List.mem_singleton_self _
      · rw [affect, if_pos he]
        rfl
    · rw [affect, if_neg he]
      exact .inl rfl
  | began id' token afterFailure =>
    rw [affect, if_neg (by simpa [begins] using hb)]
    exact .inl rfl
  | opened id' token afterFailure st =>
    rw [affect, if_neg (by simpa [begins] using hb)]
    exact .inl rfl
  | _ => exact .inl (affect_of_subject?_ne (by simp [subject?]) c).2

/-- Unless a scope begins, a client stays without one, and the failure of the last one stays known. -/
theorem Incident.failed_of_vacant {i : Incident} {id : ClientId} (hb : i.begins id = false)
    {c : Standing} (hc : c.scope.current = none) :
    (i.affect id c).scope.current = none ∧
      (c.scope.failed = true → (i.affect id c).scope.failed = true) := by
  cases i with
  | closed id' wasOpen | released id' wasOpen =>
    by_cases he : id' = id
    · rw [affect, if_pos he]
      refine ⟨Scope.current_close _, fun hf => ?_⟩
      -- there is no scope to close, so the failure is not forgotten
      rw [Scope.close_of_none hc]
      exact hf
    · rw [affect, if_neg he]
      exact ⟨hc, fun hf => hf⟩
  | lost id' token reason =>
    by_cases he : id' = id
    · rw [affect, if_pos he]
      exact ⟨rfl, fun _ => rfl⟩
    · rw [affect, if_neg he]
      exact ⟨hc, fun hf => hf⟩
  | began id' token afterFailure =>
    rw [affect, if_neg (by simpa [begins] using hb)]
    exact ⟨hc, fun hf => hf⟩
  | opened id' token afterFailure st =>
    rw [affect, if_neg (by simpa [begins] using hb)]
    exact ⟨hc, fun hf => hf⟩
  | _ =>
    -- the other incidents do not touch the scope
    have keep : ∀ {after : Scope StreamId}, after = c.scope →
        after.current = none ∧ (c.scope.failed = true → after.failed = true) := by
      rintro _ rfl
      exact ⟨hc, fun hf => hf⟩
    exact keep (affect_of_subject?_ne (by simp [subject?]) c).2

/-- Without a new scope, a client that has none goes on having none, and remembers a failure. -/
theorem failed_foldl {is : List Incident} {id : ClientId} (hb : ∀ i ∈ is, i.begins id = false)
    {c : Standing} (hc : c.scope.current = none) :
    (is.foldl (Incident.affect id) c).scope.current = none ∧
      (c.scope.failed = true → (is.foldl (Incident.affect id) c).scope.failed = true) := by
  induction is generalizing c with
  | nil => exact ⟨hc, fun hf => hf⟩
  | cons i rest ih =>
    obtain ⟨hcur, hfailed⟩ := Incident.failed_of_vacant (hb i List.mem_cons_self) hc
    obtain ⟨hcur', hfailed'⟩ := ih (fun j hj => hb j (List.mem_cons_of_mem _ hj)) hcur
    exact ⟨hcur', fun hf => hfailed' (hfailed hf)⟩

/-- Unless a scope begins along some incidents, the one in place stays as it is or ends. -/
theorem stays_or_ends_foldl {is : List Incident} {id : ClientId}
    (hb : ∀ i ∈ is, i.begins id = false) {c : Standing} (hc : c.scope.current.isSome = true) :
    (is.foldl (Incident.affect id) c).scope = c.scope ∨
      (is.foldl (Incident.affect id) c).scope.current = none ∧
        ∃ how, .ended how ∈ trace id c is ∧
          (how ≠ .closed → (is.foldl (Incident.affect id) c).scope.failed = true) := by
  induction is generalizing c with
  | nil => exact .inl rfl
  | cons i rest ih =>
    have hrest : ∀ j ∈ rest, j.begins id = false := fun j hj => hb j (List.mem_cons_of_mem _ hj)
    rcases Incident.stays_or_ends (hb i List.mem_cons_self) hc with hs | ⟨hcur, how, hmem, hfailed⟩
    · rcases ih hrest (c := i.affect id c) (by rw [hs]; exact hc) with hs' | ⟨hcur, how, hmem, hf⟩
      · exact .inl (hs'.trans hs)
      · exact .inr ⟨hcur, how, List.mem_append_right _ hmem, hf⟩
    · obtain ⟨hcur', hf'⟩ := failed_foldl hrest hcur
      exact .inr ⟨hcur', how, List.mem_append_left _ hmem, fun hne => hf' (hfailed hne)⟩

namespace System

variable {s t : System} {id : ClientId}

/-- Unless a scope begins, a client without one stays without one. -/
theorem Happens.vacant {i : Incident} (hi : Happens s i t) (hv : s.Valid)
    (hc : (s.client id).scope.current = none) (hb : i.begins id = false) :
    (t.client id).scope = (s.client id).scope := by
  have hs : (t.client id).scope = (i.affect id (s.client id).standing).scope :=
    congrArg Standing.scope (hi.standing hv id)
  have close : (s.client id).scope.close.2 = (s.client id).scope := by
    rw [Scope.close_of_none hc, ← (hv.scopes id).slot_eq_none hc]
  rw [hs]
  -- Of what is left, only the end of a scope touches one, and there is none to end.
  cases i with
  | began id' token afterFailure =>
    have hne : id' ≠ id := by simpa [Incident.begins] using hb
    rw [Incident.affect, if_neg hne]
    rfl
  | opened id' token afterFailure st =>
    have hne : id' ≠ id := by simpa [Incident.begins] using hb
    rw [Incident.affect, if_neg hne]
    rfl
  | closed id' wasOpen =>
    simp only [Incident.affect]
    split
    · exact close
    · rfl
  | released id' wasOpen =>
    simp only [Incident.affect]
    split
    · exact close
    · rfl
  | lost id' token reason =>
    have hcur : (s.client id').scope.current = some token := by
      cases hi with
      | failed id' token hk ht => exact ht
      | unavailable id' token reason hk ht => exact ht
    have hne : id' ≠ id := by
      rintro rfl
      rw [hc] at hcur
      cases hcur
    rw [Incident.affect, if_neg hne]
    rfl
  | claimed id' election =>
    simp only [Incident.affect]
    split <;> rfl
  | created id' key =>
    simp only [Incident.affect]
    split <;> rfl
  | heard id' st frame =>
    cases frame with
    | arbitration update =>
      simp only [Incident.affect]
      split <;> rfl
    | error e => rfl
    | packet wire => rfl
  | _ => rfl

/-- Without a new scope, the scope record of a client that has none does not change. -/
theorem Leads.vacant {is : List Incident} (l : Leads s is t) (hv : s.Valid)
    (hc : (s.client id).scope.current = none) (hb : ∀ i ∈ is, i.begins id = false) :
    (t.client id).scope = (s.client id).scope := by
  induction l with
  | refl s => rfl
  | quiet q _ ih => rw [ih (q.valid hv) (by rw [q.scope, hc]) hb, q.scope]
  | cons hi _ ih =>
    have hs := hi.vacant hv hc (hb _ List.mem_cons_self)
    rw [ih (hi.valid hv) (by rw [hs, hc]) fun i hm => hb i (List.mem_cons_of_mem _ hm), hs]

/-- Unless a scope begins, there are as many as before. -/
theorem Leads.begun_eq {is : List Incident} (l : Leads s is t) (hv : s.Valid)
    (hb : ∀ i ∈ is, i.begins id = false) :
    (t.client id).scope.begun = (s.client id).scope.begun := by
  induction l with
  | refl s => rfl
  | quiet q _ ih => rw [ih (q.valid hv) hb, q.scope]
  | cons hi _ ih =>
    have hs := congrArg (fun c => c.scope.begun) (hi.standing hv id)
    rw [ih (hi.valid hv) fun i hm => hb i (List.mem_cons_of_mem _ hm)]
    exact hs.trans (Incident.begun_affect_of_not_begins (hb _ List.mem_cons_self) _)

/-! ### Places in line -/

/-- The line of a client stays, and whoever is in line waits for the same thing. -/
structure KeepsLine (id : ClientId) (s t : System) : Prop where
  turns : (t.client id).turns = (s.client id).turns
  waits : ∀ n ∈ (s.client id).turns, ∀ wait, s.WaitsFor ⟨id, n⟩ wait → t.WaitsFor ⟨id, n⟩ wait

theorem KeepsLine.refl (id : ClientId) (s : System) : KeepsLine id s s := ⟨rfl, fun _ _ _ h => h⟩

/-- Two changes that both keep the line keep it together. -/
theorem KeepsLine.trans {u : System} (h : KeepsLine id s t) (h' : KeepsLine id t u) :
    KeepsLine id s u :=
  ⟨h'.turns.trans h.turns, fun n hn wait hw => h'.waits n (h.turns ▸ hn) wait (h.waits n hn wait hw)⟩

/-- What changes neither the line nor the calls of a client keeps its line. -/
theorem keepsLine_of_calls (ht : (t.client id).turns = (s.client id).turns)
    (hc : (t.client id).calls = (s.client id).calls) : KeepsLine id s t := by
  refine ⟨ht, fun n _ wait hw => ?_⟩
  unfold WaitsFor at hw ⊢
  rwa [hc]

/-- A call that is not in line runs, and nobody in line notices. -/
theorem Stroke.keepsLine {K : CallId} {own : Option Token} {P : Wait → Prop}
    (h : s.Stroke K own P t) (hs : ∀ n ∈ (s.client id).turns, (⟨id, n⟩ : CallId) ≠ K)
    (ht : ∀ n ∈ (t.client id).turns, (⟨id, n⟩ : CallId) ≠ K) : KeepsLine id s t := by
  refine ⟨?_, fun n hn wait ⟨call, hm, hser, hw⟩ => ⟨call, ?_, hser, hw⟩⟩
  · have hl := h.line id
    unfold lineBut at hl
    rwa [List.filter_eq_self.mpr fun n hn => decide_eq_true (ht n hn),
      List.filter_eq_self.mpr fun n hn => decide_eq_true (hs n hn)] at hl
  · exact (h.others id call (by rw [hser]; exact hs n hn)).mpr hm

/-- A call that has been made just now is not in line. -/
theorem Stroke.keepsLine_of_newCall {stray : ClientId → Token → Prop} {id' : ClientId}
    {P : Wait → Prop} (ha : s.Attended none stray)
    (h : (s.newCall id').1.Stroke (s.newCall id').2 none P t)
    (ht : ∀ n ∈ (t.client id).turns, (⟨id, n⟩ : CallId) ≠ (s.newCall id').2) : KeepsLine id s t := by
  have parts := newCall_parts s id' id
  refine (keepsLine_of_calls parts.2.1 parts.1).trans (h.keepsLine (fun n hn he => ?_) ht)
  rw [parts.2.1] at hn
  cases he
  exact Nat.lt_irrefl _ (ha.lt_made hn)

/-- Whether a pending call opens the session can be told from what it waits for. -/
theorem Attended.opens_eq {stray : ClientId → Token → Prop} (ha : s.Attended none stray) {wait : Wait}
    (hw : s.WaitsFor K wait) : s.opens K = wait.opens := by
  obtain ⟨call, hm, hs, rfl⟩ := hw
  rw [opens, call?_eq_some (ha.serials K.client) hm hs]
  rfl

/-- Every call in line opens the session. -/
theorem Attended.opens_of_mem {stray : ClientId → Token → Prop} (h : s.Attended none stray) {n : Nat}
    (hn : n ∈ (s.client id).turns) : s.opens ⟨id, n⟩ = true := by
  obtain ⟨call, hm, hs, ho⟩ := h.opener hn
  unfold opens
  rw [call?_eq_some (K := ⟨id, n⟩) (h.serials id) hm hs]
  exact ho

end System

namespace Scenario

variable {x : Scenario} {m : Move} {id : ClientId} {stray : ClientId → Token → Prop}

/-! ### Moves in which no call that opens the session runs -/

/-- The number of the call that opens the session of a client and runs in a move. -/
def opener? (x : Scenario) (id : ClientId) : Move → Option Nat
  | .start _ (.openSession client) =>
    if x.system.handles.find? client = some id then some (x.system.client id).made else none
  | .poll =>
    match x.system.ready with
    | .resume K :: _ => if K.client = id ∧ x.system.opens K = true then some K.serial else none
    | _ => none
  | _ => none

/-- Whether a move drops a call that opens the session of a client. -/
def dropsOpener (x : Scenario) (id : ClientId) : Move → Bool
  | .act (.abort task) =>
    match x.tasks.find? fun t => decide (t.1 = task) with
    | some (_, .call K _) => decide (K.client = id) && x.system.opens K
    | _ => false
  | _ => false

/-- The call that is about to run is not an opening one of a client that has no opener in the move.
-/
theorem opens_of_resume {K : CallId} (hr : x.system.ready.head? = some (.resume K))
    (ho : x.opener? id .poll = none) (hK : K.client = id) : x.system.opens K = false := by
  obtain ⟨rest, hready⟩ := List.head?_eq_some_iff.mp hr
  unfold opener? at ho
  simpa [hready, hK] using ho

/-- A request to open a session is for another client than one that has no opener in the move. -/
theorem find?_of_opener? {name client : String}
    (ho : x.opener? id (.start name (.openSession client)) = none) :
    x.system.handles.find? client ≠ some id := by
  intro hh
  simp [opener?, hh] at ho

/-- Only a request to open the session starts a call that gets in line. -/
theorem not_in_line_of_began {t : System} {id' : ClientId} {stray' : ClientId → Token → Prop}
    (ha : x.system.Attended none stray) (ha' : t.Attended none stray')
    (hm : ∀ name client, m ≠ .start name (.openSession client))
    (h : (x.system.newCall id').1.Stroke (x.system.newCall id').2 none
      (x.Began m (x.system.newCall id').2) t) {n : Nat} (hn : n ∈ (t.client id).turns) :
    (⟨id, n⟩ : CallId) ≠ (x.system.newCall id').2 := by
  intro he
  obtain ⟨call, hmem, hs, hopens⟩ := ha'.opener hn
  subst hs
  have hb := h.waits call (by rw [← he]; exact hmem) (by rw [← he])
  generalize call.wait = wait at hopens hb
  cases hb with
  | starts name request operation _ _ hK hop hb =>
    -- whoever is in line opens the session, so that is what was started
    have hopening : operation = .openStream := by
      cases hb with
      | turn => rfl
      | asked operation token hi => simpa [Wait.opens] using hopens
      | reads token query reply hr hh => cases hopens
    subst hopening
    cases request with
    | openSession client => exact hm name client rfl
    | _ => cases hop
  | reads name stream cursor _ hr hh => cases hopens
  | resumes _ _ hw hne hb =>
    -- a call that is resumed had a number before
    obtain ⟨other, hother, hserial, -⟩ := hw
    exact absurd (ha.made _ other hother) (by rw [hserial]; exact Nat.lt_irrefl _)

/-- A call that goes on and does not open the session has never been in line. -/
theorem keepsLine_of_resumes {t : System} {K : CallId} {call : Call}
    {stray' : ClientId → Token → Prop}
    (ha : x.system.Attended none stray) (ha' : t.Attended none stray')
    (hr : x.system.ready.head? = some (.resume K)) (ho : x.opener? id .poll = none)
    (hc : call ∈ (x.system.client K.client).calls) (hs : call.serial = K.serial)
    (h : x.system.dequeue.Stroke K call.wait.settingUp? (x.system.Goes K call.wait) t) :
    System.KeepsLine id x.system t := by
  have hcall : x.system.call? K = some call := System.call?_eq_some (ha.serials _) hc hs
  -- the call that is resumed is not one that opens the session of the client
  have hnot : ∀ n : Nat, (⟨id, n⟩ : CallId) = K → call.wait.opens = false := by
    rintro n rfl
    have hopens := opens_of_resume hr ho rfl
    rwa [System.opens, hcall] at hopens
  have hline : System.KeepsLine id x.system.dequeue t := by
    refine h.keepsLine (fun n hn he => ?_) fun n hn he => ?_
    · have hopens := ha.opens_of_mem hn
      rw [he, System.opens, hcall] at hopens
      exact absurd hopens (by simp [hnot n he])
    · obtain ⟨other, ho', hs', hopens⟩ := ha'.opener hn
      have hno := hnot n he
      subst he
      rcases h.waits other ho' hs' with hw | ⟨hw, -⟩
      · rw [hw, hno] at hopens
        cases hopens
      · rw [hw] at hno
        cases hno
  exact ⟨hline.turns, hline.waits⟩

/-- A call that is dropped has not been in line if it does not open the session. -/
theorem keepsLine_of_drops {K : CallId} {kind : CallKind}
    (hn : ∀ n ∈ (x.system.client id).turns, (⟨id, n⟩ : CallId) ≠ K) :
    System.KeepsLine id x.system (x.system.retire K kind) := by
  have hparts := System.withdraw_parts x.system K id
  have hretire := System.heeds_retire x.system K kind
  refine ⟨?_, fun n hmem wait ⟨other, hm, hs, hw⟩ => ⟨other, ?_, hs, hw⟩⟩
  · rw [hretire.turns, hparts.2.1]
    split
    · next he =>
      refine List.erase_of_not_mem fun hmem => hn K.serial hmem ?_
      rw [← he]
    · rfl
  · rw [hretire.calls]
    exact System.mem_calls_withdraw.mpr ⟨hm, by rw [hs]; exact hn n hmem⟩

/-- The line stays, and whoever is in line waits for the same thing. -/
theorem line_make (hv : x.Valid) (ha : x.system.Attended none stray) (ho : x.opener? id m = none)
    (hd : x.dropsOpener id m = false) : System.KeepsLine id x.system (x.make m).system := by
  have ha' := attended_make hv ha m
  by_cases hopen : ∃ name client, m = .start name (.openSession client)
  · obtain ⟨name, client, rfl⟩ := hopen
    have hne := find?_of_opener? ho
    simp only [make, start, onClient] at ha' ⊢
    split
    · exact .refl id x.system
    · next id' hh =>
      refine System.Stroke.keepsLine_of_newCall ha (System.stroke_openSession hv.system ha id')
        fun n _ he => hne ?_
      cases he
      exact hh
  · cases sways_make hv ha m with
    | spares h => exact System.keepsLine_of_calls (h.turns id) (h.calls id)
    | starts id' h =>
      refine System.Stroke.keepsLine_of_newCall ha h fun n hn => ?_
      -- only a call that opens the session gets in line
      exact not_in_line_of_began ha ha' (fun name client he => hopen ⟨name, client, he⟩) h hn
    | resumes K call hm hr hc hs h =>
      subst hm
      exact keepsLine_of_resumes ha ha' hr ho hc hs h
    | drops task name K reading call hm hf hc ht =>
      subst hm
      rw [ht]
      refine keepsLine_of_drops ?_
      rintro n hn rfl
      -- whoever is in line opens the session, and no such call is dropped
      have hopens := ha.opens_of_mem hn
      simp [dropsOpener, hf, hopens] at hd

/-- Unless a call that opens the session runs, a move begins no scope of the client. -/
theorem unbegun_make (hv : x.Valid) (ho : x.opener? id m = none) :
    (x.make m).system.clients = x.system.clients ∨
      ∃ is, Makes x (x.make m).system m is ∧ x.system.Leads is (x.make m).system ∧
      ∀ i ∈ is, i.begins id = false := by
  -- Without an opener the session of this client can only be opened by a request, and that is one for
  -- another client.
  by_cases hopen : ∃ name client, m = .start name (.openSession client)
  · obtain ⟨name, client, rfl⟩ := hopen
    have hne := find?_of_opener? ho
    simp only [make, start, onClient]
    split
    · exact .inl rfl
    · next id' hh =>
      have hk : x.system.Knows id' :=
        hv.system.knows_of_handle hh
      obtain ⟨is, rest, hcourse, hp, hl⟩ := System.plays_openSession hk
      refine .inr ⟨_, .plays name (.openSession client) id' is rest hcourse hp, hl, fun i hi => ?_⟩
      rcases List.mem_append.mp hi with hi | hi
      · exact (hcourse.ofCall hi).not_begins fun he => absurd (he ▸ hh) hne
      · obtain ⟨-, wasOpen, rfl⟩ := hp.released hi
        rfl
  · rcases observes_or_leads hv m with ⟨posted, outcome, rfl⟩ | ⟨is, hm, hl⟩
    · exact .inl rfl
    · refine .inr ⟨is, hm, hl, fun i hi => ?_⟩
      cases hm.ofMove hi with
      | causes action hcause =>
        have hs := (subject?_causes hcause).1
        cases i <;> first | rfl | cases hs
      | closed | released | foreign => rfl
      | call name request id' hi =>
        refine hi.not_begins fun _ => ?_
        cases request with
        | openSession client => exact absurd ⟨name, client, rfl⟩ hopen
        | _ => rfl
      | task hi =>
        cases hi with
        | call K hr hi => exact hi.not_begins fun he => opens_of_resume hr ho he
        | _ => rfl

/-- No scope of a client begins in a move without an opener of it. -/
theorem begun_make (hv : x.Valid) (ho : x.opener? id m = none) :
    ((x.make m).system.client id).scope.begun = (x.system.client id).scope.begun := by
  rcases unbegun_make hv ho with hc | ⟨is, -, hl, hb⟩
  · unfold System.client
    rw [hc]
  · exact hl.begun_eq hv.system hb

/-- A client without a scope stays as it is. -/
theorem vacant_make (hv : x.Valid) (ho : x.opener? id m = none)
    (hc : (x.system.client id).scope.current = none) :
    ((x.make m).system.client id).scope = (x.system.client id).scope := by
  rcases unbegun_make hv ho with he | ⟨is, -, hl, hb⟩
  · unfold System.client
    rw [he]
  · exact hl.vacant hv.system hc hb

/-- A scope in place stays as it is, or it ends; then the passages of the client tell how, and a scope
that has not been closed is known to have failed. -/
theorem stays_or_ends_make (hv : x.Valid) (ho : x.opener? id m = none)
    (hc : (x.system.client id).scope.current.isSome = true) :
    ((x.make m).system.client id).scope = (x.system.client id).scope ∨
      ((x.make m).system.client id).scope.current = none ∧
        ∃ how, .ended how ∈ x.passages id m ∧
          (how ≠ .closed → ((x.make m).system.client id).scope.failed = true) := by
  rcases unbegun_make hv ho with he | ⟨is, hm, hl, hb⟩
  · left
    unfold System.client
    rw [he]
  · have hs : ((x.make m).system.client id).scope =
        (is.foldl (Incident.affect id) (x.system.client id).standing).scope :=
      congrArg Standing.scope (hl.standing hv.system id)
    rw [hs, passages_eq_trace hv hm hl]
    exact stays_or_ends_foldl hb (c := (x.system.client id).standing) hc

/-- A client keeps what it was made with. -/
theorem origin_make (hv : x.Valid) (hk : x.system.Knows id) (m : Move) :
    ((x.make m).system.client id).origin = (x.system.client id).origin := by
  rcases observes_or_leads hv m with ⟨posted, outcome, rfl⟩ | ⟨is, -, hl⟩
  · rfl
  · exact hl.origin hv.system hk

/-- Along a run a client stays one, and is what it has been made with. -/
theorem origin_after (hv : x.Valid) (hk : x.system.Knows id) (ms : List Move) :
    (x.after ms).system.Knows id ∧
      ((x.after ms).system.client id).origin = (x.system.client id).origin := by
  induction ms generalizing x with
  | nil => exact ⟨hk, rfl⟩
  | cons m rest ih =>
    obtain ⟨hk', ho⟩ := ih (hv.make m) (key_make hv hk m).1
    exact ⟨hk', ho.trans (origin_make hv hk m)⟩

/-- No move changes the configuration of a client. -/
theorem config_make (hv : x.Valid) (hk : x.system.Knows id) (m : Move) :
    ((x.make m).system.client id).config = (x.system.client id).config :=
  congrArg Prod.fst (origin_make hv hk m)

/-- No run changes the configuration of a client. -/
theorem config_after (ho : x.Orderly) (hk : x.system.Knows id) (ms : List Move) :
    ((x.after ms).system.client id).config = (x.system.client id).config :=
  congrArg Prod.fst (origin_after ho.valid hk ms).2

end Scenario

end P4Control
