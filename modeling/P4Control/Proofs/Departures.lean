import P4Control.Proofs.Custody

namespace P4Control

/-!
# When the last holder of a client goes

The last holder of a client may be a handle that is dropped or replaced, the entry in the registry, or a
request that finishes or is dropped.  In each case there is a moment at which nobody holds the client any
more, and what comes next is that its session is closed.

* `System.Less` — a client has one holder less; `System.Shuts` — a session has been closed.
* `Scenario.Departure` — the last holder of a client goes in a move.
* `departs` — how a client that is held becomes one that is not.
-/

namespace System

variable {s t u v : System} {id old : ClientId} {K : CallId}

/-! ### Who is still held -/

theorem isHeld_congr (h : SameHolders s t) (hc : (t.client id).calls = (s.client id).calls) :
    t.isHeld id = s.isHeld id := by
  unfold isHeld
  rw [h.registry, h.handles, hc]

theorem isHeld_release (s : System) (old id : ClientId) :
    (s.release old).isHeld id = s.isHeld id :=
  isHeld_congr ((SameHolders.refl s).release old) ((heeds_release old).calls id)

theorem isHeld_close (s : System) (old id : ClientId) :
    (s.closeSession old).isHeld id = s.isHeld id :=
  isHeld_congr (holders_closeSession s old) ((heeds_closeSession old).calls id)

theorem release_of_unheld (h : s.isHeld id = false) : s.release id = s.closeSession id := by
  unfold release
  rw [h]
  rfl

theorem Valid.knows_of_held (hv : s.Valid) (h : s.isHeld id = true) : s.Knows id := by
  by_cases hk : s.Knows id
  · exact hk
  · have hcalls : (s.client id).calls = [] := by
      rw [client_eq_default hk]
      rfl
    unfold isHeld at h
    rw [hcalls, List.any_nil, Bool.or_false] at h
    rcases Bool.or_eq_true_iff.mp h with h | h
    · exact hv.handles id (List.contains_iff_mem.mp h)
    · exact hv.registry id (List.contains_iff_mem.mp h)

/-- A client stays held as long as none of its holders goes. -/
theorem isHeld_mono (hn : s.handles.keys.Nodup) (hr : s.registry.keys.Nodup) (hs : s.isHeld id = true)
    (hh : ∀ name, s.handles.find? name = some id → u.handles.find? name = some id)
    (hg : ∀ device, s.registered? device = some id → u.registered? device = some id)
    (hc : ∀ call ∈ (s.client id).calls, call.kind = .request → call ∈ (u.client id).calls) :
    u.isHeld id = true := by
  rcases held_cases hn hr hs with ⟨name, h⟩ | ⟨device, h⟩ | ⟨call, hm, hk⟩
  · exact isHeld_of_handle (hh name h)
  · exact isHeld_of_registered (hg device h)
  · exact isHeld_of_request (hc call hm hk) hk

theorem isHeld_of_same (hn : s.handles.keys.Nodup) (hr : s.registry.keys.Nodup) (hs : s.isHeld id = true)
    (h : SameHolders s u)
    (hc : ∀ call ∈ (s.client id).calls, call.kind = .request → call ∈ (u.client id).calls) :
    u.isHeld id = true := by
  refine isHeld_mono hn hr hs (fun _ h' => ?_) (fun _ h' => ?_) hc
  · rw [h.handles]
    exact h'
  · rw [registered?, h.registry]
    exact h'

/-! ### One holder less -/

/-- A client has one holder less, and no session notices. -/
structure Less (s : System) (old : ClientId) (u : System) : Prop where
  others : ∀ id, id ≠ old → s.isHeld id = true → u.isHeld id = true
  standing : ∀ id, s.Knows id → (u.client id).standing = (s.client id).standing
  stream : ∀ st, u.stream st = s.stream st
  journal : u.journal = s.journal

theorem Less.eq_of_unheld (h : Less s old u) (hs : s.isHeld id = true) (hu : u.isHeld id = false) :
    id = old := by
  by_cases he : id = old
  · exact he
  · rw [h.others id he hs] at hu
    cases hu

section

variable (hv : s.Valid) (hn : s.handles.keys.Nodup) (hr : s.registry.keys.Nodup)

include hv hn hr

theorem less_of_entries (hh : ∀ name id, id ≠ old → s.handles.find? name = some id →
      u.handles.find? name = some id)
    (hg : ∀ device id, id ≠ old → s.registered? device = some id → u.registered? device = some id)
    (hc : ∀ id, s.Knows id → u.client id = s.client id) (hst : ∀ st, u.stream st = s.stream st)
    (hj : u.journal = s.journal) : Less s old u where
  others id hne hs := by
    refine isHeld_mono hn hr hs (fun name => hh name id hne) (fun device => hg device id hne) ?_
    rw [hc id (hv.knows_of_held hs)]
    exact fun _ hm _ => hm
  standing id hk := by rw [hc id hk]
  stream := hst
  journal := hj

/-- A handle is taken from its user. -/
theorem less_erase_handle {name : String} (h : s.handles.find? name = some old) :
    Less s old { s with handles := s.handles.erase name } := by
  refine less_of_entries hv hn hr (fun name' id hne h' => ?_) (fun _ _ _ h' => h') (fun _ _ => rfl)
    (fun _ => rfl) rfl
  show (s.handles.erase name).find? name' = some id
  rw [Directory.find?_erase, if_neg]
  · exact h'
  · rintro rfl
    rw [h] at h'
    cases h'
    exact hne rfl

/-- A handle is given to another client. -/
theorem less_insert_handle {name : String} (hp : Scenario.Provides s t id)
    (h : s.handles.find? name = some old) :
    Less s old { t with handles := t.handles.insert name id } := by
  refine less_of_entries hv hn hr (fun name' id' hne h' => ?_)
    (fun device id' _ h' => hp.registry device id' h')
    hp.client hp.stream hp.journal
  show (t.handles.insert name id).find? name' = some id'
  rw [hp.handles, Directory.find?_insert, if_neg]
  · exact h'
  · rintro rfl
    rw [h] at h'
    cases h'
    exact hne rfl

/-- Nobody loses a client when a name that is free is given to one. -/
theorem isHeld_insert_handle {name : String} {new : ClientId} (hp : Scenario.Provides s t new)
    (hf : s.handles.find? name = none) (hs : s.isHeld id = true) :
    ({ t with handles := t.handles.insert name new } : System).isHeld id = true := by
  refine isHeld_mono hn hr hs (fun name' h' => ?_) (fun device h' => hp.registry device id h') ?_
  · show (t.handles.insert name new).find? name' = some id
    rw [hp.handles, Directory.find?_insert, if_neg]
    · exact h'
    · rintro rfl
      rw [hf] at h'
      cases h'
  · intro call hm _
    show call ∈ (t.client id).calls
    rw [hp.client id (hv.knows_of_held hs)]
    exact hm

/-- A client is taken off the registry. -/
theorem less_erase_registry {device : DeviceId} (h : s.registered? device = some old) :
    Less s old { s with registry := s.registry.erase device } := by
  refine less_of_entries hv hn hr (fun _ _ _ h' => h') (fun device' id hne h' => ?_) (fun _ _ => rfl)
    (fun _ => rfl) rfl
  show (s.registry.erase device).find? device' = some id
  rw [Directory.find?_erase, if_neg]
  · exact h'
  · rintro rfl
    rw [h] at h'
    cases h'
    exact hne rfl

end

/-- A call is not pending any more. -/
theorem less_withdraw (s : System) (K : CallId) : Less s K.client (s.withdraw K) where
  others id hne hs := by
    have hc : ((s.withdraw K).client id).calls = (s.client id).calls := by
      rw [client_withdraw, if_neg hne.symm]
    have hh : SameHolders s (s.withdraw K) := by
      rw [withdraw_eq]
      exact ⟨rfl, rfl⟩
    rw [isHeld_congr hh hc]
    exact hs
  standing id _ := by
    rw [client_withdraw]
    split
    · next he =>
      rw [he]
      rfl
    · rfl
  stream st := by
    rw [withdraw_eq]
    rfl
  journal := by rw [withdraw_eq]

/-! ### The session is closed -/

/-- The session of a client has been closed. -/
structure Shuts (s : System) (id : ClientId) (t : System) : Prop where
  standing : (t.client id).standing =
    ⟨(s.client id).key, (s.client id).scope.close.2, (s.client id).arbiter.lastUsed, .notMaster⟩
  lifecycle : t.lifecycle = s.lifecycle ++
    if (s.client id).scope.isOpen then [.channelClosed (s.deviceOf id)] else []
  stream : ∀ st, t.stream st =
    if (s.client id).scope.slot = some st then
      { s.stream st with uplink := (s.stream st).uplink.dropSender }
    else s.stream st

theorem shuts_closeSession (hv : (s.client id).scope.Valid) : Shuts s id (s.closeSession id) where
  standing := by rw [standing_closeSession, if_pos rfl]
  lifecycle := by rw [lifecycle_closeSession, hv.fst_close]
  stream st := by
    have he : (s.closeSession id).stream st = (s.endScope id (s.client id).scope.close.2).stream st := by
      rw [closeSession_eq]
      split <;> rfl
    rw [he, stream_endScope]

/-- A client without a scope is as closed as it can be. -/
theorem shuts_of_vacant (hv : s.Valid) (hc : (s.client id).scope.current = none) : Shuts s id s where
  standing := by
    have hm := (hv.mastership id).resolve_right fun ho => by
      rw [(hv.scopes id).isOpen_eq_false ((hv.scopes id).slot_eq_none hc)] at ho
      cases ho
    rw [(hv.scopes id).close_of_vacant hc]
    unfold Client.standing
    rw [hm]
  lifecycle := by
    rw [(hv.scopes id).isOpen_eq_false ((hv.scopes id).slot_eq_none hc), if_neg (by simp), List.append_nil]
  stream st := by rw [(hv.scopes id).slot_eq_none hc, if_neg (by simp)]

/-- Closing a session for a second time changes nothing. -/
theorem Shuts.again (h : Shuts s id t) (hv : t.Valid) (h' : Shuts t id u) : Shuts s id u := by
  have hscope : (t.client id).scope = (s.client id).scope.close.2 := congrArg Standing.scope h.standing
  have hc : (t.client id).scope.current = none := by
    rw [hscope]
    exact Scope.current_close _
  have hs := shuts_of_vacant hv hc
  refine ⟨?_, ?_, fun st => ?_⟩
  · rw [h'.standing, ← hs.standing, h.standing]
  · rw [h'.lifecycle, ← hs.lifecycle, h.lifecycle]
  · rw [h'.stream st, ← hs.stream st, h.stream st]

theorem Shuts.quiet (h : Shuts s id t) (q : Quiet t u) : Shuts s id u where
  standing := (q.standing id).trans h.standing
  lifecycle := q.lifecycle.trans h.lifecycle
  stream st := (q.stream st).trans (h.stream st)

end System

/-! ### The end of a request -/

/-- A call that has been pending is so when another one has started. -/
theorem System.Stroke.mem_calls_of_newCall {s t : System} {id id' : ClientId} {own : Option Token}
    {P : Wait → Prop} {stray : ClientId → Token → Prop} {call : Call}
    (h : (s.newCall id').1.Stroke (s.newCall id').2 own P t) (ha : s.Attended none stray)
    (hm : call ∈ (s.client id).calls) : call ∈ (t.client id).calls := by
  refine (h.others id call fun he => ?_).mpr ?_
  · have hid : id = id' := congrArg CallId.client he
    have hser : call.serial = (s.client id').made := congrArg CallId.serial he
    have hlt := ha.made id call hm
    rw [hser, hid] at hlt
    exact Nat.lt_irrefl _ hlt
  · rw [(System.newCall_parts s id' id).1]
    exact hm

/-- Whether a session is closed by an incident. -/
def Incident.shuts : Incident → Bool
  | .closed _ _ | .released _ _ => true
  | _ => false

/-- Only by the close of a session an event tells that a channel is closed. -/
theorem Incident.kind_of_events {i : Incident} {device : ClientId → DeviceId} (h : i.shuts = false)
    {e : Event} (he : e ∈ i.events device) : e.kind ≠ .channelClosed := by
  cases i with
  | opened id token afterFailure st =>
    rw [List.mem_singleton.mp he]
    cases afterFailure <;> simp [Event.kind]
  | lost id token reason =>
    cases reason with
    | none => cases he
    | some reason =>
      rw [List.mem_singleton.mp he]
      simp [Event.kind]
  | closed | released => cases h
  | _ => cases he

theorem Course.not_shuts {id : ClientId} {opening : Bool} {is : List Incident} (h : Course id opening is) :
    ∀ i ∈ is, i.shuts = false := by
  intro i hi
  cases h.ofCall hi <;> rfl

namespace System

variable {s t u : System} {id : ClientId} {K : CallId}

theorem Leads.split {is js ks : List Incident} (h : Leads s ks t) (hk : ks = is ++ js) :
    ∃ u, Leads s is u ∧ Leads u js t := by
  induction h generalizing is with
  | refl s =>
    obtain ⟨rfl, rfl⟩ := List.append_eq_nil_iff.mp hk.symm
    exact ⟨s, .refl s, .refl s⟩
  | quiet q _ ih =>
    obtain ⟨u, hl, hr⟩ := ih hk
    exact ⟨u, .quiet q hl, hr⟩
  | @cons s t u i rest hi r ih =>
    cases is with
    | nil =>
      refine ⟨s, .refl s, ?_⟩
      rw [← show i :: rest = js from hk]
      exact .cons hi r
    | cons j is =>
      obtain ⟨rfl, hrest⟩ := List.cons.inj hk
      obtain ⟨v, hl, hr⟩ := ih hrest
      exact ⟨v, .cons hi hl, hr⟩

theorem Leads.quiet_of_nil {is : List Incident} (h : Leads s is t) (hn : is = []) : Quiet s t := by
  induction h with
  | refl s => exact .refl s
  | quiet q _ ih => exact q.trans (ih hn)
  | cons _ _ _ => cases hn

/-- Where the last incident happens. -/
theorem Leads.last {is : List Incident} {i : Incident} (h : Leads s (is ++ [i]) t) :
    ∃ u v, Leads s is u ∧ Happens u i v ∧ Quiet v t := by
  obtain ⟨u, hl, hr⟩ := h.split rfl
  generalize hk : [i] = ks at hr
  induction hr generalizing s with
  | refl => cases hk
  | @quiet u v w ks q r ih =>
    have hq : Leads u [] v := .of_quiet q
    obtain ⟨u', v', hl', hi, hq'⟩ := ih h (by simpa using hl.append hq) hk
    exact ⟨u', v', hl', hi, hq'⟩
  | @cons u v w j rest hi r _ =>
    obtain ⟨rfl, hrest⟩ := List.cons.inj hk
    exact ⟨u, v, hl, hi, r.quiet_of_nil hrest.symm⟩

/-- As long as no session is closed, no event tells that a channel is. -/
theorem Leads.silent {is : List Incident} (h : Leads s is t) (hv : s.Valid)
    (hn : ∀ i ∈ is, i.shuts = false) :
    ∃ news, t.lifecycle = s.lifecycle ++ news ∧ ∀ e ∈ news, e.kind ≠ .channelClosed := by
  refine ⟨_, h.lifecycle hv, fun e he => ?_⟩
  obtain ⟨i, hi, he⟩ := List.mem_flatMap.mp he
  exact Incident.kind_of_events (hn i hi) he

/-- What happens in a task that lets a call go on, up to the moment when nobody holds the client. -/
theorem polls_resume {is : List Incident} (h : Polls s t is) (hr : s.ready.head? = some (.resume K)) :
    (∀ i ∈ is, i.shuts = false) ∨
      ∃ is' wasOpen, is = is' ++ [.released K.client wasOpen] ∧ ∀ i ∈ is', i.shuts = false := by
  cases h with
  | rests hn => exact .inl (by simp)
  | serves | drains | hears | leaves | loses => exact .inl (by simp [Incident.shuts])
  | idles task => exact .inl (by simp [Incident.shuts])
  | resumes K' is rest hr' hc hp =>
    rw [hr] at hr'
    cases hr'
    have front : ∀ i ∈ .idled (.resume K) :: is, i.shuts = false := by
      intro i hi
      rcases List.mem_cons.mp hi with rfl | hi
      · rfl
      · exact hc.not_shuts i hi
    cases hp with
    | stays =>
      rw [List.append_nil]
      exact .inl front
    | goes wasOpen hn => exact .inr ⟨_, wasOpen, rfl, front⟩

end System

namespace Scenario

variable {x : Scenario} {m : Move} {id old : ClientId} {u : System}

/-! ### The last holder goes -/

/-- The last holder of a client goes in a move, and leaves the control plane as `u`; then the session is
closed.  It has been taken away by an action, or it is a request that has finished. -/
structure Departure (x : Scenario) (m : Move) (id : ClientId) (u : System) : Prop where
  unheld : u.isHeld id = false
  key : (u.client id).key = (x.system.client id).key
  /-- An inbound loop reads the stream of an open session. -/
  heard : ∀ st, (u.client id).scope.slot = some st →
    ∃ token, (u.stream st).listener = some (id, token)
  silent : ∃ news, u.lifecycle = x.system.lifecycle ++ news ∧ ∀ e ∈ news, e.kind ≠ .channelClosed
  cause : ((∃ action, m = .act action) ∧ (u.client id).standing = (x.system.client id).standing ∧
      u.lifecycle = x.system.lifecycle ∧ ∀ st, u.stream st = x.system.stream st) ∨
    m = .poll ∧ ∃ K f, x.system.ready.head? = some (.resume K) ∧ K.client = id ∧
      (x.make m).system.finished = x.system.finished ++ [f] ∧ f.call = K
  shuts : System.Shuts u id (x.make m).system

/-- An action after which a client has one holder less. -/
theorem departure_of_less {action : Action} (hv : x.Valid) (ht : x.Tuned) (hl : System.Less x.system old u)
    (hx : x.system.isHeld id = true) (hu : u.isHeld id = false)
    (hs : System.Shuts u id (x.make (.act action)).system) : x.Departure (.act action) id u := by
  have hstand := hl.standing id (hv.system.knows_of_held hx)
  have hlife : u.lifecycle = x.system.lifecycle := System.lifecycle_of_journal hl.journal
  have hscope : (u.client id).scope = (x.system.client id).scope := congrArg Standing.scope hstand
  refine ⟨hu, congrArg Standing.key hstand, fun st hslot => ?_,
    ⟨[], by rw [hlife, List.append_nil], by simp⟩,
    .inl ⟨⟨action, rfl⟩, hstand, hlife, hl.stream⟩, hs⟩
  rw [hscope] at hslot
  obtain ⟨token, -, hlisten⟩ := ht.looped.slots id st hslot
  exact ⟨token, (congrArg Stream.listener (hl.stream st)).trans hlisten⟩

/-- The holder of a client goes, and lets go of it. -/
theorem departure_of_release {action : Action} (hv : x.Valid) (ht : x.Tuned)
    (hl : System.Less x.system old u) (hx : x.system.isHeld id = true)
    (hm : (x.make (.act action)).system = u.release old)
    (hy : (x.make (.act action)).system.isHeld id = false) : x.Departure (.act action) id u := by
  have hu : u.isHeld id = false := by
    rw [hm, System.isHeld_release] at hy
    exact hy
  obtain rfl := hl.eq_of_unheld hx hu
  refine departure_of_less hv ht hl hx hu ?_
  rw [hm, System.release_of_unheld hu]
  refine System.shuts_closeSession ?_
  rw [show (u.client id).scope = (x.system.client id).scope from
    congrArg Standing.scope (hl.standing id (hv.system.knows_of_held hx))]
  exact hv.system.scopes id

/-- A client is removed from the registry, and nobody else has it. -/
theorem departure_of_remove {device : DeviceId} (hc : x.Custody) (ht : x.Tuned)
    (hx : x.system.isHeld id = true) (hr : x.system.registered? device = some old)
    (hy : (x.make (.act (.remove device))).system.isHeld id = false) :
    ∃ u, x.Departure (.act (.remove device)) id u := by
  have hv := hc.orderly.valid
  have hm : (x.make (.act (.remove device))).system =
      (({ x.system with registry := x.system.registry.erase device } : System).closeSession old).release
        old := (System.removeClient_parts x.system device hr).1
  have hl := System.less_erase_registry hv.system hc.handles hc.enrolled.nodup hr
  have hvalid : ({ x.system with registry := x.system.registry.erase device } : System).Valid :=
    (System.Happens.filed x.system x.system.handles _ hv.system.handles fun id' h =>
      hv.system.registry id' (Directory.mem_values_erase h)).valid hv.system
  have hk : ({ x.system with registry := x.system.registry.erase device } : System).Knows id :=
    hv.system.knows_of_held hx
  generalize ({ x.system with registry := x.system.registry.erase device } : System) = u at *
  -- it was the registry that held the client
  have hu : u.isHeld id = false := by
    rw [hm, System.isHeld_release, System.isHeld_close] at hy
    exact hy
  obtain rfl := hl.eq_of_unheld hx hu
  refine ⟨u, departure_of_less hv ht hl hx hu ?_⟩
  rw [hm, System.release_of_unheld (by rw [System.isHeld_close]; exact hu)]
  have hclosed := hvalid.closeSession hk
  exact (System.shuts_closeSession (hvalid.scopes id)).again hclosed
    (System.shuts_closeSession (hclosed.scopes id))

/-- Where the handles and the registry stay, it is a request that has gone. -/
theorem not_all_pending (hc : x.Custody) (hx : x.system.isHeld id = true)
    (hy : (x.make m).system.isHeld id = false) (hs : System.SameHolders x.system (x.make m).system) :
    ¬ ∀ call ∈ (x.system.client id).calls, call.kind = .request →
      call ∈ ((x.make m).system.client id).calls := by
  intro hcalls
  rw [System.isHeld_of_same hc.handles hc.enrolled.nodup hx hs hcalls] at hy
  cases hy

/-- The last holder of a client goes in an action. -/
theorem departs_act (hc : x.Custody) (ht : x.Tuned) {action : Action} (hx : x.system.isHeld id = true)
    (hy : (x.make (.act action)).system.isHeld id = false) : ∃ u, x.Departure (.act action) id u := by
  have hv := hc.orderly.valid
  rcases holders_act_cases (x := x) action with
    ⟨s, name, new, hg⟩ | ⟨name, old, rfl, hf⟩ | ⟨device, old, rfl, hr⟩ | hs
  · have hp := provides_of_grants hv hg
    have hset : (x.make (.act action)).system = s.setHandle name new := by
      rw [act_of_grants hg]
      rfl
    -- The handle may have been in use; then it lets go of the client it stood for.
    unfold System.setHandle at hset
    dsimp only at hset
    cases hf : x.system.handles.find? name with
    | none =>
      rw [hp.handles, hf, ← hp.handles] at hset
      rw [hset, System.isHeld_insert_handle hv.system hc.handles hc.enrolled.nodup hp hf hx] at hy
      cases hy
    | some old =>
      rw [hp.handles, hf, ← hp.handles] at hset
      have hl := System.less_insert_handle hv.system hc.handles hc.enrolled.nodup hp hf
      exact ⟨_, departure_of_release hv ht hl hx hset hy⟩
  · refine ⟨_, departure_of_release hv ht
      (System.less_erase_handle hv.system hc.handles hc.enrolled.nodup hf) hx ?_ hy⟩
    show (x.system.dropHandle name).1 = _
    rw [(System.dropHandle_parts hf).1]
  · exact departure_of_remove hc ht hx hr hy
  -- No holder goes in what is left, and a pending call holds its client: one would have to end.
  · have kept := not_all_pending hc hx hy hs
    obtain ⟨stray, ha⟩ := hc.orderly.attended
    cases sways_act hv.system action with
    | spares h =>
      refine (kept fun call hm _ => ?_).elim
      show call ∈ ((x.act action).1.system.client id).calls
      rw [h.calls id]
      exact hm
    | starts id' h =>
      exact (kept fun call hm _ => h.mem_calls_of_newCall ha hm).elim
    | resumes K call hm => cases hm
    | drops task name K reading call hm hf hcall hdrop =>
      have hmem := List.mem_of_find?_eq_some hcall
      have hser : call.serial = K.serial := by simpa using List.find?_some hcall
      -- A request holds its client while it is pending; what waits for the next entity does not.
      cases hk : call.kind with
      | request =>
        rw [hk, System.retire_eq] at hdrop
        exact ⟨_, departure_of_release hv ht (System.less_withdraw x.system K) hx hdrop hy⟩
      | next =>
        rw [hk, System.retire_eq] at hdrop
        refine (kept fun other hm' hreq => ?_).elim
        show other ∈ ((x.act action).1.system.client id).calls
        rw [hdrop]
        refine System.mem_calls_withdraw.mpr ⟨hm', fun he => ?_⟩
        subst he
        rw [System.eq_of_serial (ha.serials id) hm' hmem hser.symm] at hreq
        rw [hk] at hreq
        cases hreq

/-- A request finishes, and nobody else has its client. -/
theorem departure_of_resume {K : CallId} {f : Finished} (hv : x.Valid) (ht : x.Tuned)
    (hr : x.system.ready.head? = some (.resume K)) (hd : (x.make .poll).system.Discharged K)
    (hf : (x.make .poll).system.finished = x.system.finished ++ [f]) (hK : f.call = K)
    (hx : x.system.isHeld K.client = true) (hy : (x.make .poll).system.isHeld K.client = false) :
    ∃ u, x.Departure .poll K.client u := by
  have hk := hv.system.knows_of_held hx
  have hcause : ∃ K' f, x.system.ready.head? = some (.resume K') ∧ K'.client = K.client ∧
      (x.make .poll).system.finished = x.system.finished ++ [f] ∧ f.call = K' :=
    ⟨K, f, hr, rfl, hf, hK⟩
  obtain ⟨is, hp, hl⟩ := System.leads_poll hv.system
  have hforeign := not_foreign_of_makes (x := x) (t := x.system.poll) (.polls is hp) rfl
  rcases System.polls_resume hp hr with hn | ⟨is, wasOpen, rfl, hn⟩
  · have hvacant := hd.shut.resolve_left (by rw [hy]; simp)
    refine ⟨_, hy, hl.key hv.system hk, fun st hslot => ?_, hl.silent hv.system hn, .inr ⟨rfl, hcause⟩,
      System.shuts_of_vacant (hv.make .poll).system hvacant⟩
    rw [((hv.make .poll).system.scopes K.client).slot_eq_none hvacant] at hslot
    cases hslot
  · obtain ⟨u, v, hl', hi, hq⟩ := hl.last
    cases hi with
    | released _ hku hu =>
      refine ⟨u, hu, hl'.key hv.system hk, fun st hslot => ?_, hl'.silent hv.system hn,
        .inr ⟨rfl, hcause⟩,
        (System.shuts_closeSession ((hl'.valid hv.system).scopes K.client)).quiet hq⟩
      have hcarries := hl'.carries (fun hi => hforeign (List.mem_append_left _ hi)) hv.system
      obtain ⟨token, -, hlisten⟩ := (hcarries.looped ht.looped).slots K.client st hslot
      exact ⟨token, hlisten⟩

/-- The last holder of a client goes while tasks run: it is a request, which finishes. -/
theorem departs_poll (hc : x.Custody) (ht : x.Tuned) (hx : x.system.isHeld id = true)
    (hy : (x.make .poll).system.isHeld id = false) : ∃ u, x.Departure .poll id u := by
  have hv := hc.orderly.valid
  have hs := holders_make hv (m := .poll) rfl
  obtain ⟨stray, ha⟩ := hc.orderly.attended
  have kept := not_all_pending hc hx hy hs
  cases sways_poll hv ha with
  | spares h =>
    refine (kept fun call hm _ => ?_).elim
    rw [make, withSystem, h.calls id]
    exact hm
  | starts id' h => exact (kept fun call hm _ => h.mem_calls_of_newCall ha hm).elim
  | drops task name K reading call hm => cases hm
  | resumes K call hm hr hcall hser h =>
    have hreq : K.client = id ∧ call.kind = .request := by
      refine Classical.byContradiction fun hn => kept fun other hother hk => ?_
      refine (h.others id other fun he => hn ?_).mpr hother
      subst he
      refine ⟨rfl, ?_⟩
      rw [System.eq_of_serial (ha.serials id) hcall hother hser]
      exact hk
    obtain ⟨rfl, hkind⟩ := hreq
    have hd : (x.make .poll).system.Discharged K := by
      rw [show (x.make .poll).system = x.system.dequeue.resume K from poll_of_resume hr]
      refine System.discharged_resume (ha.call?_dequeue hcall hser) ?_
      rw [← hkind]
      exact ha.ofKind_of_mem hcall hser
    rcases h.outcome with ⟨f, hf, hfK, -⟩ | ⟨-, other, hm', hs'⟩
    · exact departure_of_resume hv ht hr hd hf hfK hx hy
    · -- a request that is still pending holds its client
      have hheld := System.isHeld_of_request hm' (hd.requests other hm' hs')
      rw [show x.system.poll = (x.make .poll).system from rfl, hy] at hheld
      cases hheld

/-- A client that is held before a move and not after it has lost its last holder, and its session is
closed. -/
theorem departs (hc : x.Custody) (ht : x.Tuned) (m : Move) (hx : x.system.isHeld id = true)
    (hy : (x.make m).system.isHeld id = false) : ∃ u, x.Departure m id u := by
  have hv := hc.orderly.valid
  obtain ⟨stray, ha⟩ := hc.orderly.attended
  cases m with
  | act action => exact departs_act hc ht hx hy
  | poll => exact departs_poll hc ht hx hy
  | observe posted outcome =>
    rw [show (x.make (.observe posted outcome)).system.isHeld id = x.system.isHeld id from rfl, hx] at hy
    cases hy
  | advance span =>
    -- neither time nor a request lets go of a client: what was pending still is
    refine (not_all_pending hc hx hy (holders_make hv rfl) fun call hm _ => ?_).elim
    rw [make, withSystem, (System.spares_advance x.system span).calls]
    exact hm
  | start name request =>
    refine (not_all_pending hc hx hy (holders_make hv rfl) fun call hm _ => ?_).elim
    cases sways_make hv ha (.start name request) with
    | spares h =>
      rw [h.calls]
      exact hm
    | starts id' h => exact h.mem_calls_of_newCall ha hm
    | resumes K call hm => cases hm
    | drops task name K reading call hm => cases hm

/-! ### Nobody gets a client back -/

/-- What is pending after a call has run was so before, or is that call. -/
theorem mem_calls_of_stroke {t : System} {K : CallId} {own : Option Token} {P : Wait → Prop} {call : Call}
    (h : System.Stroke t K own P (x.make m).system)
    (hc : (t.client id).calls = (x.system.client id).calls)
    (hm : call ∈ ((x.make m).system.client id).calls) :
    call ∈ (x.system.client id).calls ∨ K.client = id ∧ call.serial = K.serial := by
  by_cases he : (⟨id, call.serial⟩ : CallId) = K
  · exact .inr ⟨by rw [← he], by rw [← he]⟩
  · rw [← hc]
    exact .inl ((h.others id call he).mp hm)

/-- A request that is pending after the start of one was so before, or has been made by way of a handle. -/
theorem held_of_start {stray : ClientId → Token → Prop} (hv : x.Valid) (ha : x.system.Attended none stray)
    {name : String} {request : Request} {call : Call}
    (hm : call ∈ ((x.make (.start name request)).system.client id).calls) (hk : call.kind = .request) :
    x.system.isHeld id = true := by
  cases sets_start hv ha name request with
  | nothing h =>
    rw [make, h.calls] at hm
    exact System.isHeld_of_request hm hk
  | request id' P client hh hs hd =>
    rcases mem_calls_of_stroke hs (System.newCall_parts x.system id' id).1 hm with hbefore | ⟨hid, -⟩
    · exact System.isHeld_of_request hbefore hk
    -- the request is made by way of a handle, and that holds the client
    · rw [← hid]
      exact System.isHeld_of_handle hh
  | take cursor ht =>
    have hs := System.stroke_readNext hv.system ha cursor
    rw [← ht] at hs
    rcases mem_calls_of_stroke hs (System.newCall_parts x.system cursor.client id).1 hm with
      hbefore | ⟨hid, hser⟩
    · exact System.isHeld_of_request hbefore hk
    · subst hid
      -- the next item of a read stream is no request
      rw [make, ht] at hm
      rw [System.ofKind_readNext ha cursor call hm hser] at hk
      cases hk

/-- A request that is pending after a step of the tasks was so before. -/
theorem held_of_poll {stray : ClientId → Token → Prop} (hv : x.Valid) (ha : x.system.Attended none stray)
    (hs : x.system.Sorted) {call : Call} (hm : call ∈ ((x.make .poll).system.client id).calls)
    (hk : call.kind = .request) : x.system.isHeld id = true := by
  cases sways_poll hv ha with
  | spares h =>
    rw [make, withSystem, h.calls] at hm
    exact System.isHeld_of_request hm hk
  | starts id' h =>
    rcases mem_calls_of_stroke h (System.newCall_parts x.system id' id).1 hm with hbefore | ⟨hid, hser⟩
    · exact System.isHeld_of_request hbefore hk
    · subst hid
      cases h.waits call hm hser with
      | resumes _ _ hw =>
        -- a call that is pending has been made before
        obtain ⟨made, hmade, hser', -⟩ := hw
        have hlt := ha.made _ made hmade
        rw [hser'] at hlt
        exact absurd hlt (Nat.lt_irrefl _)
  | drops task name K reading call hm => cases hm
  | resumes K pending _ hr hpending hser h =>
    rcases mem_calls_of_stroke (t := x.system.dequeue) h rfl hm with hbefore | ⟨hid, hser'⟩
    · exact System.isHeld_of_request hbefore hk
    · subst hid
      cases hkind : pending.kind with
      | request => exact System.isHeld_of_request hpending hkind
      | next =>
        have hof := ha.ofKind_of_mem hpending hser
        rw [hkind] at hof
        have hstill := System.OfKind.resume_chunk (s := x.system.dequeue) hof
          (ha.call?_dequeue hpending hser) (hs K.client pending hpending hkind)
        rw [show (x.make .poll).system = x.system.dequeue.resume K from poll_of_resume hr] at hm
        rw [hstill call hm hser'] at hk
        cases hk

/-- So in every move a request belongs to a client that has been held. -/
theorem held_of_request (hc : x.Custody) (m : Move) {call : Call}
    (hm : call ∈ ((x.make m).system.client id).calls) (hk : call.kind = .request) :
    x.system.isHeld id = true := by
  have hv := hc.orderly.valid
  obtain ⟨stray, ha⟩ := hc.orderly.attended
  cases m with
  | observe posted outcome => exact System.isHeld_of_request hm hk
  | advance span =>
    rw [make, withSystem, (System.spares_advance x.system span).calls] at hm
    exact System.isHeld_of_request hm hk
  | start name request => exact held_of_start hv ha hm hk
  | poll => exact held_of_poll hv ha hc.sorted hm hk
  | act action =>
    cases sways_act hv.system action with
    | spares h =>
      rw [make, h.calls] at hm
      exact System.isHeld_of_request hm hk
    | starts id' h =>
      -- an action starts no call that could hold a client
      rcases mem_calls_of_stroke h (System.newCall_parts x.system id' id).1 hm with hbefore | ⟨hid, hser⟩
      · exact System.isHeld_of_request hbefore hk
      · subst hid
        cases h.waits call hm hser
    | resumes K call hm => cases hm
    | drops task name K reading call hm' hf hcall ht =>
      rw [make, ht, (System.heeds_retire x.system K _).calls] at hm
      exact System.isHeld_of_request (System.mem_calls_withdraw.mp hm).1 hk

/-- A client that nobody holds is not held by anyone afterwards. -/
theorem unheld_make (hc : x.Custody) (hk : x.system.Knows id) (h : x.system.isHeld id = false) (m : Move) :
    (x.make m).system.isHeld id = false := by
  have hv := hc.orderly.valid
  have no : x.system.isHeld id ≠ true := by
    rw [h]
    simp
  refine Bool.eq_false_iff.mpr fun hy => no ?_
  have hc' := hc.make m
  -- Take whoever is said to hold the client afterwards, and find that it was held before: a handle, an
  -- entry of the registry or a pending request.
  rcases System.held_cases hc'.handles hc'.enrolled.nodup hy with
    ⟨name, hn⟩ | ⟨device, hr⟩ | ⟨call, hm, hk⟩
  · have same : System.SameHolders x.system (x.make m).system → x.system.isHeld id = true := by
      intro hs
      rw [hs.handles] at hn
      exact System.isHeld_of_handle hn
    cases m with
    | act action =>
      rcases holders_act_cases (x := x) action with
        ⟨s, name', new, hg⟩ | ⟨name', old, rfl, hf⟩ | ⟨device, old, rfl, hr⟩ | hs
      · have hp := provides_of_grants hv hg
        rw [act_of_grants hg, withSystem, (System.setHandle_parts s name' new).2, hp.handles,
          Directory.find?_insert] at hn
        split at hn
        · cases hn
          exact hp.source.resolve_right fun hnew => hnew hk
        · exact System.isHeld_of_handle hn
      · rw [show (x.make (.act (.drop name'))).system.handles = _ from (System.dropHandle_parts hf).2.2,
          Directory.find?_erase] at hn
        split at hn
        · cases hn
        · exact System.isHeld_of_handle hn
      · rw [show (x.make (.act (.remove device))).system.handles = _ from
          (System.removeClient_parts x.system device hr).2.2.2] at hn
        exact System.isHeld_of_handle hn
      · exact same hs
    | _ => exact same (holders_make hv rfl)
  · rcases registered_cases hv hr with hr | ⟨hnew, -⟩
    · exact System.isHeld_of_registered hr
    · exact absurd hk hnew
  · exact held_of_request hc m hm hk

/-- Only a request opens a session, and holds its client. -/
theorem opener?_of_unheld (hc : x.Custody) (h : x.system.isHeld id = false) (m : Move) :
    x.opener? id m = none := by
  have no : x.system.isHeld id ≠ true := by
    rw [h]
    simp
  cases ho : x.opener? id m with
  | none => rfl
  | some n =>
    unfold opener? at ho
    split at ho
    · split at ho
      · next hh => exact absurd (System.isHeld_of_handle hh) no
      · cases ho
    · split at ho
      · next K rest hr =>
        split at ho
        · next hopen =>
          obtain ⟨rfl, hopen⟩ := hopen
          unfold System.opens at hopen
          cases hcall : x.system.call? K with
          | none =>
            rw [hcall] at hopen
            cases hopen
          | some call =>
            rw [hcall] at hopen
            have hm := List.mem_of_find?_eq_some hcall
            -- A pending request would hold the client, and a call for the next entity opens nothing.
            cases hk : call.kind with
            | request => exact absurd (System.isHeld_of_request hm hk) no
            | next =>
              obtain ⟨token, hchunk⟩ := hc.sorted K.client call hm hk
              rw [Option.any_some, hchunk] at hopen
              cases hopen
        · cases ho
      · cases ho
    · cases ho

/-- No scope is in place without a holder. -/
theorem sealed_make (hc : x.Custody) (ht : x.Tuned) (h : ∀ id, x.system.Sealed id) (m : Move)
    (id : ClientId) : (x.make m).system.Sealed id := by
  cases hy : (x.make m).system.isHeld id with
  | true => exact .inl hy
  | false =>
    cases hx : x.system.isHeld id with
    | true =>
      obtain ⟨u, hd⟩ := departs hc ht m hx hy
      refine .inr ?_
      rw [show ((x.make m).system.client id).scope = (u.client id).scope.close.2 from
        congrArg Standing.scope hd.shuts.standing]
      exact Scope.current_close _
    | false =>
      have hcur := (h id).resolve_left (by rw [hx]; simp)
      refine .inr ?_
      rw [vacant_make hc.orderly.valid (opener?_of_unheld hc hx m) hcur]
      exact hcur

end Scenario

end P4Control
