import LibVirtualGamepad.Driver.Gate.KeyboardMouse

-- The power transitions: what they take over they stop, delete and let go.
namespace LibVirtualGamepad

open Interleaving

variable {k : Operation} {d : Device} {quiet : ControllerId → Handle → Prop}
  {m m₁ : Option Mode} {regs : Registers}

section Taken

variable {owners : ControllerId → Option File} {handles : ControllerId → Option Handle}
  {stage : Handle → Stage} {km : Phase}

theorem taken_set_keyboardMouse (φ : Phase) :
    (Mode.taken owners handles stage km).set .keyboardMouse φ =
      Mode.taken owners handles stage φ := by
  funext p
  cases p with
  | keyboardMouse => rw [Mode.set_same]; rfl
  | controller id => rw [Mode.set_of_ne (by simp)]; rfl

theorem taken_some {id : ControllerId} {handle : Handle} (h : handles id = some handle) :
    Mode.taken owners handles stage km (.controller id) = .busy (owners id) (stage handle) := by
  simp [Mode.taken, h]

theorem taken_none {id : ControllerId} (h : handles id = none) :
    Mode.taken owners handles stage km (.controller id) = .retired := by
  simp [Mode.taken, h]

-- The mode once the children of some slots have been deleted.
def Mode.deleted (M : Mode) (handles : ControllerId → Option Handle)
    (after : ControllerId → Phase) : List ControllerId → Mode
  | [] => M
  | id :: rest =>
    Mode.deleted (if (handles id).isSome then M.set (.controller id) (after id) else M) handles
      after rest

theorem deleted_of_not_mem {M : Mode} {after : ControllerId → Phase} {ids : List ControllerId}
    {p : Place} (h : ∀ id ∈ ids, p ≠ .controller id) : M.deleted handles after ids p = M p := by
  induction ids generalizing M with
  | nil => rfl
  | cons id rest ih =>
      have hp := h id (by simp)
      rw [Mode.deleted, ih fun i hi => h i (by simp [hi])]
      split
      · rw [Mode.set_of_ne hp]
      · rfl

theorem deleted_of_mem {M : Mode} {after : ControllerId → Phase} {ids : List ControllerId}
    {id : ControllerId} (hnodup : ids.Nodup) (h : id ∈ ids) :
    M.deleted handles after ids (.controller id) =
      if (handles id).isSome then after id else M (.controller id) := by
  induction ids generalizing M with
  | nil => simp at h
  | cons i rest ih =>
      obtain ⟨hni, hrest⟩ := List.nodup_cons.mp hnodup
      rw [Mode.deleted]
      by_cases hi : id = i
      · subst hi
        rw [deleted_of_not_mem fun j hj heq => hni (by rw [Place.controller.inj heq]; exact hj)]
        split
        · rw [Mode.set_same]
        · rfl
      · have hmem : id ∈ rest := by simpa [hi] using h
        rw [ih hrest hmem]
        split
        · rfl
        · split
          · rw [Mode.set_of_ne (by simpa using hi)]
          · rfl

-- Slot after slot: wait, delete, and what comes after each deletion.
theorem chain_deleteCollected_list {after : ControllerId → List Act} {φ : ControllerId → Phase}
    (hafter : ∀ (M : Mode) (id : ControllerId), M (.controller id) = .busy (owners id) .gone →
      Chain (Act.spec k) (after id) (some M) (some (M.set (.controller id) (φ id)))) :
    ∀ (ids : List ControllerId) (M : Mode), ids.Nodup →
      (∀ id ∈ ids, ∀ handle, handles id = some handle →
        M (.controller id) = .busy (owners id) (.detached handle)) →
      Chain (Act.spec k) (ids.flatMap fun id => match handles id with
        | some handle => deleteAfterSubmits id handle ++ after id
        | none => []) (some M) (some (M.deleted handles φ ids)) := by
  intro ids
  induction ids with
  | nil => exact fun _ _ _ => rfl
  | cons id rest ih =>
      intro M hnodup hM
      obtain ⟨hni, hrest⟩ := List.nodup_cons.mp hnodup
      rw [List.flatMap_cons, Mode.deleted]
      cases hid : handles id with
      | none =>
          have htail := ih M hrest fun i hi => hM i (by simp [hi])
          simpa [hid] using htail
      | some handle =>
          have hdetached := hM id (by simp) handle hid
          have hwait : Chain (Act.spec k) [.waitForSubmits id] (some M)
              (some (M.set (.controller id) (.busy (owners id) (.drained handle)))) :=
            .single ⟨M, _, handle, rfl, hdetached, rfl⟩
          have hdelete := chain_delete (k := k)
            (Mode.set_same M (.controller id) (.busy (owners id) (.drained handle)))
          rw [Mode.set_set] at hdelete
          have hlast := hafter _ id (Mode.set_same M (.controller id) (.busy (owners id) .gone))
          rw [Mode.set_set] at hlast
          have hhead := (hwait.append hdelete).append hlast
          have htail := ih (M.set (.controller id) (φ id)) hrest fun i hi handle' hi' => by
            have hne : i ≠ id := fun heq => hni (heq ▸ hi)
            rw [Mode.set_of_ne (by simpa using hne)]
            exact hM i (by simp [hi]) handle' hi'
          have hall := hhead.append htail
          simpa [hid, deleteAfterSubmits] using hall

-- All of them are deleted and left in the phase that `after` brings them to.
theorem chain_deleteCollected {after : ControllerId → List Act} {φ : ControllerId → Phase}
    (hafter : ∀ (M : Mode) (id : ControllerId), M (.controller id) = .busy (owners id) .gone →
      Chain (Act.spec k) (after id) (some M) (some (M.set (.controller id) (φ id)))) {N : Mode}
    (hN : ∀ id, N (.controller id) = if (handles id).isSome then φ id else .retired)
    (hkm : N .keyboardMouse = km) :
    Chain (Act.spec k) (deleteCollected handles after)
      (some (.taken owners handles .detached km)) (some N) := by
  have hchain : Chain (Act.spec k) (deleteCollected handles after)
      (some (.taken owners handles .detached km))
      (some ((Mode.taken owners handles .detached km).deleted handles φ
        (List.finRange maxControllers))) :=
    chain_deleteCollected_list hafter _ _ (List.nodup_finRange _) fun id _ handle h => taken_some h
  have heq : (Mode.taken owners handles .detached km).deleted handles φ
      (List.finRange maxControllers) = N := by
    funext p
    cases p with
    | keyboardMouse => rw [deleted_of_not_mem (by simp), hkm]; rfl
    | controller id =>
        rw [deleted_of_mem (List.nodup_finRange _) (List.mem_finRange id), hN id]
        cases h : handles id with
        | none => simp [taken_none h]
        | some handle => simp
  rw [heq] at hchain
  exact hchain

theorem deleteCollected_calm {after : ControllerId → List Act}
    (h : ∀ id, ∀ a ∈ after id, a.submission = none) :
    ∀ a ∈ deleteCollected handles after, a.submission = none := by
  intro a ha
  obtain ⟨id, _, hid⟩ := List.mem_flatMap.mp ha
  cases hh : handles id with
  | none => simp [hh] at hid
  | some handle =>
      simp only [hh, deleteAfterSubmits, List.mem_append, List.mem_cons, List.not_mem_nil,
        or_false] at hid
      rcases hid with (rfl | rfl | rfl) | hid
      · rfl
      · rfl
      · rfl
      · exact h id a hid

end Taken

section MapSlots

variable {d₁ : Device} {f : ControllerId → Slot → Slot}

theorem same_mapSlots (hc : d₁.controllers = d.controllers) (hch : d₁.children = d.children)
    (id : ControllerId) :
    Same (d.setSlot id (f id (d.controllers id))) (d₁.mapSlots f) (.controller id) := by
  refine ⟨?_, ?_, ?_, ?_, ?_⟩
  · simp [Device.stateAt, Device.mapSlots, hc]
  · simp [Device.vhfAt, Device.mapSlots, hc]
  · simp [Device.ownerAt, Device.mapSlots, hc]
  · exact hch ▸ Within.refl _ _
  · exact hch ▸ Within.refl _ _

theorem Moves.mapSlots {N : Mode} {next : List Act} (hgate : d₁.gateHeld = d.gateHeld)
    (hc : d₁.controllers = d.controllers) (hch : d₁.children = d.children)
    (hkm : PlaceOk d₁ quiet .keyboardMouse (N .keyboardMouse))
    (hslots : ∀ id, PlaceOk (d.setSlot id (f id (d.controllers id))) quiet (.controller id)
      (N (.controller id)))
    (hflight : ∀ id, (f id (d.controllers id)).control.submitsInFlight =
        (d.controllers id).control.submitsInFlight ∨
      ((f id (d.controllers id)).control.submitsInFlight = 0 ∧ ∀ h b, ¬ Live d id h b))
    (hcalm : ∀ a ∈ next, a.submission = none) (hchain : Chain (Act.spec k) next (some N) m₁) :
    Moves k d quiet N m₁ ((d₁.mapSlots f).effect regs next) where
  gate := hgate
  places := fun p => by
    cases p with
    | keyboardMouse => exact hkm.congr ⟨rfl, rfl, rfl, .refl _ _, .refl _ _⟩ fun _ _ hq => hq
    | controller id => exact (hslots id).congr (same_mapSlots hc hch id) fun _ _ hq => hq
  inFlight := fun id => by simpa [Device.effect, Device.mapSlots, hc] using hflight id
  live := fun id handle b hl => by
    obtain ⟨c, hcc, hrest⟩ := hl
    exact ⟨c, by simp [Device.effect, Device.mapSlots, hch, hcc], hrest⟩
  calm := hcalm
  chain := hchain
  spawn := rfl

end MapSlots

-- What the slots show when a transition comes to them: the active ones are taken.
section Mark

def handlesOf (d : Device) (id : ControllerId) : Option Handle := (d.controllers id).poweredDown
def ownersOf (d : Device) (id : ControllerId) : Option File := (d.controllers id).control.owner

variable {id : ControllerId} {slot : Slot}

theorem handlesOf_cases (h : Settled d (.controller id)) :
    (handlesOf d id = none ∧ Retired d (.controller id)) ∨
      ∃ handle, handlesOf d id = some handle ∧ Stands d (.controller id) (.active handle) := by
  rcases h with h | ⟨handle, h⟩
  · refine .inl ⟨?_, h⟩
    obtain ⟨state, hstate, hs⟩ := h
    have hs' : (d.controllers id).control.state = state := hs.state
    rcases hstate with rfl | rfl <;> simp [handlesOf, Slot.poweredDown, hs']
  · refine .inr ⟨handle, ?_, h⟩
    have hstate : (d.controllers id).control.state = .active := h.state
    have hvhf : (d.controllers id).control.vhf = some handle := h.vhf
    simp [handlesOf, Slot.poweredDown, hstate, hvhf]

-- An active slot is stopped, one at rest stays at rest.
theorem placeOk_mark (h : Settled d (.controller id))
    (hactive : ∀ handle, handlesOf d id = some handle → slot.control.state = .stopping ∧
      slot.control.vhf = some handle ∧ slot.control.owner = (d.controllers id).control.owner)
    (hrest : handlesOf d id = none → Retired d (.controller id) →
      (slot.control.state = .empty ∨ slot.control.state = .lost) ∧ slot.control.vhf = none)
    {km : Phase} :
    PlaceOk (d.setSlot id slot) quiet (.controller id)
      (Mode.taken (ownersOf d) (handlesOf d) .stopped km (.controller id)) := by
  rcases handlesOf_cases h with ⟨hnone, hretired⟩ | ⟨handle, hsome, hstands⟩
  · rw [taken_none hnone]
    obtain ⟨hstate, hvhf⟩ := hrest hnone hretired
    obtain ⟨state, _, hs⟩ := hretired
    exact retired_setSlot hs rfl rfl hstate hvhf
  · rw [taken_some hsome]
    obtain ⟨hstate, hvhf, howner⟩ := hactive handle hsome
    exact placeOk_setSlot hstands howner hstate hvhf rfl rfl (by simp [Stage.quiet])

theorem state_of_handlesOf {handle : Handle} (h : handlesOf d id = some handle) :
    (d.controllers id).control.state = .active ∧ (d.controllers id).control.vhf = some handle := by
  unfold handlesOf Slot.poweredDown at h
  split at h
  · rename_i hstate
    exact ⟨by simpa using hstate, h⟩
  · simp at h

theorem stopTimer_stop_eq : d.stopTimer.stopKeyboardMouseAdmission.controllers = d.controllers ∧
    d.stopTimer.stopKeyboardMouseAdmission.children = d.children ∧
    d.stopTimer.stopKeyboardMouseAdmission.gateHeld = d.gateHeld := by
  obtain ⟨hc, hch, hg⟩ := stopKeyboardMouseAdmission_eq (d := d.stopTimer)
  exact ⟨hc, hch, hg⟩

theorem stopTimer_stopped (h : Settled d .keyboardMouse) : ∃ φ : Phase, φ.stopped ∧
    PlaceOk d.stopTimer.stopKeyboardMouseAdmission quiet .keyboardMouse φ := by
  have hstoppable : Stoppable d.stopTimer := ⟨h.stoppable.children, h.stoppable.empty⟩
  exact stopKeyboardMouseAdmission_stopped hstoppable

theorem chain_stopKeepalive {m : Option Mode} : Chain (Act.spec k) stopKeepalive m m :=
  chain_keepalive fun a (ha : a ∈ [.signalStop, .join, .cancel]) => by
    revert a
    simp

theorem stopKeepalive_calm : ∀ a ∈ stopKeepalive, a.submission = none := by
  simp [stopKeepalive, Act.submission]

theorem stopMark_steps (forgetTarget : Bool) (hst : Standings d quiet (some .settled)) :
    Steps k d quiet (some .settled) (some .retired) ((PowerAct.stopMark forgetTarget).exec d regs) := by
  have hsettled : ∀ p, Settled d p := fun p => standings_some hst p
  obtain ⟨φ, hφ, hkm⟩ := @stopTimer_stopped d quiet (hsettled .keyboardMouse)
  obtain ⟨hc, hch, hg⟩ := stopTimer_stop_eq (d := d)
  refine .moves (N := .taken (ownersOf d) (handlesOf d) .stopped φ)
    (Moves.mapSlots hg hc hch hkm (fun id => ?_) (fun id => ?_) ?_ ?_)
  · refine placeOk_mark (hsettled _) (fun handle h => ?_) fun _ hretired => ?_
    · obtain ⟨hstate, hvhf⟩ := state_of_handlesOf h
      simp [Slot.stopped, hstate, hvhf]
    · obtain ⟨state, hstate, hs⟩ := hretired
      have hs' : (d.controllers id).control.state = state := hs.state
      have hv : (d.controllers id).control.vhf = none := hs.vhf
      rcases hstate with rfl | rfl <;> simp [Slot.stopped, hs', hv, Slot.reset]
  · rcases handlesOf_cases (hsettled (.controller id)) with ⟨_, state, hstate, hs⟩ | ⟨_, _, hs⟩
    · have hs' : (d.controllers id).control.state = state := hs.state
      rcases hstate with rfl | rfl
      · exact .inl (by simp [Slot.stopped, hs'])
      · exact .inr ⟨by simp [Slot.stopped, hs', Slot.reset], hs.children.not_live⟩
    · have hs' : (d.controllers id).control.state = .active := hs.state
      exact .inl (by simp [Slot.stopped, hs'])
  · simp [deleteStoppedKeyboardMouse, Act.submission]
  · have hdelete : Chain (Act.spec k) (deleteStoppedKeyboardMouse false)
        (some ((Mode.taken (ownersOf d) (handlesOf d) .stopped φ).set .keyboardMouse φ))
        (some ((Mode.taken (ownersOf d) (handlesOf d) .stopped φ).set .keyboardMouse .retired)) :=
      chain_deleteStopped hφ .retired trivial false
    rw [taken_set_keyboardMouse, taken_set_keyboardMouse] at hdelete
    exact hdelete.append (.single ⟨_, _, rfl, rfl⟩)

theorem downMark_steps (hst : Standings d quiet (some .settled)) :
    Steps k d quiet (some .settled) (some .retired) (PowerAct.downMark.exec d regs) := by
  have hsettled : ∀ p, Settled d p := fun p => standings_some hst p
  obtain ⟨φ, hφ, hkm⟩ := @stopTimer_stopped d quiet (hsettled .keyboardMouse)
  obtain ⟨hc, hch, hg⟩ := stopTimer_stop_eq (d := d)
  refine .moves (N := .taken (ownersOf d) (handlesOf d) .stopped φ)
    (Moves.mapSlots hg hc hch hkm (fun id => ?_) (fun id => ?_) ?_ ?_)
  · refine placeOk_mark (hsettled _) (fun handle h => ?_) fun hnone hretired => ?_
    · obtain ⟨hstate, hvhf⟩ := state_of_handlesOf h
      have htaken : (d.controllers id).poweredDown = some handle := h
      simp [Slot.takenDown, htaken, hvhf]
    · obtain ⟨state, hstate, hs⟩ := hretired
      have hs' : (d.controllers id).control.state = state := hs.state
      have hv : (d.controllers id).control.vhf = none := hs.vhf
      have htaken : (d.controllers id).poweredDown = none := hnone
      rcases hstate with rfl | rfl <;> simp [Slot.takenDown, htaken, hs', hv]
  · refine .inl ?_
    simp only [Slot.takenDown]
    split <;> rfl
  · intro a ha
    simp only [List.mem_append, List.mem_singleton] at ha
    rcases ha with (((ha | rfl) | ha) | ha) | rfl
    · exact deleteStopped_calm a ha
    · rfl
    · exact stopKeepalive_calm a ha
    · exact deleteCollected_calm (by simp) a ha
    · rfl
  · have hdelete : Chain (Act.spec k) (deleteStoppedKeyboardMouse true)
        (some ((Mode.taken (ownersOf d) (handlesOf d) .stopped φ).set .keyboardMouse φ))
        (some ((Mode.taken (ownersOf d) (handlesOf d) .stopped φ).set .keyboardMouse .retired)) :=
      chain_deleteStopped hφ .retired trivial true
    rw [taken_set_keyboardMouse, taken_set_keyboardMouse] at hdelete
    have hdetach : Chain (Act.spec k) [.power (.downDetach (handlesOf d))]
        (some (.taken (ownersOf d) (handlesOf d) .stopped .retired))
        (some (.taken (ownersOf d) (handlesOf d) .detached .retired)) := .single ⟨_, rfl, rfl⟩
    have hcollected : Chain (Act.spec k) (deleteCollected (handlesOf d) fun _ => [])
        (some (.taken (ownersOf d) (handlesOf d) .detached .retired))
        (some (.taken (ownersOf d) (handlesOf d) (fun _ => .gone) .retired)) := by
      refine chain_deleteCollected (φ := fun id => .busy (ownersOf d id) .gone) (fun M id hM => ?_)
        (fun id => ?_) rfl
      · rw [Mode.set_eq_self hM]
        rfl
      · cases h : handlesOf d id with
        | none => simp [taken_none h]
        | some handle => simp [taken_some h]
    have hfinish : Chain (Act.spec k) [.power (.downFinish (handlesOf d))]
        (some (.taken (ownersOf d) (handlesOf d) (fun _ => .gone) .retired)) (some .retired) :=
      .single ⟨_, rfl, rfl⟩
    exact (((hdelete.append hdetach).append chain_stopKeepalive).append hcollected).append hfinish

end Mark

section Taken

variable {owners : ControllerId → Option File} {handles : ControllerId → Option Handle}

-- A slot of the taken ones goes on to the next stage, the others stay at rest.
theorem placeOk_taken {stage stage' : Handle → Stage} {slot : Slot} {id : ControllerId}
    (hst : Standings d quiet (some (.taken owners handles stage .retired)))
    (htaken : ∀ handle, handles id = some handle → slot.control.owner = owners id ∧
      slot.control.state = (stage' handle).standing.state ∧
      slot.control.vhf = (stage' handle).standing.vhf ∧
      (stage handle).standing.live = (stage' handle).standing.live ∧
      (stage handle).standing.calls = (stage' handle).standing.calls ∧
      (stage' handle).quiet = none)
    (hrest : handles id = none → slot.control = (d.controllers id).control) :
    PlaceOk (d.setSlot id slot) quiet (.controller id)
      (Mode.taken owners handles stage' .retired (.controller id)) := by
  have hp := standings_some hst (.controller id)
  cases h : handles id with
  | none =>
      rw [taken_none h] at hp ⊢
      have hcontrol := hrest h
      obtain ⟨state, hstate, hs⟩ := hp
      have hs' : (d.controllers id).control.state = state := hs.state
      refine retired_setSlot hs rfl rfl ?_ ?_
      · rw [hcontrol, hs']
        exact hstate
      · rw [hcontrol]
        exact hs.vhf
  | some handle =>
      rw [taken_some h] at hp ⊢
      obtain ⟨howner, hstate, hvhf, hlive, hcalls, hquiet⟩ := htaken handle h
      obtain ⟨_, hs, _⟩ := hp
      exact placeOk_setSlot hs howner hstate hvhf hlive hcalls (by simp [hquiet])

-- Where the mode says taken, the slot is stopping and shows the handle.
theorem taken_stopped {id : ControllerId} {handle : Handle}
    (hst : Standings d quiet (some (.taken owners handles .stopped .retired)))
    (h : handles id = some handle) : (d.controllers id).control.owner = owners id ∧
      (d.controllers id).control.state = .stopping ∧
      (d.controllers id).control.vhf = some handle := by
  have hp := standings_some hst (.controller id)
  rw [taken_some h] at hp
  obtain ⟨howner, hs, _⟩ := hp
  exact ⟨howner, hs.state, hs.vhf⟩

theorem taken_retired {id : ControllerId} {stage : Handle → Stage}
    (hst : Standings d quiet (some (.taken owners handles stage .retired)))
    (h : handles id = none) : Retired d (.controller id) := by
  have hp := standings_some hst (.controller id)
  rwa [taken_none h] at hp

theorem retired_state {id : ControllerId} (h : Retired d (.controller id)) :
    ((d.controllers id).control.state = .empty ∨ (d.controllers id).control.state = .lost) ∧
      (d.controllers id).control.vhf = none := by
  obtain ⟨state, hstate, hs⟩ := h
  have hs' : (d.controllers id).control.state = state := hs.state
  exact ⟨by rw [hs']; exact hstate, hs.vhf⟩

theorem stopCollect_steps (forgetTarget : Bool)
    (hst : Standings d quiet (some (.taken owners handles .stopped .retired))) :
    Steps k d quiet (some (.taken owners handles .stopped .retired)) (some .retired)
      ((PowerAct.stopCollect forgetTarget).exec d regs) := by
  have hcollected : (fun id => (d.controllers id).collected) = handles := by
    funext id
    cases h : handles id with
    | none =>
        obtain ⟨hstate, _⟩ := retired_state (taken_retired hst h)
        rcases hstate with hs | hs <;> simp [Slot.collected, hs]
    | some handle =>
        obtain ⟨_, hs, hv⟩ := taken_stopped hst h
        simp [Slot.collected, hs, hv]
  simp only [PowerAct.exec, hcollected]
  refine .moves (N := .taken owners handles .detached .retired)
    (Moves.mapSlots rfl rfl rfl ?_ (fun id => ?_) (fun id => .inl ?_) ?_ ?_)
  · exact Retired.congr (standings_some hst .keyboardMouse) (.of_eq rfl rfl rfl)
  · refine placeOk_taken hst (fun handle h => ?_) fun h => ?_
    · obtain ⟨howner, hs, _⟩ := taken_stopped hst h
      simp [Slot.detached, hs, howner, Stage.standing, Stage.quiet]
    · obtain ⟨hstate, _⟩ := retired_state (taken_retired hst h)
      rcases hstate with hs | hs <;> simp [Slot.detached, hs]
  · simp only [Slot.detached]
    split <;> rfl
  · intro a ha
    rcases List.mem_append.mp ha with ha | ha
    · exact deleteCollected_calm (by simp [Act.submission]) a ha
    · exact stopKeepalive_calm a ha
  · have hdelete : Chain (Act.spec k) (deleteCollected handles fun id => [.power (.stopRelease id)])
        (some (.taken owners handles .detached .retired)) (some .retired) := by
      refine chain_deleteCollected (φ := fun _ => .retired) (fun M id hM => ?_) (fun id => ?_) rfl
      · exact .single ⟨M, _, rfl, hM, rfl⟩
      · simp [Mode.retired]
    exact hdelete.append chain_stopKeepalive

theorem downDetach_steps
    (hst : Standings d quiet (some (.taken owners handles .stopped .retired))) :
    Steps k d quiet (some (.taken owners handles .stopped .retired))
      (some (.taken owners handles .detached .retired)) ((PowerAct.downDetach handles).exec d regs) := by
  refine .moves (N := .taken owners handles .detached .retired) (Moves.mapSlots rfl rfl rfl
    (standings_some hst .keyboardMouse) (fun id => ?_) (fun id => .inl ?_) (by simp) rfl)
  · refine placeOk_taken hst (fun handle h => ?_) fun h => ?_
    · obtain ⟨howner, hs, _⟩ := taken_stopped hst h
      simp [Slot.unpublished, h, hs, howner, Stage.standing, Stage.quiet]
    · simp [Slot.unpublished, h]
  · simp only [Slot.unpublished]
    split <;> rfl

theorem downFinish_steps
    (hst : Standings d quiet (some (.taken owners handles (fun _ => .gone) .retired))) :
    Steps k d quiet (some (.taken owners handles (fun _ => .gone) .retired)) (some .retired)
      ((PowerAct.downFinish handles).exec d regs) := by
  have hgone : ∀ id handle, handles id = some handle →
      (d.controllers id).control.state = .stopping ∧
        ChildrenAt d.children (.controller id) none 0 := by
    intro id handle h
    have hp := standings_some hst (.controller id)
    rw [taken_some h] at hp
    exact ⟨hp.2.1.state, hp.2.1.children⟩
  refine .moves (N := .retired) (Moves.mapSlots rfl rfl rfl (standings_some hst .keyboardMouse)
    (fun id => ?_) (fun id => ?_) (by simp) rfl)
  · have hp := standings_some hst (.controller id)
    cases h : handles id with
    | none =>
        rw [taken_none h] at hp
        obtain ⟨state, hstate, hs⟩ := hp
        have hs' : (d.controllers id).control.state = state := hs.state
        refine retired_setSlot hs rfl rfl ?_ ?_
        · simp only [Slot.lostAfterDelete, Option.isSome_none, Bool.false_and, Bool.false_eq_true,
            if_false, hs']
          exact hstate
        · simp only [Slot.lostAfterDelete, Option.isSome_none, Bool.false_and, Bool.false_eq_true,
            if_false]
          exact hs.vhf
    | some handle =>
        rw [taken_some h] at hp
        obtain ⟨hstate, _⟩ := hgone id handle h
        refine retired_setSlot hp.2.1 rfl rfl (.inr ?_) ?_ <;>
          simp [Slot.lostAfterDelete, hstate, Slot.reset]
  · cases h : handles id with
    | none => exact .inl (by simp [Slot.lostAfterDelete])
    | some handle =>
        obtain ⟨hstate, hchildren⟩ := hgone id handle h
        exact .inr ⟨by simp [Slot.lostAfterDelete, hstate, Slot.reset], hchildren.not_live⟩

end Taken

theorem power_steps {act : PowerAct} (hspec : act.spec m m₁) (hst : Standings d quiet m) :
    Steps k d quiet m m₁ (act.exec d regs) := by
  cases act with
  | stopMark forgetTarget =>
      obtain ⟨rfl, rfl⟩ := hspec
      exact stopMark_steps forgetTarget hst
  | downMark =>
      obtain ⟨rfl, rfl⟩ := hspec
      exact downMark_steps hst
  | stopCollect forgetTarget =>
      obtain ⟨owners, handles, rfl, rfl⟩ := hspec
      exact stopCollect_steps forgetTarget hst
  | stopRelease id =>
      obtain ⟨M, owner, rfl, hM, rfl⟩ := hspec
      have hp := standings_some hst (.controller id)
      rw [hM] at hp
      exact reset_moves hst hp.2.1 rfl rfl (.inr rfl) rfl
  | downDetach handles =>
      obtain ⟨owners, rfl, rfl⟩ := hspec
      exact downDetach_steps hst
  | downFinish handles =>
      obtain ⟨owners, rfl, rfl⟩ := hspec
      exact downFinish_steps hst
  | prepare =>
      obtain rfl : m₁ = m := hspec
      exact .still (.of_untouched (.of_eq rfl rfl rfl rfl) (by simp [targetOpen, Act.submission])
        (.single rfl))
  | stopIntent | downIntent | d0Entry | releaseTarget =>
      obtain rfl : m₁ = m := hspec
      exact .still (.done (.of_eq rfl rfl rfl rfl))

end LibVirtualGamepad
