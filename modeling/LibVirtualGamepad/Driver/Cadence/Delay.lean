import LibVirtualGamepad.Driver.Frame

-- How far ahead the keep-alive's timer is set: no slot's traffic puts off the resend
-- of another slot.
namespace LibVirtualGamepad

open Interleaving

-- A Steam Controller in use that has received an input.
def Slot.resends (slot : Slot) : Bool :=
  slot.control.state == .active && slot.data.selectedProfile.isSteamController &&
    slot.data.haveLastInput

-- The microseconds that its last report leaves of the tick; a late one is due at once.
def Slot.untilResend (slot : Slot) (now : UInt64) : Nat :=
  max 1 (tickUs.toNat - (now.toNat - slot.data.sc26.lastReportUs.toNat))

-- A delay that is within the tick, and for no slot too long.
structure Device.OnTime (d : Device) (now delay : UInt64) : Prop where
  soon : 1 ≤ delay.toNat
  tick : delay.toNat ≤ 4000
  slots : ∀ id, (d.controllers id).resends = true →
    delay.toNat ≤ (d.controllers id).untilResend now

-- Whoever is active shows a handle.
def Device.Shown (d : Device) : Prop :=
  ∀ id, (d.controllers id).control.state = .active → (d.controllers id).control.vhf.isSome = true

section Delay

variable {d d' : Device} {now remaining : UInt64} {id : ControllerId}

theorem remainingUs_eq (hshown : d.Shown) (h : (d.controllers id).resends = true) :
    ∃ remaining, d.remainingUs now id = some remaining ∧
      remaining.toNat = (d.controllers id).untilResend now := by
  unfold Slot.resends at h
  have hactive : (d.controllers id).control.state = .active := by
    simp only [Bool.and_eq_true, beq_iff_eq] at h
    exact h.1.1
  unfold Device.remainingUs Slot.untilResend
  dsimp only
  simp only [Bool.and_eq_true, beq_iff_eq] at h
  rw [if_pos (by simp [h.1.1, h.1.2, h.2, hshown id hactive])]
  refine ⟨_, rfl, ?_⟩
  generalize (d.controllers id).data.sc26.lastReportUs = last
  have helapsed : (if now ≥ last then now - last else 0).toNat = now.toNat - last.toNat := by
    split
    · rename_i hle
      exact UInt64.toNat_sub_of_le _ _ hle
    · rename_i hlt
      have hlt' := UInt64.lt_iff_toNat_lt.mp (UInt64.not_le.mp hlt)
      rw [Nat.sub_eq_zero_of_le (Nat.le_of_lt hlt')]
      rfl
  generalize (if now ≥ last then now - last else 0) = elapsed at helapsed ⊢
  split
  · rename_i hlate
    have hlate' := UInt64.le_iff_toNat_le.mp hlate
    have hone : (1 : UInt64).toNat = 1 := rfl
    omega
  · rename_i hearly
    have hearly' := UInt64.not_le.mp hearly
    have hlt := UInt64.lt_iff_toNat_lt.mp hearly'
    rw [UInt64.toNat_sub_of_le _ _ (UInt64.le_of_lt hearly')]
    omega

theorem remainingUs_pos (h : d.remainingUs now id = some remaining) : 1 ≤ remaining := by
  simp only [Device.remainingUs] at h
  split at h
  · obtain rfl := Option.some.inj h
    generalize (if now ≥ (d.controllers id).data.sc26.lastReportUs then
      now - (d.controllers id).data.sc26.lastReportUs else 0) = elapsed
    split
    · exact UInt64.le_refl 1
    · rename_i hearly
      have hlt := UInt64.not_le.mp hearly
      rw [UInt64.le_iff_toNat_le, UInt64.toNat_sub_of_le _ _ (UInt64.le_of_lt hlt)]
      rw [UInt64.lt_iff_toNat_lt] at hlt
      exact Nat.sub_pos_of_lt hlt
  · cases h

theorem foldl_min_le (delays : List UInt64) (bound : UInt64) :
    delays.foldl min bound ≤ bound ∧ ∀ delay ∈ delays, delays.foldl min bound ≤ delay := by
  induction delays generalizing bound with
  | nil => exact ⟨UInt64.le_refl bound, by simp⟩
  | cons first delays ih =>
    obtain ⟨hbound, hdelays⟩ := ih (min bound first)
    refine ⟨UInt64.le_trans hbound Std.min_le_left, fun delay hmem => ?_⟩
    obtain rfl | hmem := List.mem_cons.mp hmem
    · exact UInt64.le_trans hbound Std.min_le_right
    · exact hdelays delay hmem

theorem le_foldl_min {low : UInt64} (delays : List UInt64) (bound : UInt64) (hbound : low ≤ bound)
    (h : ∀ delay ∈ delays, low ≤ delay) : low ≤ delays.foldl min bound := by
  induction delays generalizing bound with
  | nil => exact hbound
  | cons first delays ih =>
    refine ih (min bound first) (Std.le_min_iff.mpr ⟨hbound, h first (by simp)⟩) ?_
    exact fun delay hmem => h delay (List.mem_cons_of_mem first hmem)

theorem earliestUs_onTime (hshown : d.Shown) (now : UInt64) : d.OnTime now (d.earliestUs now) where
  soon := by
    have hlow : (1 : UInt64) ≤ d.earliestUs now := by
      refine le_foldl_min _ _ (by decide) fun delay hmem => ?_
      obtain ⟨id, -, hid⟩ := List.mem_filterMap.mp hmem
      exact remainingUs_pos hid
    exact UInt64.le_iff_toNat_le.mp hlow
  tick := UInt64.le_iff_toNat_le.mp (foldl_min_le _ tickUs).1
  slots id h := by
    have hexact : ∃ remaining, d.remainingUs now id = some remaining ∧
        remaining.toNat = (d.controllers id).untilResend now := remainingUs_eq hshown h
    obtain ⟨remaining, hremaining, heq⟩ := hexact
    rw [← heq]
    refine UInt64.le_iff_toNat_le.mp ((foldl_min_le _ tickUs).2 remaining ?_)
    exact List.mem_filterMap.mpr ⟨id, List.mem_finRange id, hremaining⟩

theorem arm_controllers (now : UInt64) : (d.arm now).controllers = d.controllers := by
  unfold Device.arm
  split <;> rfl

theorem shown_arm (now : UInt64) (h : (d.arm now).Shown) : d.Shown := by
  intro id
  rw [← arm_controllers now]
  exact h id

theorem arm_keepalive (now : UInt64) (h : (d.keepalive.timer && d.keepalive.running) = true) :
    (d.arm now).keepalive = { d.keepalive with
      parked := false
      due := some (d.earliestUs now)
      signalled := false } := by
  rw [Device.arm, if_neg]
  · rfl
  · rw [← Bool.not_and, h]
    exact Bool.false_ne_true

-- Every time the timer is armed it is armed in time for every slot.
theorem arm_due_set (hshown : d.Shown) (now : UInt64)
    (h : (d.keepalive.timer && d.keepalive.running) = true) :
    ∃ delay, (d.arm now).keepalive.due = some delay ∧ (d.arm now).OnTime now delay := by
  obtain ⟨hsoon, htick, hslots⟩ := earliestUs_onTime hshown now
  refine ⟨d.earliestUs now, by rw [arm_keepalive now h], hsoon, htick, fun id => ?_⟩
  rw [arm_controllers]
  exact hslots id

theorem arm_due_kept (now : UInt64) (h : (d.keepalive.timer && d.keepalive.running) = false) :
    d.arm now = d := by
  rw [Device.arm, if_pos]
  rw [← Bool.not_and, h]
  rfl

end Delay

section Acts

variable {d d' : Device} {regs : Registers} {choice : Choice} {threads : List Task} {k : Operation}
  {a : Act} {o : Effect}

-- An input sets the worker running in the section that arms the timer.
def Act.setsTimer (d : Device) (choice : Choice) : Act → Bool
  | .slot id step =>
    let r := step.run (d.sectionOf id choice.now) (d.controllers id).data
    r.rearm && (d.keepalive.timer && (r.startKeepalive || d.keepalive.running))
  | .keepalive .armFirst => choice.status.ok
  | .keepalive .tick =>
    d.anyActive choice.now && d.anyReady choice.now &&
      (d.keepalive.timer && d.keepalive.running)
  | _ => false

-- What an act leaves of the timer. The worker's first delay is one tick; every other
-- setting looks at all slots.
inductive TimerStep (a : Act) (choice : Choice) (d d' : Device) : Prop where
  | kept (quiet : a.setsTimer d choice = false) (due : d'.keepalive.due = d.keepalive.due)
  | disarmed (quiet : a.setsTimer d choice = false) (due : d'.keepalive.due = none)
  | started (act : a = .keepalive .armFirst) (due : d'.keepalive.due = some tickUs)
  | armed (delay : UInt64) (due : d'.keepalive.due = some delay)
    (onTime : d'.OnTime choice.now delay)

theorem timerStep_arm (hshown : (d'.arm choice.now).Shown)
    (hdue : d'.keepalive.due = d.keepalive.due)
    (hsets : a.setsTimer d choice = (d'.keepalive.timer && d'.keepalive.running)) :
    TimerStep a choice d (d'.arm choice.now) := by
  cases hguard : d'.keepalive.timer && d'.keepalive.running with
  | true =>
    obtain ⟨delay, hset, honTime⟩ := arm_due_set (shown_arm choice.now hshown) choice.now hguard
    exact .armed delay hset honTime
  | false =>
    rw [arm_due_kept choice.now hguard]
    exact .kept (hsets.trans hguard) hdue

theorem slot_timerStep (id : ControllerId) (step : SlotStep)
    (hshown : (step.exec d regs choice id).shared.Shown) :
    TimerStep (.slot id step) choice d (step.exec d regs choice id).shared := by
  simp only [SlotStep.exec, Device.effect] at hshown ⊢
  split
  · rename_i hrearm
    rw [if_pos hrearm] at hshown
    refine timerStep_arm hshown ?_ ?_
    · split <;> rfl
    · simp only [Act.setsTimer, hrearm, Bool.true_and]
      split
      · rename_i hstart
        rw [hstart]
        rfl
      · rename_i hstart
        rw [Bool.eq_false_iff.mpr hstart]
        rfl
  · rename_i hrearm
    refine .kept ?_ ?_
    · simp only [Act.setsTimer, Bool.eq_false_iff.mpr hrearm, Bool.false_and]
    · split <;> rfl

theorem power_timerStep (act : PowerAct) :
    TimerStep (.power act) choice d (act.exec d regs).shared := by
  refine .kept rfl ?_
  cases act with
  | stopMark forgetTarget | downMark =>
    have hsame := (only_stopAdmission (d := d.stopTimer)).keepalive
    exact (congrArg Keepalive.due hsame).trans rfl
  | _ => rfl

theorem keepalive_timerStep {act : KeepaliveAct} (h : act.exec threads d regs choice = some o)
    (hshown : o.shared.Shown) : TimerStep (.keepalive act) choice d o.shared := by
  cases act with
  | armFirst =>
    simp only [KeepaliveAct.exec] at h
    split at h <;> rename_i hok <;> cases h
    · exact .started rfl rfl
    · exact .kept (Bool.eq_false_iff.mpr hok) rfl
  | cancel =>
    cases h
    exact .disarmed rfl rfl
  | tick =>
    cases h
    simp only [Device.effect, Device.keepaliveTick] at hshown ⊢
    split
    · rename_i hidle
      rw [Bool.not_eq_true'] at hidle
      exact .kept (by simp only [Act.setsTimer, hidle, Bool.false_and]) rfl
    rename_i hactive
    rw [if_neg hactive] at hshown
    rw [Bool.not_eq_true', Bool.not_eq_false] at hactive
    split
    · rename_i hready
      rw [if_pos hready] at hshown
      refine timerStep_arm hshown rfl ?_
      simp only [Act.setsTimer, hactive, hready, Bool.true_and]
      rfl
    · rename_i hready
      exact .kept (by simp only [Act.setsTimer, hready, Bool.and_false, Bool.false_and]) rfl
  | _ =>
    simp only [KeepaliveAct.exec] at h
    repeat' split at h
    all_goals cases h
    all_goals exact .kept rfl rfl

theorem exec_timerStep (h : a.exec threads d k regs choice = some o) (hshown : o.shared.Shown) :
    TimerStep a choice d o.shared := by
  cases a with
  | slot id step =>
    cases h
    exact slot_timerStep id step hshown
  | create id owner profile act =>
    cases h
    exact .kept rfl (congrArg Keepalive.due (create_only act).keepalive)
  | destroy id owner act =>
    cases h
    exact .kept rfl (congrArg Keepalive.due (destroy_only act).keepalive)
  | power act =>
    cases h
    exact power_timerStep act
  | keepalive act => exact keepalive_timerStep h hshown
  | keyboardMouse act => exact .kept rfl (congrArg Keepalive.due (keyboardMouse_only h).1.keepalive)
  | lockLifetime | waitForSubmits id | deleteEnd handle =>
    simp only [Act.exec] at h
    split at h <;> cases h
    exact .kept rfl rfl
  | target act =>
    cases h
    refine .kept rfl ?_
    cases act <;> simp only [TargetAct.exec] <;> (repeat' split) <;> rfl
  | _ =>
    cases h
    exact .kept rfl rfl

end Acts

end LibVirtualGamepad
