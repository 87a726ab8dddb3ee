import LibVirtualGamepad.Driver.Cadence.Readers

-- What each act does with the keep-alive's timer and its flags, and who may start a
-- worker or wait for the timer.
namespace LibVirtualGamepad

open Interleaving

-- The timer is set, or has fired and nobody has seen it.
def Device.timerSet (d : Device) : Prop :=
  d.keepalive.due.isSome = true ∨ d.keepalive.signalled = true

-- The steps of a start and the worker's loop.
def Act.works : Act → Bool
  | .keepalive .publishStart | .keepalive .createWorker => true
  | .keepalive .wait | .keepalive .tick => true
  | _ => false

-- The acts that may change the timer or its flags.
def Act.paces : Act → Bool
  | .slot _ _ | .keepalive _ => true
  | a => a.takesOver

section Acts

variable {d d' : Device} {regs : Registers} {choice : Choice} {threads : List Task} {k : Operation}
  {a : Act} {o : Effect}

theorem wants_of_start {s : Section} {step : SlotStep} {data : SlotData}
    (h : (step.run s data).startKeepalive = true) :
    step.isInput = true ∧ s.wantsKeepalive = true := by
  have hinput : step.isInput = true := by
    cases hno : step.isInput with
    | true => rfl
    | false =>
      rw [(descends_run hno).calm] at h
      cases h
  refine ⟨hinput, ?_⟩
  cases step with
  | input owner request =>
    simp only [SlotStep.run, Section.input] at h
    repeat' split at h
    all_goals first | exact h | cases h
  | _ => cases hinput

theorem keepalive_same (hquiet : a.paces = false) (h : a.exec threads d k regs choice = some o) :
    o.shared.keepalive = d.keepalive := by
  cases a with
  | slot id step | keepalive act => cases hquiet
  | create id owner profile act =>
    cases h
    exact (create_only act).keepalive
  | destroy id owner act =>
    cases h
    exact (destroy_only act).keepalive
  | keyboardMouse act => exact (keyboardMouse_only h).1.keepalive
  | power act =>
    cases h
    cases act with
    | stopMark _ | downMark => cases hquiet
    | _ => rfl
  | lockLifetime | waitForSubmits id | deleteEnd handle =>
    simp only [Act.exec] at h
    split at h <;> cases h
    rfl
  | target act =>
    cases h
    cases act <;> simp only [TargetAct.exec] <;> (repeat' split) <;> rfl
  | _ =>
    cases h
    rfl

theorem keepalive_mark (hover : a.takesOver = true) (h : a.exec threads d k regs choice = some o) :
    o.shared.keepalive = { d.keepalive with running := false } := by
  cases a with
  | power act =>
    cases h
    cases act with
    | stopMark _ | downMark => exact (only_stopAdmission (d := d.stopTimer)).keepalive
    | _ => cases hover
  | _ => cases hover

-- A section arms the timer when it is asked to and a worker runs.
theorem keepalive_section (id : ControllerId) (r : StepResult) (now : UInt64) :
    (d.afterSection id r now).keepalive =
        { d.keepalive with running := d.keepalive.running || r.startKeepalive } ∧
      (r.rearm && (d.keepalive.timer && (d.keepalive.running || r.startKeepalive))) = false ∨
    ∃ delay, (d.afterSection id r now).keepalive =
      { d.keepalive with
        running := true
        parked := false
        due := some delay
        signalled := false } := by
  have hstarted : (if r.startKeepalive then (d.applySection id r).setRunning true
      else d.applySection id r).keepalive =
        { d.keepalive with running := d.keepalive.running || r.startKeepalive } := by
    cases r.startKeepalive with
    | true =>
      rw [Bool.or_true]
      rfl
    | false =>
      rw [Bool.or_false]
      rfl
  unfold Device.afterSection
  dsimp only
  generalize (if r.startKeepalive then (d.applySection id r).setRunning true
      else d.applySection id r) = mid at hstarted ⊢
  cases hrearm : r.rearm with
  | false =>
    rw [if_neg (by simp)]
    exact .inl ⟨hstarted, rfl⟩
  | true =>
    rw [if_pos rfl, Bool.true_and]
    cases hguard : mid.keepalive.timer && mid.keepalive.running with
    | false =>
      rw [arm_due_kept now hguard]
      refine .inl ⟨hstarted, ?_⟩
      rw [hstarted] at hguard
      exact hguard
    | true =>
      refine .inr ⟨mid.earliestUs now, ?_⟩
      rw [arm_keepalive now hguard, hstarted]
      rw [hstarted, Bool.and_eq_true] at hguard
      have hrunning : (d.keepalive.running || r.startKeepalive) = true := hguard.2
      simp only [hrunning]

-- A tick ends the worker, parks it or arms the timer.
inductive TickKeeps (d : Device) (now : UInt64) (keepalive : Keepalive) : Prop where
  | ended (idle : d.anyActive now = false) (after : keepalive = { d.keepalive with running := false })
  | parked (idle : d.anyReady now = false) (active : d.anyActive now = true)
    (after : keepalive = { d.keepalive with parked := true })
  | stopped (stopped : (d.keepalive.timer && d.keepalive.running) = false)
    (after : keepalive = d.keepalive)
  | armed (delay : UInt64) (after : keepalive =
      { d.keepalive with
        parked := false
        due := some delay
        signalled := false })

theorem keepalive_tick (now : UInt64) : TickKeeps d now (d.keepaliveTick now).keepalive := by
  unfold Device.keepaliveTick
  dsimp only
  split
  · rename_i hidle
    rw [Bool.not_eq_true'] at hidle
    exact .ended hidle rfl
  rename_i hactive
  rw [Bool.not_eq_true', Bool.not_eq_false] at hactive
  split
  · cases hguard : d.keepalive.timer && d.keepalive.running with
    | false =>
      rw [arm_due_kept (d := d.keepaliveSlots now) now hguard]
      exact .stopped hguard rfl
    | true =>
      exact .armed _ (arm_keepalive (d := d.keepaliveSlots now) now hguard)
  · rename_i hready
    exact .parked (Bool.eq_false_iff.mpr hready) hactive rfl

-- Whether there is a timer is settled when the device is added.
theorem timer_after (h : a.exec threads d k regs choice = some o) :
    o.shared.keepalive.timer = d.keepalive.timer := by
  cases hpaces : a.paces with
  | false => rw [keepalive_same hpaces h]
  | true =>
    cases a with
    | slot id step =>
      cases h
      show (d.afterSection id _ choice.now).keepalive.timer = _
      obtain ⟨hsame, -⟩ | ⟨delay, hsame⟩ := keepalive_section (d := d) id _ choice.now
      <;> rw [hsame]
    | keepalive act =>
      cases act with
      | tick =>
        cases h
        show (d.keepaliveTick choice.now).keepalive.timer = _
        cases keepalive_tick (d := d) choice.now with
        | ended _ after | parked _ _ after | stopped _ after | armed _ after => rw [after]
      | _ =>
        simp only [Act.exec, KeepaliveAct.exec] at h
        repeat' split at h
        all_goals cases h
        all_goals rfl
    | power act => rw [keepalive_mark hpaces h]
    | _ => cases hpaces

-- A worker runs from an input's section or its publication on.
theorem running_after (h : a.exec threads d k regs choice = some o)
    (hrunning : o.shared.keepalive.running = true) : d.keepalive.running = true ∨
      a = .keepalive .publishStart ∨ d.keepalive.timer = true ∧ ∃ id step, a = .slot id step ∧
        (step.run (d.sectionOf id choice.now) (d.controllers id).data).startKeepalive = true := by
  cases hpaces : a.paces with
  | false => exact .inl (keepalive_same hpaces h ▸ hrunning)
  | true =>
    cases a with
    | slot id step =>
      cases hstart : (step.run (d.sectionOf id choice.now) (d.controllers id).data).startKeepalive with
      | true =>
        have hwants := (wants_of_start hstart).2
        simp only [Section.wantsKeepalive, Bool.and_eq_true] at hwants
        exact .inr (.inr ⟨hwants.1, id, step, rfl, hstart⟩)
      | false =>
        cases h
        have hsame := (sameWorker_section (d := d) id _ choice.now hstart).running
        exact .inl (hsame ▸ hrunning)
    | keepalive act =>
      cases act with
      | publishStart => exact .inr (.inl rfl)
      | tick =>
        cases h
        left
        have hafter : (d.keepaliveTick choice.now).keepalive.running = true := hrunning
        cases keepalive_tick (d := d) choice.now with
        | ended _ after =>
          rw [after] at hafter
          cases hafter
        | parked _ _ after | stopped _ after | armed _ after =>
          rw [after] at hafter
          exact hafter
      | _ =>
        left
        simp only [Act.exec, KeepaliveAct.exec] at h
        repeat' split at h
        all_goals cases h
        all_goals first | exact hrunning | cases hrunning
    | power act =>
      rw [keepalive_mark hpaces h] at hrunning
      cases hrunning
    | _ => cases hpaces

-- Only a cancelled timer, or one whose signal is taken, stops being set.
theorem timerSet_after (hcancel : a ≠ .keepalive .cancel) (hwait : a ≠ .keepalive .wait)
    (h : a.exec threads d k regs choice = some o) (hset : d.timerSet) : o.shared.timerSet := by
  have hsame {keepalive : Keepalive} (hafter : o.shared.keepalive = keepalive)
      (hdue : keepalive.due = d.keepalive.due) (hsignal : keepalive.signalled = d.keepalive.signalled) :
      o.shared.timerSet := by
    unfold Device.timerSet
    rw [hafter, hdue, hsignal]
    exact hset
  have harmed {keepalive : Keepalive} {delay : UInt64} (hafter : o.shared.keepalive = keepalive)
      (hdue : keepalive.due = some delay) : o.shared.timerSet := by
    left
    rw [hafter, hdue]
    rfl
  cases hpaces : a.paces with
  | false => exact hsame (keepalive_same hpaces h) rfl rfl
  | true =>
    cases a with
    | slot id step =>
      cases h
      obtain ⟨hafter, -⟩ | ⟨delay, hafter⟩ := keepalive_section (d := d) id
        (step.run (d.sectionOf id choice.now) (d.controllers id).data) choice.now
      · exact hsame hafter rfl rfl
      · exact harmed hafter rfl
    | keepalive act =>
      cases act with
      | cancel => exact absurd rfl hcancel
      | wait => exact absurd rfl hwait
      | tick =>
        cases h
        cases keepalive_tick (d := d) choice.now with
        | ended _ after | parked _ _ after | stopped _ after => exact hsame after rfl rfl
        | armed delay after => exact harmed after rfl
      | armFirst =>
        simp only [Act.exec, KeepaliveAct.exec] at h
        split at h <;> cases h
        · exact harmed rfl rfl
        · exact hset
      | _ =>
        simp only [Act.exec, KeepaliveAct.exec] at h
        repeat' split at h
        all_goals cases h
        all_goals exact hset
    | power act => exact hsame (keepalive_mark hpaces h) rfl rfl
    | _ => cases hpaces

theorem powered_before (ha : a.announces = false) (h : a.exec threads d k regs choice = some o)
    (hpowered : o.shared.powered = false) : d.powered = false := by
  cases hmanages : a.manages with
  | false => exact (Act.control_of_not_manages hmanages h).powered ▸ hpowered
  | true =>
    cases a with
    | create id owner profile act =>
      cases h
      exact (create_only act).powered ▸ hpowered
    | destroy id owner act =>
      cases h
      exact (destroy_only act).powered ▸ hpowered
    | keyboardMouse act => exact (keyboardMouse_only h).1.powered ▸ hpowered
    | power act =>
      cases h
      cases act with
      | stopIntent | downIntent => cases ha
      | stopMark _ | downMark => exact (only_stopAdmission (d := d.stopTimer)).powered ▸ hpowered
      | d0Entry => cases hpowered
      | _ => exact hpowered
    | _ => cases hmanages

-- A transition that takes over leaves no slot in use.
theorem inactive_after_mark (hshown : d.Shown) (hover : a.takesOver = true)
    (h : a.exec threads d k regs choice = some o) (i : ControllerId) :
    (o.shared.controllers i).control.state ≠ .active := by
  have hadmission : d.stopTimer.stopKeyboardMouseAdmission.controllers = d.controllers :=
    only_stopAdmission.controllers
  cases a with
  | power act =>
    cases h
    cases act with
    | stopMark forgetTarget =>
      show (d.stopTimer.stopKeyboardMouseAdmission.controllers i).stopped.control.state ≠ .active
      rw [hadmission]
      unfold Slot.stopped
      dsimp only
      split
      · simp
      · simp
      · simp [Slot.reset]
      · rename_i hempty
        simp [hempty]
      · rename_i hstopping
        simp [hstopping]
    | downMark =>
      show ((d.stopTimer.stopKeyboardMouseAdmission.controllers i).takenDown
        (d.controllers i).poweredDown.isSome).control.state ≠ .active
      rw [hadmission]
      unfold Slot.takenDown Slot.poweredDown
      by_cases hactive : (d.controllers i).control.state = .active
      · rw [if_pos (by simp [hactive, hshown i hactive])]
        simp
      · rw [if_neg (by simp [hactive])]
        exact hactive
    | _ => cases hover
  | _ => cases hover

-- The data of a slot changes in its own sections and in a tick.
theorem data_after (hmanages : a.manages = false) (h : a.exec threads d k regs choice = some o)
    (i : ControllerId) :
    (o.shared.controllers i).data = (d.controllers i).data ∨
      (∃ step, a = .slot i step ∧ (o.shared.controllers i).data =
        (step.run (d.sectionOf i choice.now) (d.controllers i).data).data) ∨
      a = .keepalive .tick ∧
        (o.shared.controllers i).data = (d.keepaliveResult choice.now i).data := by
  cases a with
  | slot id step =>
    cases h
    obtain ⟨rfl, hdata⟩ | ⟨hne, hsame⟩ := afterSection_slot (d := d) (i := i) id
      (step.run (d.sectionOf id choice.now) (d.controllers id).data) choice.now
    · exact .inr (.inl ⟨step, rfl, hdata⟩)
    · exact .inl (congrArg Slot.data hsame)
  | keepalive act =>
    cases act with
    | tick =>
      cases h
      exact .inr (.inr ⟨rfl, tick_slots choice.now i⟩)
    | _ =>
      left
      simp only [Act.exec, KeepaliveAct.exec] at h
      repeat' split at h
      all_goals cases h
      all_goals rfl
  | create _ _ _ _ | destroy _ _ _ | power _ | keyboardMouse _ => cases hmanages
  | submitLeave id handle answers =>
    left
    cases h
    by_cases hi : i = id
    · simp only [Device.effect, Device.setControl, hi, setSlot_controllers_self]
    · simp only [Device.effect, Device.setControl, setSlot_controllers_of_ne hi]
  | lockLifetime | waitForSubmits id | deleteEnd handle =>
    left
    simp only [Act.exec] at h
    split at h <;> cases h
    rfl
  | target act =>
    left
    cases h
    cases act <;> simp only [TargetAct.exec] <;> (repeat' split) <;> rfl
  | _ =>
    left
    cases h
    rfl

-- Who parks the worker, and who wakes it.
theorem parked_cases (h : a.exec threads d k regs choice = some o) :
    (o.shared.keepalive.parked = d.keepalive.parked ∧ a ≠ .keepalive .publishStart) ∨
      (o.shared.keepalive.parked = false ∧ (o.shared.timerSet ∨ a = .keepalive .publishStart)) ∨
      a = .keepalive .tick ∧ d.anyReady choice.now = false ∧ d.anyActive choice.now = true := by
  cases hpaces : a.paces with
  | false =>
    refine .inl ⟨by rw [keepalive_same hpaces h], ?_⟩
    rintro rfl
    cases hpaces
  | true =>
    cases a with
    | slot id step =>
      cases h
      obtain ⟨hafter, -⟩ | ⟨delay, hafter⟩ := keepalive_section (d := d) id
        (step.run (d.sectionOf id choice.now) (d.controllers id).data) choice.now
      · have hparked := congrArg Keepalive.parked hafter
        exact .inl ⟨hparked, by simp⟩
      · have hparked := congrArg Keepalive.parked hafter
        have hdue := congrArg (fun keepalive => keepalive.due.isSome) hafter
        exact .inr (.inl ⟨hparked, .inl (.inl hdue)⟩)
    | keepalive act =>
      cases act with
      | publishStart =>
        cases h
        exact .inr (.inl ⟨rfl, .inr rfl⟩)
      | tick =>
        cases h
        cases keepalive_tick (d := d) choice.now with
        | ended _ after | stopped _ after =>
          have hparked := congrArg Keepalive.parked after
          exact .inl ⟨hparked, by simp⟩
        | parked idle active _ => exact .inr (.inr ⟨rfl, idle, active⟩)
        | armed delay after =>
          have hparked := congrArg Keepalive.parked after
          have hdue := congrArg (fun keepalive => keepalive.due.isSome) after
          exact .inr (.inl ⟨hparked, .inl (.inl hdue)⟩)
      | _ =>
        left
        simp only [Act.exec, KeepaliveAct.exec] at h
        repeat' split at h
        all_goals cases h
        all_goals exact ⟨rfl, by simp⟩
    | power act =>
      refine .inl ⟨by rw [keepalive_mark hpaces h], by simp⟩
    | _ => cases hpaces

-- A slot that has a reader behind an act had one before it, or it is the one of the
-- act's section.
theorem reads_after (hunused : ∀ id, (d.controllers id).control.state = .starting →
      (d.controllers id).data.haveLastInput = false)
    (h : a.exec threads d k regs choice = some o) {i : ControllerId}
    (hreads : (o.shared.controllers i).reads = true) : (d.controllers i).reads = true ∨
      ∃ step, a = .slot i step ∧
        ((d.keepalive.parked = true →
            (step.run (d.sectionOf i choice.now) (d.controllers i).data).rearm = true) ∨
          (d.sectionOf i choice.now).isActive = true ∧
            (d.sectionOf i choice.now).acceptsVhfCallbacks = false) := by
  obtain ⟨hactive, hsteam, hinput, hready⟩ := reads_iff.mp hreads
  cases hmanages : a.manages with
  | true =>
    left
    cases managed_after (i := i) hmanages h with
    | kept state data => exact data.reads state ▸ hreads
    | adopted before after data =>
      rw [data.haveLastInput, hunused i before] at hinput
      cases hinput
    | fresh state unused =>
      rw [unused] at hinput
      cases hinput
    | out state => exact absurd (.inl hactive) state
  | false =>
    have hstate := ((Act.control_of_not_manages hmanages h).lifecycle i).state
    rw [hstate] at hactive
    obtain hsame | ⟨step, rfl, hdata⟩ | ⟨rfl, hdata⟩ := data_after hmanages h i
    · rw [hsame] at hsteam hinput hready
      exact .inl (reads_iff.mpr ⟨hactive, hsteam, hinput, hready⟩)
    · rw [hdata] at hsteam hinput hready
      obtain ⟨hinput', hready', hsteam'⟩ | hrearm := reads_run (s := d.sectionOf i choice.now) step
        ⟨hsteam, hinput, hready⟩
      · exact .inl (reads_iff.mpr ⟨hactive, hsteam', hinput', hready'⟩)
      · exact .inr ⟨step, rfl, hrearm⟩
    · obtain ⟨base, hkept, hhandles⟩ := SlotStep.keepalive.handles (d.sectionOf i choice.now)
        (d.controllers i).data
      obtain rfl : base = (d.controllers i).data := by
        obtain hsame | ⟨owner, request, hstep, -⟩ := hkept
        · exact hsame
        · cases hstep
      rw [hdata] at hsteam hinput hready
      exact .inl (reads_iff.mpr ⟨hactive, hhandles.keeps.1 ▸ hsteam, hhandles.keeps.2 ▸ hinput,
        hhandles.unread (by simp) hready⟩)

theorem unused_after (hunused : ∀ id, (d.controllers id).control.state = .starting →
      (d.controllers id).data.haveLastInput = false)
    (h : a.exec threads d k regs choice = some o) {i : ControllerId}
    (hstarting : (o.shared.controllers i).control.state = .starting) :
    (o.shared.controllers i).data.haveLastInput = false := by
  cases hmanages : a.manages with
  | true =>
    cases managed_after (i := i) hmanages h with
    | kept state data => exact data.haveLastInput.trans (hunused i (state ▸ hstarting))
    | adopted before after data =>
      rw [after] at hstarting
      cases hstarting
    | fresh state unused => exact unused
    | out state => exact absurd (.inr hstarting) state
  | false =>
    rw [((Act.control_of_not_manages hmanages h).lifecycle i).state] at hstarting
    have hbefore := hunused i hstarting
    obtain hsame | ⟨step, -, hdata⟩ | ⟨-, hdata⟩ := data_after hmanages h i
    · rw [hsame]
      exact hbefore
    · rw [hdata]
      refine Bool.eq_false_iff.mpr fun hinput => ?_
      obtain hinput | ⟨-, hactive⟩ := haveLastInput_run (s := d.sectionOf i choice.now) step hinput
      · rw [hbefore] at hinput
        cases hinput
      · simp [Section.isActive, Device.sectionOf, hstarting] at hactive
    · rw [hdata]
      refine Bool.eq_false_iff.mpr fun hinput => ?_
      obtain hinput | ⟨hstep, -⟩ :=
        haveLastInput_run (s := d.sectionOf i choice.now) .keepalive hinput
      · rw [hbefore] at hinput
        cases hinput
      · cases hstep

end Acts

end LibVirtualGamepad
