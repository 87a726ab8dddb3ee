import LibVirtualGamepad.Driver.Cadence.Delay
import LibVirtualGamepad.Driver.PidClock.Undisturbed
import LibVirtualGamepad.Driver.Progress.Attended
import LibVirtualGamepad.Driver.SlotRun.Readiness

-- Which slots the worker finds a reader at: what a section, and what an act that
-- manages the slots, does to it.
namespace LibVirtualGamepad

open Interleaving

-- A Steam Controller whose next resend VHF would take.
def Slot.reads (slot : Slot) : Bool := slot.resends && slot.data.pump.ready

-- What of a slot's data the worker asks about.
structure SameReader (data data' : SlotData) : Prop where
  selectedProfile : data'.selectedProfile = data.selectedProfile
  haveLastInput : data'.haveLastInput = data.haveLastInput
  ready : data'.pump.ready = data.pump.ready

theorem SameReader.refl (data : SlotData) : SameReader data data := ⟨rfl, rfl, rfl⟩

theorem SameReader.of_feedback (data : SlotData) (feedback : SlotFeedback) :
    SameReader data { data with feedback := feedback } :=
  ⟨rfl, rfl, rfl⟩

theorem SameReader.reads {slot slot' : Slot} (h : SameReader slot.data slot'.data)
    (hstate : slot'.control.state = slot.control.state) : slot'.reads = slot.reads := by
  unfold Slot.reads Slot.resends
  rw [hstate, h.selectedProfile, h.haveLastInput, h.ready]

theorem reads_iff {slot : Slot} : slot.reads = true ↔ slot.control.state = .active ∧
    slot.data.selectedProfile.isSteamController = true ∧ slot.data.haveLastInput = true ∧
      slot.data.pump.ready = true := by
  simp only [Slot.reads, Slot.resends, Bool.and_eq_true, beq_iff_eq, and_assoc]

section Sections

variable {s : Section} {step : SlotStep} {data data' : SlotData}

theorem takeReport_keeps (data : SlotData) (now : UInt64) :
    (data.takeReport now).2.selectedProfile = data.selectedProfile ∧
      (data.takeReport now).2.haveLastInput = data.haveLastInput := by
  unfold SlotData.takeReport
  dsimp only
  split
  · exact ⟨rfl, rfl⟩
  · unfold SlotData.markSc26ReportTaken
    split <;> exact ⟨rfl, rfl⟩

theorem Queued.keeps (h : Queued step data data') :
    data'.selectedProfile = data.selectedProfile ∧ data'.haveLastInput = data.haveLastInput := by
  induction h with
  | same hsame => exact ⟨hsame.selectedProfile, hsame.haveLastInput⟩
  | enqueue _ report _ hsame ih =>
      exact ⟨hsame.selectedProfile.trans ih.1, hsame.haveLastInput.trans ih.2⟩
  | ready _ _ hsame ih =>
      exact ⟨hsame.selectedProfile.trans ih.1, hsame.haveLastInput.trans ih.2⟩

theorem Handles.keeps {base : SlotData} {r : StepResult} (h : Handles s step base r) :
    r.data.selectedProfile = base.selectedProfile ∧ r.data.haveLastInput = base.haveLastInput := by
  cases h with
  | nothing same submit next => exact ⟨same.selectedProfile, same.haveLastInput⟩
  | queues queued accepts submit next => exact queued.keeps
  | refused queued accepts submit next => exact queued.keeps
  | full queued accepts pump submit next => exact queued.keeps
  | takes mid queued accepts data submit next =>
      obtain ⟨hprofile, hinput⟩ := takeReport_keeps mid s.now
      rw [data]
      exact ⟨hprofile.trans queued.keeps.1, hinput.trans queued.keeps.2⟩

-- No section but that of a readiness callback brings a reader.
theorem Handles.unread {base : SlotData} {r : StepResult} (h : Handles s step base r)
    (hstep : step ≠ .ready) (hready : r.data.pump.ready = true) : base.pump.ready = true := by
  have hqueued {data : SlotData} (hqueued : Queued step base data) :
      data.pump.ready = base.pump.ready :=
    hqueued.grants.2.resolve_right hstep
  cases h with
  | nothing same submit next => exact same.ready ▸ hready
  | queues queued accepts submit next => exact hqueued queued ▸ hready
  | refused queued accepts submit next => exact hqueued queued ▸ hready
  | full queued accepts pump submit next => exact hqueued queued ▸ hready
  | takes mid queued accepts data submit next =>
      rw [data, (takeReport_lines mid s.now).1.ready] at hready
      rw [← hqueued queued]
      rcases ReportPump.take_cases mid.pump with ⟨-, hsame, -⟩ | ⟨report, -, hwas, -⟩
      · rwa [hsame] at hready
      · exact hwas

-- A report that is queued goes out at once when VHF can have one.
theorem unready_pumpReport {report : QueuedReport} {answers : Bool}
    (haccepts : s.acceptsVhfCallbacks = true) (hbytes : 2 ≤ report.bytes.length)
    (hkind : report.kind = .transition ∨ report.kind = .continuous) :
    (s.pumpReport (some report) answers data).data.pump.ready = false := by
  have hdata : (s.pumpReport (some report) answers data).data =
      ((data.enqueue report).2.takeReport s.now).2 := by
    unfold Section.pumpReport Section.pumpReportLocked
    rw [if_pos haccepts]
  rw [hdata, (takeReport_lines _ s.now).1.ready]
  rcases ReportPump.take_cases (data.enqueue report).2.pump with
    ⟨-, hsame, hempty⟩ | ⟨taken, -, -, hused, -⟩
  · rw [hsame]
    refine Bool.eq_false_iff.mpr fun hready => ?_
    have hqueues := hempty hready
    cases hlist : report.bytes with
    | nil =>
        rw [hlist] at hbytes
        exact absurd hbytes (by simp)
    | cons byte bytes =>
        have henqueue := ReportPump.queues_enqueue data.pump byte bytes report.reportId report.kind
        have hpump : (data.enqueue report).2.pump =
            (data.pump.enqueue (some (byte :: bytes)) report.reportId report.kind).2 := by
          rw [← hlist]
          rfl
        rw [hpump, henqueue] at hqueues
        obtain hkind | hkind := hkind <;> rw [hkind] at hqueues <;>
          simp [Queues.enqueue, Queues.empty] at hqueues
  · exact hused

theorem classify_kind (data : SlotData) (buttons : UInt32) (leftTrigger rightTrigger : UInt8) :
    (data.classify buttons leftTrigger rightTrigger).1 = .transition ∨
      (data.classify buttons leftTrigger rightTrigger).1 = .continuous := by
  simp only [SlotData.classify, ReportPump.classify]
  split
  · exact .inl rfl
  · exact .inr rfl

-- An input that a Steam Controller takes finds no report to wait for, while VHF may be
-- given reports.
theorem unready_input {owner : File} {request : InputStateRequest}
    (haccepts : s.acceptsVhfCallbacks = true) (hsteam : data.selectedProfile.isSteamController = true)
    (hactive : s.isActive = true) (howner : s.control.isOwnedBy owner = true) :
    (s.input owner request data).data.pump.ready = false := by
  have hstate : s.control.state = .active := by
    simp only [Section.isActive, Bool.and_eq_true, beq_iff_eq] at hactive
    exact hactive.1.2
  have hpad : data.selectedProfile.isPlaystation = false := by
    revert hsteam
    cases data.selectedProfile <;> simp [Profile.isSteamController, Profile.isPlaystation]
  unfold Section.input
  rw [if_neg (by simp [hstate, howner, hactive]), if_neg (by simp [hpad]), if_pos hsteam]
  exact unready_pumpReport haccepts (steam_sized _) (classify_kind _ _ _ _)

theorem input_kept {owner : File} {request : InputStateRequest}
    (h : s.isActive = false ∨ s.control.isOwnedBy owner = false) :
    (s.input owner request data).data = data := by
  unfold Section.input
  rw [if_pos]
  obtain h | h := h <;> simp [h]

-- Only an input for a slot in use is the first.
theorem haveLastInput_run (step : SlotStep) (hinput : (step.run s data).data.haveLastInput = true) :
    data.haveLastInput = true ∨ step.isInput = true ∧ s.isActive = true := by
  obtain ⟨base, hkept, hhandles⟩ := step.handles s data
  obtain rfl | ⟨owner, request, rfl, rfl⟩ := hkept
  · exact .inl (hhandles.keeps.2 ▸ hinput)
  · cases hactive : s.isActive with
    | true => exact .inr ⟨rfl, rfl⟩
    | false =>
        have hsame : ((SlotStep.input owner request).run s data).data = data :=
          input_kept (.inl hactive)
        rw [hsame] at hinput
        exact .inl hinput

-- A slot that has a reader behind a section had one before, or the section has the
-- timer armed; a stop that was announced keeps VHF from the reports.
theorem reads_run {data : SlotData} (step : SlotStep)
    (hresends : (step.run s data).data.selectedProfile.isSteamController = true ∧
      (step.run s data).data.haveLastInput = true ∧ (step.run s data).data.pump.ready = true) :
    data.haveLastInput = true ∧ data.pump.ready = true ∧
        data.selectedProfile.isSteamController = true ∨
      (s.flags.timerParked = true → (step.run s data).rearm = true) ∨
        s.isActive = true ∧ s.acceptsVhfCallbacks = false := by
  obtain ⟨hsteam, hinput, hready⟩ := hresends
  obtain ⟨base, hkept, hhandles⟩ := step.handles s data
  have hprofile : (step.run s data).data.selectedProfile = data.selectedProfile := by
    rw [hhandles.keeps.1]
    rcases hkept with rfl | ⟨owner, request, -, rfl⟩ <;> rfl
  by_cases hstep : step = .ready
  · subst hstep
    cases haccepts : s.acceptsVhfCallbacks with
    | false =>
        have hsame : (SlotStep.ready.run s data).data = data := by
          simp only [SlotStep.run, Section.ready, haccepts, Bool.false_eq_true, if_false]
        rw [hsame] at hsteam hinput hready
        exact .inl ⟨hinput, hready, hsteam⟩
    | true =>
        refine .inr (.inl fun hparked => ?_)
        simp only [SlotStep.run, Section.ready, haccepts, if_true] at hsteam hinput ⊢
        rw [hparked, hsteam, hinput]
        exact Bool.or_true _
  · obtain rfl | ⟨owner, request, rfl, rfl⟩ := hkept
    · exact .inl ⟨hhandles.keeps.2 ▸ hinput, hhandles.unread hstep hready, hprofile ▸ hsteam⟩
    · have hrefused (h : s.isActive = false ∨ s.control.isOwnedBy owner = false) :
          data.haveLastInput = true ∧ data.pump.ready = true ∧
            data.selectedProfile.isSteamController = true := by
        have hsame : ((SlotStep.input owner request).run s data).data = data := input_kept h
        rw [hsame] at hsteam hinput hready
        exact ⟨hinput, hready, hsteam⟩
      cases hactive : s.isActive with
      | false => exact .inl (hrefused (.inl hactive))
      | true =>
          cases howner : s.control.isOwnedBy owner with
          | false => exact .inl (hrefused (.inr howner))
          | true =>
              cases haccepts : s.acceptsVhfCallbacks with
              | false => exact .inr (.inr ⟨rfl, rfl⟩)
              | true =>
                  have hunready : ((SlotStep.input owner request).run s data).data.pump.ready =
                      false := unready_input haccepts (hprofile ▸ hsteam) hactive howner
                  rw [hunready] at hready
                  cases hready

end Sections

-- What an act that manages the slots makes of one of them.
inductive Managed (slot slot' : Slot) : Prop where
  | kept (state : slot'.control.state = slot.control.state) (data : SameReader slot.data slot'.data)
  | adopted (before : slot.control.state = .starting) (after : slot'.control.state = .active)
    (data : SameReader slot.data slot'.data)
  | fresh (state : slot'.control.state = .starting) (unused : slot'.data.haveLastInput = false)
  | out (state : ¬slot'.control.state.taken)

section Acts

variable {d d' : Device} {regs : Registers} {choice : Choice} {threads : List Task} {k : Operation}
  {a : Act} {o : Effect} {i : ControllerId}

theorem Managed.refl (slot : Slot) : Managed slot slot := .kept rfl (.refl _)

theorem Managed.of_eq (h : d'.controllers = d.controllers) :
    Managed (d.controllers i) (d'.controllers i) := by
  rw [h]
  exact .refl _

theorem not_taken_of {state : SlotState} (h : state = .empty ∨ state = .stopping ∨ state = .lost) :
    ¬state.taken := by
  rintro (htaken | htaken) <;> rw [htaken] at h <;> simp at h

theorem managed_setSlot {id : ControllerId} {slot : Slot} (h : Managed (d.controllers id) slot) :
    Managed (d.controllers i) ((d.setSlot id slot).controllers i) := by
  by_cases hi : i = id
  · rw [hi, setSlot_controllers_self]
    exact h
  · rw [setSlot_controllers_of_ne hi]
    exact .refl _

theorem managed_resetSlot (id : ControllerId) :
    Managed (d.controllers i) ((d.resetSlot id).controllers i) :=
  managed_setSlot (.out (not_taken_of (.inl rfl)))

theorem managed_create {id : ControllerId} {owner : File} {profile : Profile} (act : CreateAct) :
    Managed (d.controllers i) ((act.exec d regs choice id owner profile).shared.controllers i) := by
  cases act with
  | «begin» generation childPresent =>
    simp only [CreateAct.exec]
    repeat' split
    · exact .refl _
    · exact .refl _
    · exact managed_setSlot (.fresh rfl rfl)
  | publish handle => exact managed_setSlot (.kept rfl (.refl _))
  | adopt handle =>
    simp only [CreateAct.exec]
    split
    · rename_i hadopts
      simp only [Bool.and_eq_true, beq_iff_eq] at hadopts
      exact managed_setSlot (.adopted hadopts.2 rfl (.refl _))
    · rw [clearFeedbackPending_setControl]
      exact managed_setSlot (.out (not_taken_of (.inr (.inl rfl))))
  | release =>
    simp only [CreateAct.exec, Device.effect, Device.releaseStartingSlot]
    split
    · exact managed_resetSlot id
    · exact .refl _
  | check | enumerate _ | targetOpened | readFile | vhfCreate | start _ =>
    simp only [CreateAct.exec]
    repeat' split
    all_goals exact .refl _

theorem managed_destroy {id : ControllerId} {owner : File} (act : DestroyAct) :
    Managed (d.controllers i) ((act.exec d regs id owner).shared.controllers i) := by
  have hstopping : ¬SlotState.stopping.taken := not_taken_of (.inr (.inl rfl))
  cases act with
  | check =>
    simp only [DestroyAct.exec]
    repeat' split
    all_goals exact .refl _
  | detach =>
    simp only [DestroyAct.exec]
    split
    · exact .refl _
    split
    · exact managed_setSlot (.out hstopping)
    split
    · exact managed_resetSlot id
    · rw [discardFeedback_setControl]
      exact managed_setSlot (.out hstopping)
  | finish =>
    simp only [DestroyAct.exec]
    split
    · exact managed_resetSlot id
    · exact .refl _

theorem managed_power (act : PowerAct) :
    Managed (d.controllers i) ((act.exec d regs).shared.controllers i) := by
  have hadmission : d.stopTimer.stopKeyboardMouseAdmission.controllers = d.controllers :=
    only_stopAdmission.controllers
  have hstopping : ¬SlotState.stopping.taken := not_taken_of (.inr (.inl rfl))
  cases act with
  | stopMark forgetTarget =>
    show Managed _ (d.stopTimer.stopKeyboardMouseAdmission.controllers i).stopped
    rw [hadmission]
    unfold Slot.stopped
    dsimp only
    split
    · exact .out hstopping
    · exact .out hstopping
    · exact .out (not_taken_of (.inl rfl))
    · exact .kept rfl (.of_feedback _ _)
    · exact .kept rfl (.of_feedback _ _)
  | stopCollect forgetTarget =>
    show Managed _ (d.controllers i).detached
    unfold Slot.detached
    split <;> exact .kept rfl (.refl _)
  | stopRelease id => exact managed_resetSlot id
  | downMark =>
    show Managed _ ((d.stopTimer.stopKeyboardMouseAdmission.controllers i).takenDown _)
    rw [hadmission]
    unfold Slot.takenDown
    split
    · exact .out hstopping
    · exact .refl _
  | downDetach handles =>
    show Managed _ ((d.controllers i).unpublished _)
    unfold Slot.unpublished
    split <;> exact .kept rfl (.refl _)
  | downFinish handles =>
    show Managed _ ((d.controllers i).lostAfterDelete _)
    unfold Slot.lostAfterDelete
    split
    · exact .out (not_taken_of (.inr (.inr rfl)))
    · exact .refl _
  | stopIntent | downIntent | prepare | d0Entry | releaseTarget => exact .refl _

theorem managed_after (hmanages : a.manages = true) (h : a.exec threads d k regs choice = some o) :
    Managed (d.controllers i) (o.shared.controllers i) := by
  cases a with
  | create id owner profile act =>
    cases h
    exact managed_create act
  | destroy id owner act =>
    cases h
    exact managed_destroy act
  | power act =>
    cases h
    exact managed_power act
  | keyboardMouse act => exact .of_eq (keyboardMouse_only h).1.controllers
  | _ => cases hmanages

-- The slots behind a section: its own with the section's data, the others as before.
theorem afterSection_slot (id : ControllerId) (r : StepResult) (now : UInt64) :
    i = id ∧ ((d.afterSection id r now).controllers i).data = r.data ∨
      i ≠ id ∧ (d.afterSection id r now).controllers i = d.controllers i := by
  obtain ⟨-, hcontrollers, -, -⟩ := afterSection_eq d id r now
  rw [hcontrollers]
  unfold Device.applySection
  by_cases hi : i = id
  · refine .inl ⟨hi, ?_⟩
    rw [hi, setSlot_controllers_self]
  · exact .inr ⟨hi, setSlot_controllers_of_ne hi⟩

theorem tick_slots (now : UInt64) (i : ControllerId) :
    ((d.keepaliveTick now).controllers i).data = (d.keepaliveResult now i).data := by
  unfold Device.keepaliveTick
  dsimp only
  split
  · rfl
  · split
    · rw [arm_controllers]
      rfl
    · rfl

end Acts

end LibVirtualGamepad
