import LibVirtualGamepad.Driver.Section

-- What a critical section does with the reports of its slot: it leaves them alone,
-- or queues some and takes one, or queues some for a section that is to follow.
namespace LibVirtualGamepad

-- An encoding of the input, in some state of the slot.
inductive StateReportOf (input : InputStateRequest) : SlotData.Encoded → Prop where
  | playstation (data : SlotData) (now : UInt64) :
    StateReportOf input (data.encodePlaystation input now).1
  | switch (data : SlotData) : StateReportOf input (data.encodeSwitch input).1
  | xbox (data : SlotData) : StateReportOf input (data.encodeXbox input)
  | generic (data : SlotData) : StateReportOf input (data.encodeGeneric input)
  | steam (data : SlotData) (now : UInt64) : StateReportOf input (data.encodeSteam input now).1

-- A report to be queued has a byte behind its id, and a state report carries the last
-- input, under the number it has.
structure Carried (data : SlotData) (report : QueuedReport) : Prop where
  sized : 2 ≤ report.bytes.length
  untagged : report.tag = none → report.kind.isState = false
  tagged : ∀ tag, report.tag = some tag → tag.number = data.history.inputs.length ∧
    ∃ encoded, StateReportOf data.lastInput encoded ∧ encoded.bytes = report.bytes ∧
      encoded.tag = tag

-- The pump's lines, the record, the last input and the stream's number are the same.
structure SameReports (data data' : SlotData) : Prop where
  ready : data'.pump.ready = data.pump.ready
  queues : data'.pump.queues = data.pump.queues
  inFlight : data'.pump.inFlight = data.pump.inFlight
  history : data'.history = data.history
  lastInput : data'.lastInput = data.lastInput
  haveLastInput : data'.haveLastInput = data.haveLastInput
  wireSequence : data'.sc26WireSequence = data.sc26WireSequence
  selectedProfile : data'.selectedProfile = data.selectedProfile

-- The report a section was called with.
def SlotStep.given : SlotStep → Option QueuedReport
  | .pumpReport report _ => report
  | _ => none

-- Reports queued one after the other in a section; only that of a readiness callback
-- notes VHF's readiness.
inductive Queued (step : SlotStep) : SlotData → SlotData → Prop where
  | same {data data' : SlotData} (h : SameReports data data') : Queued step data data'
  | enqueue {data mid data' : SlotData} (h : Queued step data mid) (report : QueuedReport)
      (carried : Carried mid report ∨ step.given = some report)
      (same : SameReports (mid.enqueue report).2 data') : Queued step data data'
  | ready {data mid data' : SlotData} (h : Queued step data mid) (grants : step = .ready)
      (same : SameReports mid.setReady data') : Queued step data data'

-- The sections that another one leads to; a report is encoded before they run.
def Prepared (data : SlotData) : SlotStep → Prop
  | .pumpReport (some report) _ => Carried data report
  | .pumpReport none _ | .applyUpdate _ | .carryMotion | .profileReport _ => True
  | _ => False

-- An input that the slot takes is kept before anything else.
def KeptFirst (step : SlotStep) (data base : SlotData) : Prop :=
  base = data ∨ ∃ owner request, step = .input owner request ∧ base = data.keepInput request

inductive Handles (s : Section) (step : SlotStep) (base : SlotData) (r : StepResult) :
    Prop where
  | nothing (same : SameReports base r.data) (submit : r.submit = false)
      (next : r.next = [] ∨ ∃ step, r.next = [step] ∧ Prepared r.data step)
  | queues (queued : Queued step base r.data) (accepts : s.acceptsVhfCallbacks = true)
      (submit : r.submit = false) (next : r.next = [.pumpReport none false])
  -- The slot stopped accepting callbacks.
  | refused (queued : Queued step base r.data) (accepts : s.acceptsVhfCallbacks = false)
      (submit : r.submit = false) (next : r.next = [])
  -- A reply that found no room.
  | full (queued : Queued step base r.data) (accepts : s.acceptsVhfCallbacks = true)
      (pump : r.data.pump = base.pump) (submit : r.submit = false) (next : r.next = [])
  | takes (mid : SlotData) (queued : Queued step base mid) (accepts : s.acceptsVhfCallbacks = true)
      (data : r.data = (mid.takeReport s.now).2)
      (submit : r.submit = (mid.takeReport s.now).1.isSome) (next : r.next = [])

section

variable {s : Section} {step : SlotStep} {data data' data'' : SlotData}

theorem SameReports.refl (data : SlotData) : SameReports data data :=
  ⟨rfl, rfl, rfl, rfl, rfl, rfl, rfl, rfl⟩

theorem SameReports.trans (h : SameReports data data') (h' : SameReports data' data'') :
    SameReports data data'' :=
  ⟨h'.ready.trans h.ready, h'.queues.trans h.queues, h'.inFlight.trans h.inFlight,
    h'.history.trans h.history, h'.lastInput.trans h.lastInput,
    h'.haveLastInput.trans h.haveLastInput, h'.wireSequence.trans h.wireSequence,
    h'.selectedProfile.trans h.selectedProfile⟩

theorem SameReports.of_eq (hp : data'.pump = data.pump) (hh : data'.history = data.history)
    (hl : data'.lastInput = data.lastInput) (hv : data'.haveLastInput = data.haveLastInput)
    (hw : data'.sc26WireSequence = data.sc26WireSequence)
    (hs : data'.selectedProfile = data.selectedProfile) : SameReports data data' := by
  refine ⟨?_, ?_, ?_, hh, hl, hv, hw, hs⟩ <;> rw [hp]

theorem Queued.trans (h : Queued step data data') (hsame : SameReports data' data'') :
    Queued step data data'' := by
  cases h with
  | same h => exact .same (h.trans hsame)
  | enqueue h report carried same => exact .enqueue h report carried (same.trans hsame)
  | ready h grants same => exact .ready h grants (same.trans hsame)

theorem Queued.after_same (hsame : SameReports data data') (h : Queued step data' data'') :
    Queued step data data'' := by
  induction h with
  | same h => exact .same (hsame.trans h)
  | enqueue _ report carried same ih => exact .enqueue ih report carried same
  | ready _ grants same ih => exact .ready ih grants same

theorem same_classify (data : SlotData) (buttons : UInt32) (leftTrigger rightTrigger : UInt8) :
    SameReports data (data.classify buttons leftTrigger rightTrigger).2 :=
  ⟨rfl, rfl, rfl, rfl, rfl, rfl, rfl, rfl⟩

theorem same_encodePlaystation (data : SlotData) (input : InputStateRequest) (now : UInt64) :
    SameReports data (data.encodePlaystation input now).2 := by
  unfold SlotData.encodePlaystation
  split <;> exact .of_eq rfl rfl rfl rfl rfl rfl

theorem same_encodeSwitch (data : SlotData) (input : InputStateRequest) :
    SameReports data (data.encodeSwitch input).2 := .of_eq rfl rfl rfl rfl rfl rfl

theorem same_encodeSteam (data : SlotData) (input : InputStateRequest) (now : UInt64) :
    SameReports data (data.encodeSteam input now).2 := .of_eq rfl rfl rfl rfl rfl rfl

-- Reports are carried as well by data with the same last input.
theorem Carried.of_eq {report : QueuedReport} (h : Carried data report)
    (hinputs : data'.history.inputs = data.history.inputs)
    (hlast : data'.lastInput = data.lastInput) : Carried data' report := by
  refine ⟨h.sized, h.untagged, fun tag htag => ?_⟩
  rw [hinputs, hlast]
  exact h.tagged tag htag

theorem Carried.congr {report : QueuedReport} (h : Carried data report)
    (hsame : SameReports data data') : Carried data' report :=
  h.of_eq (by rw [hsame.history]) hsame.lastInput

theorem carried_of_untagged {report : QueuedReport} (hsized : 2 ≤ report.bytes.length)
    (hkind : report.kind.isState = false) (h : report.tag = none) : Carried data report := by
  refine ⟨hsized, fun _ => hkind, fun tag htag => ?_⟩
  rw [h] at htag
  exact absurd htag (by simp)

section Sized

theorem ds4_sized (report : Ds4InputReport) : 2 ≤ report.bytes.length := by
  simp only [Ds4InputReport.bytes, List.length_append, List.length_cons]
  omega

theorem ds5_sized (report : Ds5InputReport) : 2 ≤ report.bytes.length := by
  simp only [Ds5InputReport.bytes, List.length_append, List.length_cons]
  omega

theorem switch_sized (report : SwitchInputReport) : 2 ≤ report.bytes.length := by
  simp only [SwitchInputReport.bytes, SwitchInputReport.stateBytes, List.length_append,
    List.length_cons]
  omega

theorem switchReply_sized (reply : SwitchSubcommandReply) : 2 ≤ reply.bytes.length := by
  simp only [SwitchSubcommandReply.bytes, SwitchInputReport.stateBytes, List.length_append,
    List.length_cons]
  omega

theorem xboxOne_sized (report : XboxSeriesInputReport) : 2 ≤ (Xbox.xboxOneBytes report).length := by
  simp only [Xbox.xboxOneBytes, le16, List.length_append, List.length_cons]
  omega

theorem xboxSeries_sized (report : XboxSeriesInputReport) :
    2 ≤ (Xbox.xboxSeriesBytes report).length := by
  have hone := xboxOne_sized report
  simp only [Xbox.xboxSeriesBytes, List.length_append]
  omega

theorem generic_sized (report : GenericInputReport) : 2 ≤ report.bytes.length := by
  simp only [GenericInputReport.bytes, List.length_append, List.length_cons]
  omega

theorem steam_sized (report : Sc26Usb.InputReport) : 2 ≤ report.bytes.length := by
  have hfront : ∀ front rest : List UInt8, 2 ≤ front.length → 2 ≤ (front ++ rest).length := by
    intro front rest hlen
    rw [List.length_append]
    omega
  unfold Sc26Usb.InputReport.bytes
  repeat refine hfront _ _ ?_
  exact Nat.le_refl 2

theorem battery_sized (report : Sc26Usb.BatteryReport) : 2 ≤ report.bytes.length := by
  simp only [Sc26Usb.BatteryReport.bytes, List.length_append, List.length_cons]
  omega

theorem ack_sized {data ack : List UInt8} (h : Sc26Usb.encodeHapticAck data = some ack) :
    2 ≤ ack.length := by
  unfold Sc26Usb.encodeHapticAck at h
  split at h
  · exact absurd h (by simp)
  · split at h
    · exact absurd h (by simp)
    · rw [← Option.some.inj h]
      exact Nat.le_add_left 2 4

theorem usbReply_sized {report : Option (List UInt8)} {state : SwitchState} {reply : List UInt8}
    (h : (SwitchPro.handleSwitchUsbCommand report state).1 = some reply) : 2 ≤ reply.length := by
  have hreply : ∀ subtype data, some ([SwitchPro.usbReplyId, subtype] ++ padded 62 data) =
      some reply → 2 ≤ reply.length := by
    intro subtype data heq
    rw [← Option.some.inj heq]
    exact Nat.le_add_left 2 _
  unfold SwitchPro.handleSwitchUsbCommand at h
  split at h
  · dsimp only at h
    split at h
    · exact absurd h (by simp)
    · split at h
      · exact hreply _ _ h
      · split at h
        · exact hreply _ _ h
        · split at h
          · exact hreply _ _ h
          · exact absurd h (by simp)
  · exact absurd h (by simp)

end Sized

theorem StateReportOf.sized {input : InputStateRequest} {encoded : SlotData.Encoded}
    (h : StateReportOf input encoded) : 2 ≤ encoded.bytes.length := by
  cases h with
  | playstation data now =>
      unfold SlotData.encodePlaystation
      split
      · exact ds4_sized _
      · exact ds5_sized _
  | switch data => exact switch_sized _
  | xbox data =>
      unfold SlotData.encodeXbox
      dsimp only
      split
      · exact xboxOne_sized _
      · exact xboxSeries_sized _
  | generic data => exact generic_sized _
  | steam data now => exact steam_sized _

-- An encoding of the last input, with the number of the inputs kept so far.
theorem carried_encoded {encoded : SlotData.Encoded} (h : StateReportOf data.lastInput encoded)
    (hnumber : encoded.tag.number = data.history.inputs.length) (kind : ReportKind) :
    Carried data (encoded.queued kind) := by
  refine ⟨h.sized, fun hnone => absurd hnone (by simp [SlotData.Encoded.queued]),
    fun tag htag => ?_⟩
  obtain rfl : encoded.tag = tag := Option.some.inj htag
  exact ⟨hnumber, encoded, h, rfl, rfl⟩

theorem carried_playstation (kind : ReportKind) (now : UInt64) :
    Carried data ((data.encodePlaystation data.lastInput now).1.queued kind) := by
  refine carried_encoded (.playstation data now) ?_ kind
  unfold SlotData.encodePlaystation
  split <;> rfl

theorem carried_switch (data : SlotData) (kind : ReportKind) :
    Carried data ((data.encodeSwitch data.lastInput).1.queued kind) :=
  carried_encoded (.switch data) rfl kind

theorem carried_steam (data : SlotData) (kind : ReportKind) (now : UInt64) :
    Carried data ((data.encodeSteam data.lastInput now).1.queued kind) :=
  carried_encoded (.steam data now) rfl kind

-- Only the data, the submission and the sections that follow matter.
theorem Handles.congr {base : SlotData} {r r' : StepResult} (h : Handles s step base r)
    (hdata : r'.data = r.data) (hsubmit : r'.submit = r.submit) (hnext : r'.next = r.next) :
    Handles s step base r' := by
  cases h with
  | nothing same submit next =>
      exact .nothing (hdata ▸ same) (hsubmit.trans submit) (by rw [hdata, hnext]; exact next)
  | queues queued accepts submit next =>
      exact .queues (hdata ▸ queued) accepts (hsubmit.trans submit) (hnext.trans next)
  | refused queued accepts submit next =>
      exact .refused (hdata ▸ queued) accepts (hsubmit.trans submit) (hnext.trans next)
  | full queued accepts pump submit next =>
      exact .full (hdata ▸ queued) accepts (hdata ▸ pump) (hsubmit.trans submit) (hnext.trans next)
  | takes mid queued accepts data submit next =>
      exact .takes mid queued accepts (hdata.trans data) (hsubmit.trans submit) (hnext.trans next)

-- The section of pump_report queues its report and takes one, or is refused.
theorem handles_pumpReport {base : SlotData} {report : QueuedReport} (answers : Bool)
    (hqueued : Queued step base data) (hcarried : Carried data report ∨ step.given = some report) :
    Handles s step base (s.pumpReport (some report) answers data) := by
  unfold Section.pumpReport Section.pumpReportLocked
  cases haccepts : s.acceptsVhfCallbacks with
  | false => exact .refused hqueued haccepts rfl rfl
  | true =>
      exact .takes (data.enqueue report).2 (.enqueue hqueued report hcarried (.refl _)) haccepts
        rfl rfl rfl

theorem handles_pump {base : SlotData} (answers : Bool) (hqueued : Queued step base data) :
    Handles s step base (s.pumpReport none answers data) := by
  unfold Section.pumpReport Section.pumpReportLocked
  cases haccepts : s.acceptsVhfCallbacks with
  | false => exact .refused hqueued haccepts rfl rfl
  | true => exact .takes data hqueued haccepts rfl rfl rfl

theorem handles_ready : Handles s .ready data (s.ready data) := by
  unfold Section.ready
  split
  · rename_i haccepts
    exact .takes data.setReady (.ready (.same (.refl _)) rfl (.refl _)) haccepts rfl rfl rfl
  · exact .nothing (.refl _) rfl (.inl rfl)

theorem handles_refusal {r : StepResult} (hdata : SameReports data r.data)
    (hsubmit : r.submit = false) (hnext : r.next = []) : Handles s step data r :=
  .nothing hdata hsubmit (.inl hnext)

theorem handles_prepared {r : StepResult} {after : SlotStep} (hdata : SameReports data r.data)
    (hsubmit : r.submit = false) (hnext : r.next = [after]) (hafter : Prepared r.data after) :
    Handles s step data r :=
  .nothing hdata hsubmit (.inr ⟨after, hnext, hafter⟩)

end

section

variable {s : Section} {step : SlotStep} {data : SlotData}

theorem handles_input (owner : File) (request : InputStateRequest) :
    ∃ base, KeptFirst (.input owner request) data base ∧
      Handles s step base (s.input owner request data) := by
  have hkept : KeptFirst (.input owner request) data (data.keepInput request) :=
    .inr ⟨owner, request, rfl, rfl⟩
  have hclassify : ∀ buttons lt rt, SameReports (data.keepInput request)
      ((data.keepInput request).classify buttons lt rt).2 := same_classify _
  unfold Section.input
  split
  · exact ⟨data, .inl rfl, handles_refusal (.refl _) rfl rfl⟩
  · split
    · -- PlayStation: encoded after the classification.
      refine ⟨_, hkept, handles_prepared ((hclassify _ _ _).trans (same_encodePlaystation _ _ _))
        rfl rfl ?_⟩
      exact (carried_playstation _ _).congr (same_encodePlaystation _ _ _)
    · split
      · -- Steam Controller: encoded, classified and queued.
        have hencode := same_encodeSteam (data.keepInput request) request s.now
        have hsame := fun buttons => hencode.trans (same_classify _ buttons request.leftTrigger
          request.rightTrigger)
        refine ⟨_, hkept, Handles.congr (handles_pumpReport true (.same (hsame _))
          (.inl ((carried_steam (data.keepInput request) _ s.now).congr (hsame _))))
          rfl rfl rfl⟩
      · split
        · -- Switch Pro: encoded before the classification.
          have hsame := (same_encodeSwitch (data.keepInput request) request).trans
            (same_classify _ request.buttons request.leftTrigger request.rightTrigger)
          refine ⟨_, hkept, handles_prepared hsame rfl rfl ?_⟩
          exact (carried_switch (data.keepInput request) _).congr hsame
        · split
          · refine ⟨_, hkept, handles_prepared (hclassify _ _ _) rfl rfl ?_⟩
            exact (@carried_encoded (data.keepInput request) _ (.xbox _) rfl _).congr
              (hclassify _ _ _)
          · split
            · refine ⟨_, hkept, handles_prepared (hclassify _ _ _) rfl rfl ?_⟩
              exact (@carried_encoded (data.keepInput request) _ (.generic _) rfl _).congr
                (hclassify _ _ _)
            · exact ⟨data, .inl rfl, handles_refusal (.refl _) rfl rfl⟩

theorem handles_profileReport (kind : ReportKind) :
    Handles s step data (s.profileReport kind data) := by
  unfold Section.profileReport
  split
  · exact handles_refusal (.refl _) rfl rfl
  · split
    · exact handles_refusal (.refl _) rfl rfl
    · split
      · have hsame := same_encodeSteam data data.lastInput s.now
        exact handles_pumpReport true (.same hsame) (.inl ((carried_steam _ _ _).congr hsame))
      · split
        · have hsame := same_encodeSwitch data data.lastInput
          exact handles_prepared hsame rfl rfl ((carried_switch _ _).congr hsame)
        · have hsame := same_encodePlaystation data data.lastInput s.now
          exact handles_prepared hsame rfl rfl ((carried_playstation _ _).congr hsame)

theorem handles_beginUpdate (owner : File) (update : StateUpdate) :
    Handles s step data (s.beginUpdate owner update data) := by
  unfold Section.beginUpdate
  split
  · exact handles_refusal (.refl _) rfl rfl
  · split
    · exact handles_refusal (.refl _) rfl rfl
    · split
      · exact handles_refusal (.refl _) rfl rfl
      · split
        · exact handles_refusal (.refl _) rfl rfl
        · exact handles_prepared (.refl _) rfl rfl trivial

-- An update changes the profile's state and leads to a report.
theorem handles_applyTouch (request : TouchStateRequest) :
    Handles s step data (Section.applyTouch request data) := by
  unfold Section.applyTouch
  split
  · exact handles_refusal (.refl _) rfl rfl
  · split
    rename_i applied after heq
    have hsame : SameReports data after := by
      rw [show after = _ from (congrArg Prod.snd heq).symm]
      split
      · exact .of_eq rfl rfl rfl rfl rfl rfl
      · split
        · exact .of_eq rfl rfl rfl rfl rfl rfl
        · split
          · exact .of_eq rfl rfl rfl rfl rfl rfl
          · exact .refl _
    split
    · exact handles_prepared hsame rfl rfl trivial
    · exact handles_refusal hsame rfl rfl

theorem handles_applyMotion (request : MotionStateRequest) :
    Handles s step data (s.applyMotion request data) := by
  unfold Section.applyMotion
  split
  rename_i applied after heq
  have hsame : SameReports data after := by
    rw [show after = _ from (congrArg Prod.snd heq).symm]
    split
    · exact .of_eq rfl rfl rfl rfl rfl rfl
    · split
      · exact .of_eq rfl rfl rfl rfl rfl rfl
      · split <;> exact .of_eq rfl rfl rfl rfl rfl rfl
  split
  · exact handles_refusal hsame rfl rfl
  · split <;> exact handles_prepared hsame rfl rfl trivial

theorem handles_applyBattery (request : BatteryStateRequest) :
    Handles s step data (s.applyBattery request data) := by
  unfold Section.applyBattery
  split
  · exact handles_prepared (.of_eq rfl rfl rfl rfl rfl rfl) rfl rfl trivial
  · split
    · exact handles_prepared (.of_eq rfl rfl rfl rfl rfl rfl) rfl rfl trivial
    · split
      · dsimp only
        split
        · exact handles_prepared (.of_eq rfl rfl rfl rfl rfl rfl) rfl rfl
            (carried_of_untagged (battery_sized _) rfl rfl)
        · exact handles_refusal (.of_eq rfl rfl rfl rfl rfl rfl) rfl rfl
      · exact handles_prepared (.of_eq rfl rfl rfl rfl rfl rfl) rfl rfl trivial

theorem handles_applyUpdate (update : StateUpdate) :
    Handles s step data (s.applyUpdate update data) := by
  cases update with
  | touch request => exact handles_applyTouch request
  | motion request => exact handles_applyMotion request
  | battery request => exact handles_applyBattery request

theorem handles_carryMotion : Handles s step data (s.carryMotion data) := by
  unfold Section.carryMotion
  split
  · exact handles_refusal (.refl _) rfl rfl
  · exact handles_prepared (.refl _) rfl rfl trivial

theorem handles_writeSteam (transfer : Transfer) :
    Handles s step data (s.writeSteam transfer data) := by
  unfold Section.writeSteam
  dsimp only
  split
  · split
    · rename_i hack
      exact handles_prepared (.of_eq rfl rfl rfl rfl rfl rfl) rfl rfl
        (carried_of_untagged (ack_sized hack) rfl rfl)
    · exact handles_refusal (.of_eq rfl rfl rfl rfl rfl rfl) rfl rfl
  · split
    · exact handles_refusal (.refl _) rfl rfl
    · exact handles_refusal (.refl _) rfl rfl

theorem same_setFeedback (data : SlotData) (event : FeedbackEvent) :
    SameReports data (data.setFeedback event) := .of_eq rfl rfl rfl rfl rfl rfl

-- A priority report is either queued or leaves the pump as it is.
theorem enqueue_priority_full {data : SlotData} {bytes : List UInt8} {reportId : UInt8}
    {tag : Option StateTag} (h : (data.enqueue ⟨bytes, reportId, .priority, tag⟩).1 = false) :
    (data.enqueue ⟨bytes, reportId, .priority, tag⟩).2.pump = data.pump := by
  cases bytes with
  | nil => rfl
  | cons byte rest =>
      simp only [SlotData.enqueue, ReportPump.enqueue] at h ⊢
      split
      · rfl
      · rename_i hroom
        simp [hroom] at h

-- The acknowledgement is queued first, and the fresh report only behind one that was
-- taken.
theorem queued_queueSwitchReply (transfer : Transfer) :
    Queued step data (Section.queueSwitchReply transfer data).2 ∧
      ((Section.queueSwitchReply transfer data).1 = false →
        (Section.queueSwitchReply transfer data).2.pump = data.pump) := by
  rcases hreply : SwitchPro.handleSwitchSubcommand transfer.buffer data.lastInput data.switchPro
    with ⟨reply, after⟩
  cases reply with
  | none =>
      have hsub : SwitchPro.queueSwitchSubcommandReply transfer.buffer data.lastInput data.switchPro
          data.pump = (false, after, data.pump) := by
        simp only [SwitchPro.queueSwitchSubcommandReply, hreply]
      simp only [Section.queueSwitchReply, hsub, hreply, List.append_nil]
      exact ⟨.same (.of_eq rfl rfl rfl rfl rfl rfl), fun _ => trivial⟩
  | some reply =>
      let ack : QueuedReport := ⟨reply.bytes, SwitchPro.subcommandReplyId, .priority, none⟩
      have hack : Queued step data (data.enqueue ack).2 :=
        .enqueue (.same (.refl _)) ack (.inl (carried_of_untagged (switchReply_sized reply) rfl rfl))
          (.refl _)
      rcases hpump : data.pump.enqueue (some reply.bytes) SwitchPro.subcommandReplyId .priority
        with ⟨kept, pump⟩
      have hqueue : data.enqueue ack = (kept, { data with
          pump := pump
          history := data.log (.enqueue (some reply.bytes) SwitchPro.subcommandReplyId .priority)
            none }) := by
        simp only [SlotData.enqueue, ack, hpump]
      have hfull : (data.enqueue ack).1 = false → (data.enqueue ack).2.pump = data.pump :=
        enqueue_priority_full
      rw [hqueue] at hack hfull
      cases kept with
      | false =>
          have hsub : SwitchPro.queueSwitchSubcommandReply transfer.buffer data.lastInput
              data.switchPro data.pump = (false, after, pump) := by
            simp only [SwitchPro.queueSwitchSubcommandReply, hreply, hpump]
          simp only [Section.queueSwitchReply, hsub, hreply, Bool.false_and, Bool.false_eq_true,
            if_false]
          exact ⟨hack.trans (.of_eq rfl rfl rfl rfl rfl rfl), fun _ => hfull rfl⟩
      | true =>
          cases hasks : SwitchPro.asksForInput reply (transfer.buffer.getD []) with
          | false =>
              have hsub : SwitchPro.queueSwitchSubcommandReply transfer.buffer data.lastInput
                  data.switchPro data.pump = (true, after, pump) := by
                simp only [SwitchPro.queueSwitchSubcommandReply, hreply, hpump, hasks,
                  Bool.false_eq_true, if_false]
              simp only [Section.queueSwitchReply, hsub, hreply, hasks, Bool.and_false,
                Bool.false_eq_true, if_false]
              exact ⟨hack.trans (.of_eq rfl rfl rfl rfl rfl rfl), fun h => by simp at h⟩
          | true =>
              let mid : SlotData := { data with switchPro := after }
              let fresh := (mid.encodeSwitch data.lastInput).1.queued .continuous
              have hsub : SwitchPro.queueSwitchSubcommandReply transfer.buffer data.lastInput
                  data.switchPro data.pump =
                    (true, (mid.encodeSwitch data.lastInput).2.switchPro,
                      (pump.enqueue (some fresh.bytes) fresh.reportId .continuous).2) := by
                simp only [SwitchPro.queueSwitchSubcommandReply, hreply, hpump, hasks, if_true]
                rfl
              simp only [Section.queueSwitchReply, hsub, hreply, hasks, Bool.and_true, if_true]
              have hfresh : Carried mid fresh := carried_encoded (.switch mid) rfl _
              refine ⟨.enqueue hack fresh (.inl (hfresh.of_eq rfl rfl))
                (.of_eq rfl ?_ rfl rfl rfl rfl), fun h => by simp at h⟩
              simp only [SlotData.enqueue, SlotData.log, fresh, mid, List.append_assoc]
              rfl

theorem handles_writeSwitch (transfer : Transfer) (haccepts : s.acceptsVhfCallbacks = true) :
    Handles s step data (s.writeSwitch transfer data) := by
  unfold Section.writeSwitch
  extract_lets rumbled
  have hrumbled : SameReports data rumbled ∧ rumbled.pump = data.pump := by
    dsimp only [rumbled]
    split
    · exact ⟨same_setFeedback _ _, rfl⟩
    · exact ⟨.refl _, rfl⟩
  split
  rename_i queued after heq
  -- A reply was queued, or the pump is as it was.
  have hcommand : Queued step rumbled after ∧ (queued = false → after.pump = rumbled.pump) := by
    rw [show queued = _ from (congrArg Prod.fst heq).symm,
      show after = _ from (congrArg Prod.snd heq).symm]
    split
    · have hsame : SameReports rumbled { rumbled with
          switchPro :=
            (SwitchPro.handleSwitchUsbCommand transfer.buffer rumbled.switchPro).2 } :=
        .of_eq rfl rfl rfl rfl rfl rfl
      dsimp only
      split
      · rename_i hreply
        exact ⟨.enqueue (.same hsame) _ (.inl (carried_of_untagged (usbReply_sized hreply) rfl rfl))
          (.refl _), enqueue_priority_full⟩
      · exact ⟨.same hsame, fun _ => rfl⟩
    · split
      · exact queued_queueSwitchReply transfer
      · exact ⟨.same (.refl _), fun _ => rfl⟩
  obtain ⟨hqueued, hfull⟩ := hcommand
  have hafter : Queued step data after := hqueued.after_same hrumbled.1
  cases queued with
  | false => exact .full hafter haccepts ((hfull rfl).trans hrumbled.2) rfl rfl
  | true => exact .queues hafter haccepts rfl rfl

theorem handles_writePlaystation (transfer : Transfer) :
    Handles s step data (s.writePlaystation transfer data) := by
  unfold Section.writePlaystation
  split
  · exact handles_refusal (.refl _) rfl rfl
  · exact handles_refusal (.of_eq rfl rfl rfl rfl rfl rfl) rfl rfl

theorem handles_writeXbox (transfer : Transfer) :
    Handles s step data (s.writeXbox transfer data) := by
  unfold Section.writeXbox
  dsimp only
  split
  · exact handles_refusal (.refl _) rfl rfl
  · split
    · exact handles_refusal (.refl _) rfl rfl
    · exact handles_refusal (same_setFeedback _ _) rfl rfl

theorem handles_writeGeneric (transfer : Transfer) :
    Handles s step data (s.writeGeneric transfer data) := by
  unfold Section.writeGeneric
  dsimp only
  split
  · exact handles_refusal (.refl _) rfl rfl
  · split
    · exact handles_refusal (.refl _) rfl rfl
    · split
      · exact handles_refusal (same_setFeedback _ _) rfl rfl
      · exact handles_refusal (.refl _) rfl rfl

theorem handles_write (transfer : Transfer) : Handles s step data (s.write transfer data) := by
  unfold Section.write
  dsimp only
  split
  · exact handles_writeGeneric transfer
  · split
    · exact handles_refusal (.refl _) rfl rfl
    · rename_i haccepts
      split
      · exact handles_writeSteam transfer
      · split
        · exact handles_writeSwitch transfer (by simpa using haccepts)
        · split
          · exact handles_writePlaystation transfer
          · exact handles_writeXbox transfer

theorem handles_getFeature (transfer : Transfer) :
    Handles s step data (s.getFeature transfer data) := by
  unfold Section.getFeature
  extract_lets profile answer
  have hanswer : ∀ report refusal, Handles s step data (answer report refusal) := by
    intro report refusal
    cases report <;> exact handles_refusal (.refl _) rfl rfl
  split
  · exact handles_refusal (.refl _) rfl rfl
  · split
    · exact handles_refusal (.refl _) rfl rfl
    · split
      · exact hanswer _ _
      · split <;> exact hanswer _ _

theorem handles_setFeature (transfer : Transfer) :
    Handles s step data (s.setFeature transfer data) := by
  unfold Section.setFeature
  dsimp only
  split
  · exact handles_refusal (.refl _) rfl rfl
  · split
    · exact handles_refusal (.refl _) rfl rfl
    · split
      · exact handles_refusal (.of_eq rfl rfl rfl rfl rfl rfl) rfl rfl
      · split <;> exact handles_refusal (.of_eq rfl rfl rfl rfl rfl rfl) rfl rfl

-- A report read on demand is encoded without being queued.
theorem same_currentReport (s : Section) (data : SlotData) (transfer : Transfer) :
    SameReports data (s.currentReport transfer data).2.2 := by
  unfold Section.currentReport
  dsimp only
  split
  · exact same_encodePlaystation _ _ _
  · exact same_encodePlaystation _ _ _
  · exact same_encodeSwitch data data.lastInput
  · exact .refl _
  · exact .refl _
  · split
    · exact .refl _
    · exact same_encodeSteam _ _ _
  · exact .refl _

theorem handles_getInputReport (transfer : Transfer) :
    Handles s step data (s.getInputReport transfer data) := by
  unfold Section.getInputReport
  have hsame := same_currentReport s data transfer
  split
  · exact handles_refusal (.refl _) rfl rfl
  · split
    · exact handles_refusal (.refl _) rfl rfl
    · split
      rename_i report reportId after heq
      rw [heq] at hsame
      split
      · exact handles_refusal hsame rfl rfl
      · split <;> exact handles_refusal hsame rfl rfl

theorem handles_query (owner : File) : Handles s step data (s.query owner data) := by
  unfold Section.query
  split
  · exact handles_refusal (.refl _) rfl rfl
  · split <;> exact handles_refusal (.refl _) rfl rfl

theorem handles_attributes (owner : File) (request : SteamControllerAttributesRequest) :
    Handles s step data (s.attributes owner request data) := by
  unfold Section.attributes
  split
  · exact handles_refusal (.refl _) rfl rfl
  · split
    · exact handles_refusal (.refl _) rfl rfl
    · split
      · exact handles_refusal (.refl _) rfl rfl
      · exact handles_refusal (.of_eq rfl rfl rfl rfl rfl rfl) rfl rfl

theorem handles_poll (owner : File) : Handles s step data (s.poll owner data) := by
  unfold Section.poll
  split
  · exact handles_refusal (.refl _) rfl rfl
  · split
    · exact handles_refusal (.refl _) rfl rfl
    · split
      · exact handles_refusal (.refl _) rfl rfl
      · split
        · exact handles_refusal (.refl _) rfl rfl
        · exact handles_refusal (.of_eq rfl rfl rfl rfl rfl rfl) rfl rfl


-- A tick queues the battery, then the state, as they fall due.
theorem handles_keepalive : Handles s step data (s.keepalive data) := by
  unfold Section.keepalive
  split
  · exact handles_refusal (.refl _) rfl rfl
  · split
    · exact handles_refusal (.of_eq rfl rfl rfl rfl rfl rfl) rfl rfl
    · extract_lets batteryDue enqueued sc26 charged resendDue
      have hcharged : Queued step data charged := by
        dsimp only [charged]
        split
        · exact .enqueue (.same (.refl _)) (Section.batteryReport data)
            (.inl (carried_of_untagged (battery_sized _) rfl rfl)) (.of_eq rfl rfl rfl rfl rfl rfl)
        · exact .same (.refl _)
      split
      · rename_i hidle
        have hsame : charged = data := by
          simp only [Bool.and_eq_true, Bool.not_eq_true'] at hidle
          simp [charged, hidle.2]
        exact handles_refusal (hsame ▸ .refl _) rfl rfl
      · clear_value charged
        split
        · have hsame := same_encodeSteam charged charged.lastInput s.now
          exact Handles.congr (handles_pumpReport false (hcharged.trans hsame)
            (.inl ((carried_steam _ .continuous s.now).congr hsame))) rfl rfl rfl
        · exact Handles.congr (handles_pump false hcharged) rfl rfl rfl

-- Every section keeps the input it takes and then handles its reports.
theorem SlotStep.handles (s : Section) (data : SlotData) (step : SlotStep) :
    ∃ base, KeptFirst step data base ∧ Handles s step base (step.run s data) := by
  cases step with
  | input owner request => exact handles_input owner request
  | beginUpdate owner update => exact ⟨data, .inl rfl, handles_beginUpdate owner update⟩
  | applyUpdate update => exact ⟨data, .inl rfl, handles_applyUpdate update⟩
  | carryMotion => exact ⟨data, .inl rfl, handles_carryMotion⟩
  | profileReport kind => exact ⟨data, .inl rfl, handles_profileReport kind⟩
  | pumpReport report answers =>
      refine ⟨data, .inl rfl, ?_⟩
      cases report with
      | none => exact handles_pump answers (.same (.refl _))
      | some report => exact handles_pumpReport answers (.same (.refl _)) (.inr rfl)
  | ready => exact ⟨data, .inl rfl, handles_ready⟩
  | write transfer => exact ⟨data, .inl rfl, handles_write transfer⟩
  | getFeature transfer => exact ⟨data, .inl rfl, handles_getFeature transfer⟩
  | setFeature transfer => exact ⟨data, .inl rfl, handles_setFeature transfer⟩
  | getInputReport transfer => exact ⟨data, .inl rfl, handles_getInputReport transfer⟩
  | query owner => exact ⟨data, .inl rfl, handles_query owner⟩
  | attributes owner request => exact ⟨data, .inl rfl, handles_attributes owner request⟩
  | poll owner => exact ⟨data, .inl rfl, handles_poll owner⟩
  | keepalive => exact ⟨data, .inl rfl, handles_keepalive⟩

-- A report is handed to VHF by a slot that accepts callbacks.
theorem SlotStep.accepts_of_submit {step : SlotStep} (h : (step.run s data).submit = true) :
    s.acceptsVhfCallbacks = true := by
  obtain ⟨base, -, hhandles⟩ := step.handles s data
  cases hhandles with
  | nothing same submit next =>
      rw [submit] at h
      exact absurd h (by simp)
  | queues queued accepts submit next => exact accepts
  | refused queued accepts submit next =>
      rw [submit] at h
      exact absurd h (by simp)
  | full queued accepts pump submit next => exact accepts
  | takes mid queued accepts data submit next => exact accepts

-- What follows a section is at most one section, which takes in no input.
theorem SlotStep.next_cases (s : Section) (data : SlotData) (step : SlotStep) :
    (step.run s data).next = [] ∨
      ∃ after, (step.run s data).next = [after] ∧ Prepared (step.run s data).data after := by
  obtain ⟨base, -, hhandles⟩ := step.handles s data
  cases hhandles with
  | nothing same submit next => exact next
  | queues queued accepts submit next => exact .inr ⟨_, next, trivial⟩
  | refused queued accepts submit next => exact .inl next
  | full queued accepts pump submit next => exact .inl next
  | takes mid queued accepts data submit next => exact .inl next

end

end LibVirtualGamepad
