import LibVirtualGamepad.Client
import LibVirtualGamepad.Driver.Frame
import LibVirtualGamepad.Driver.PidOutput
import LibVirtualGamepad.Driver.SettingsReplica
import LibVirtualGamepad.Interleaving.Run

-- The events that a slot holds for its owner: the client takes every one of them.
namespace LibVirtualGamepad

open Interleaving SteamController Sc26Usb

structure FeedbackEvent.Sound (event : FeedbackEvent) (controllerId : UInt32) : Prop where
  accepted : Client.pollFeedback true controllerId (.ok (feedbackEventBytes, event)) = errorSuccess
  haptic : event.type = .steamHaptic →
    let haptic := SteamHapticFeedback.ofPayload event.payload
    haptic.length.toNat = reportSize haptic.report[0] ∧ haptic.length.toNat ≤ 12
  settings : event.type = .steamSettings →
    let settings := SteamSettingsFeedback.ofPayload event.payload
    settings.command = Command.setSettingsValues ∧ 1 ≤ settings.count.toNat ∧
        settings.count.toNat ≤ 9 ∨
      settings.command = Command.loadDefaultSettings ∧ settings.count = 0

structure SlotFeedback.Sound (feedback : SlotFeedback) (controllerId : UInt32) : Prop where
  coalesced : feedback.feedbackPending = true → feedback.feedback.Sound controllerId
  haptics : ∀ event ∈ feedback.haptics.pending, event.Sound controllerId
  settings : ∀ event ∈ feedback.settings.pending, event.Sound controllerId

section Events

variable {controllerId : UInt32}

-- A whole payload of its type.
theorem accepted_make {type : FeedbackType} {bytes : List UInt8}
    (hsize : UInt16.ofNat bytes.length = feedbackPayloadSize type) (hle : bytes.length ≤ 32) :
    Client.pollFeedback true controllerId
      (.ok (feedbackEventBytes, .make controllerId type bytes)) = errorSuccess := by
  have hvalid : (FeedbackEvent.make controllerId type bytes).validRequest feedbackEventBytes =
      true := by
    simp [FeedbackEvent.validRequest, FeedbackEvent.make]
  have hroom : ¬(UInt16.ofNat bytes.length).toNat > feedbackPayloadBytes := by
    rw [UInt16.toNat_ofNat']
    unfold feedbackPayloadBytes
    omega
  unfold Client.pollFeedback
  simp only [hvalid, Bool.not_true, Bool.false_eq_true, if_false, ne_eq, not_true_eq_false,
    false_or]
  rw [if_neg]
  rintro (hid | hlarge | hother)
  · exact hid rfl
  · exact hroom hlarge
  · exact hother hsize

theorem sound_make {type : FeedbackType} {bytes : List UInt8}
    (hsize : UInt16.ofNat bytes.length = feedbackPayloadSize type) (hle : bytes.length ≤ 32)
    (hhaptic : type ≠ .steamHaptic) (hsettings : type ≠ .steamSettings) :
    (FeedbackEvent.make controllerId type bytes).Sound controllerId :=
  ⟨accepted_make hsize hle, fun htype => absurd htype hhaptic, fun htype => absurd htype hsettings⟩

theorem sound_rumbleRgb (rumble : GenericRumbleRgbFeedback) {type : FeedbackType}
    (htype : type = .genericRumbleRgb ∨ type = .genericRumble) :
    (FeedbackEvent.make controllerId type rumble.bytes).Sound controllerId := by
  have hlength : rumble.bytes.length = 8 := rfl
  obtain rfl | rfl := htype
  · exact sound_make (by rw [hlength]; rfl) (by omega) (by decide) (by decide)
  · exact sound_make (by rw [hlength]; rfl) (by omega) (by decide) (by decide)

theorem sound_generic (output : List UInt8) :
    (Generic.encodeGenericFeedback controllerId output).Sound controllerId :=
  sound_rumbleRgb _ (.inl rfl)

theorem sound_xbox (rumble : XboxRumbleFeedback) :
    (Xbox.encodeXboxSeriesFeedback controllerId rumble).Sound controllerId := by
  have hlength : rumble.bytes.length = 8 := rfl
  exact sound_make (by rw [hlength]; rfl) (by omega) (by decide) (by decide)

theorem sound_playstation (feedback : PlaystationOutputFeedback) :
    (Playstation.encodePlaystationFeedback controllerId feedback).Sound controllerId := by
  have hlength : feedback.bytes.length = 32 := by
    simp [PlaystationOutputFeedback.bytes, le16]
  exact sound_make (by rw [hlength]; rfl) (by omega) (by decide) (by decide)

-- The reports that are forwarded, and what the descriptor declares for them.
theorem reportSize_haptic {id : UInt8} (houtput : isOutputReport id = true)
    (hlast : ¬id > hapticScriptId) : 0 < reportSize id ∧ reportSize id ≤ 12 := by
  have hlow : 128 ≤ id.toNat := by
    simp only [isOutputReport, Bool.and_eq_true, decide_eq_true_eq] at houtput
    exact houtput.1
  have hhigh : id.toNat ≤ 133 := UInt8.not_lt.1 hlast
  have hcases : id = 0x80 ∨ id = 0x81 ∨ id = 0x82 ∨ id = 0x83 ∨ id = 0x84 ∨ id = 0x85 := by
    simp only [← UInt8.toNat_inj, UInt8.reduceToNat]
    omega
  obtain rfl | rfl | rfl | rfl | rfl | rfl := hcases
  · decide
  · decide
  · decide
  · decide
  · decide
  · decide

-- A haptic report survives the trip through an event's payload.
theorem haptic_ofPayload_make (haptic : SteamHapticFeedback) :
    SteamHapticFeedback.ofPayload
      (FeedbackEvent.make controllerId .steamHaptic haptic.bytes).payload = haptic := by
  have hreport : SteamHapticFeedback.ofPayload
      (FeedbackEvent.make controllerId .steamHaptic haptic.bytes).payload =
      ⟨haptic.length, Vector.ofFn fun i => haptic.report.toList.getD i 0⟩ := by
    simp [SteamHapticFeedback.ofPayload, FeedbackEvent.make, SteamHapticFeedback.bytes,
      Nat.add_comm 4]
  have hcells : (Vector.ofFn fun i : Fin steamHapticReportBytes =>
      haptic.report.toList.getD i 0) = haptic.report := by
    apply Vector.ext
    intro i hi
    have hlen : i < haptic.report.toList.length := by simpa using hi
    simp only [Vector.getElem_ofFn, List.getD_eq_getElem?_getD, List.getElem?_eq_getElem hlen,
      Option.getD_some, Vector.getElem_toList]
  rw [hreport, hcells]

theorem sound_haptic {data : Option (List UInt8)} {event : FeedbackEvent}
    (h : applySc26Output data controllerId = some event) : event.Sound controllerId := by
  cases data with
  | none => cases h
  | some bytes =>
    simp only [applySc26Output, Option.ite_none_left_eq_some, Option.some.injEq, not_or,
      Bool.not_eq_true', Bool.not_eq_false] at h
    obtain ⟨⟨-, houtput, hlast⟩, ⟨hlength, -⟩, rfl⟩ := h
    obtain ⟨hpos, hle⟩ := reportSize_haptic houtput hlast
    have hreport (haptic : SteamHapticFeedback) : haptic.bytes.length = 16 := by
      simp [SteamHapticFeedback.bytes, steamHapticReportBytes]
    refine ⟨accepted_make (by rw [hreport]; rfl) (by rw [hreport]; omega), ?haptic, ?settings⟩
    case settings =>
      intro htype
      cases htype
    intro _
    dsimp only
    rw [haptic_ofPayload_make]
    have hfirst : (bytes.take (reportSize (bytes.getD 0 0))).getD 0 0 = bytes.getD 0 0 := by
      rw [List.getD_eq_getElem?_getD, List.getElem?_take_of_lt hpos, ← List.getD_eq_getElem?_getD]
    simp only [Vector.getElem_ofFn, hfirst, UInt8.toNat_ofNat']
    omega

-- A chunk in range of the triples, or the one of a reload.
theorem sound_chunk {command : UInt8} (payload : List UInt8) {triples first : Nat}
    (h : command = Command.setSettingsValues ∧ first < triples ∨
      command = Command.loadDefaultSettings ∧ triples = 0) :
    (FeedbackEvent.make controllerId .steamSettings
      (settingsChunk command payload triples first).bytes).Sound controllerId := by
  have hlength (chunk : SteamSettingsFeedback) : chunk.bytes.length = 32 := by
    simp [SteamSettingsFeedback.bytes, steamSettingsTriplesMax]
  refine ⟨accepted_make (by rw [hlength]; rfl) (by rw [hlength]), ?haptic, ?settings⟩
  case haptic =>
    intro htype
    cases htype
  intro _
  dsimp only
  rw [ofPayload_make]
  have hmax : steamSettingsTriplesMax = 9 := rfl
  unfold settingsChunk
  dsimp only
  obtain ⟨rfl, hfirst⟩ | ⟨rfl, rfl⟩ := h
  · refine .inl ⟨rfl, ?_⟩
    rw [UInt8.toNat_ofNat']
    split
    · omega
    · omega
  · refine .inr ⟨rfl, ?_⟩
    rw [Nat.zero_sub, if_pos (by omega)]
    rfl

theorem sound_settings {data : Option (List UInt8)} {capacity : Nat} {event : FeedbackEvent}
    (h : event ∈ applySc26Settings data controllerId capacity) : event.Sound controllerId := by
  match data with
  | none | some [] | some [_] | some [_, _] => cases h
  | some (id :: command :: length :: payload) =>
    have hmax : steamSettingsTriplesMax = 9 := rfl
    have hother : ¬Command.loadDefaultSettings = Command.setSettingsValues := by decide
    simp only [applySc26Settings, List.mem_ite_nil_left, List.mem_map, List.mem_range] at h
    obtain ⟨-, -, hempty, hknown, -, n, hlt, rfl⟩ := h
    apply sound_chunk
    by_cases hset : command = Command.setSettingsValues
    · left
      subst hset
      have hload : ¬Command.setSettingsValues = Command.loadDefaultSettings := by decide
      simp only [if_true, if_neg hload, hmax] at hlt ⊢
      refine ⟨trivial, ?_⟩
      omega
    · right
      have hload : command = Command.loadDefaultSettings := by
        by_contra hne
        exact hknown ⟨hset, hne⟩
      exact ⟨hload, if_neg hset⟩

end Events

namespace SlotFeedback.Sound

variable {feedback : SlotFeedback} {controllerId : UInt32}

theorem zero : SlotFeedback.zero.Sound controllerId :=
  ⟨nofun, nofun, nofun⟩

theorem discard (feedback : SlotFeedback) : feedback.discard.Sound controllerId :=
  ⟨nofun, nofun, nofun⟩

theorem withoutPending (h : feedback.Sound controllerId) :
    { feedback with feedbackPending := false }.Sound controllerId :=
  ⟨nofun, h.haptics, h.settings⟩

theorem coalesce (h : feedback.Sound controllerId) {event : FeedbackEvent}
    (hevent : event.Sound controllerId) :
    { feedback with feedback := event, feedbackPending := true }.Sound controllerId :=
  ⟨fun _ => hevent, h.haptics, h.settings⟩

-- What waits after an admission waited before or is the new event.
theorem mem_accept {pending : List FeedbackEvent} {event other : FeedbackEvent}
    (h : other ∈ Coalescing.accept hapticStopKey hapticQueueCapacity pending event) :
    other ∈ pending ∨ other = event := by
  unfold Coalescing.accept at h
  split at h
  · simpa using h
  · obtain hold | hnew := List.mem_append.1 h
    · exact .inl (List.mem_of_mem_eraseP hold)
    · exact .inr (List.mem_singleton.1 hnew)
  · obtain hold | hnew := List.mem_append.1 h
    · exact .inl (List.mem_of_mem_eraseP hold)
    · exact .inr (List.mem_singleton.1 hnew)
  · exact .inl h

theorem enqueueHaptic (h : feedback.Sound controllerId) {event : FeedbackEvent}
    (hevent : event.Sound controllerId) :
    { feedback with haptics := (feedback.haptics.enqueueHaptic event).2 }.Sound controllerId := by
  refine ⟨h.coalesced, ?_, h.settings⟩
  intro other hother
  dsimp only at hother
  rw [(FeedbackRing.enqueueHaptic_spec feedback.haptics event).1] at hother
  obtain hold | rfl := mem_accept hother
  · exact h.haptics other hold
  · exact hevent

theorem enqueueSettings {ring : FeedbackRing settingsQueueCapacity} {events : List FeedbackEvent}
    (h : ∀ event ∈ ring.pending, event.Sound controllerId)
    (hevents : ∀ event ∈ events, event.Sound controllerId) :
    ∀ event ∈ (events.foldl .enqueueSettings ring).pending, event.Sound controllerId := by
  induction events generalizing ring with
  | nil => exact h
  | cons event rest ih =>
    refine ih ?_ fun other hother => hevents other (List.mem_cons_of_mem _ hother)
    intro other hother
    rw [(FeedbackRing.enqueueSettings_spec ring event (by decide)).1] at hother
    obtain hold | hnew := List.mem_append.1 hother
    · split at hold
      · exact h other (List.mem_of_mem_tail hold)
      · exact h other hold
    · rw [List.mem_singleton.1 hnew]
      exact hevents event List.mem_cons_self

theorem poll (h : feedback.Sound controllerId) {event : FeedbackEvent} {after : SlotFeedback}
    (hpoll : feedback.poll = some (event, after)) :
    event.Sound controllerId ∧ after.Sound controllerId := by
  unfold SlotFeedback.poll at hpoll
  cases hsettings : feedback.settings.poll with
  | some taken =>
    obtain ⟨first, ring⟩ := taken
    rw [hsettings] at hpoll
    cases hpoll
    have hpending := (FeedbackRing.poll_eq_some _ _ _ hsettings).1
    have hwaiting := h.settings
    rw [hpending] at hwaiting
    exact ⟨hwaiting _ List.mem_cons_self, h.coalesced, h.haptics,
      fun other hother => hwaiting other (List.mem_cons_of_mem _ hother)⟩
  | none =>
    rw [hsettings] at hpoll
    cases hhaptics : feedback.haptics.poll with
    | some taken =>
      obtain ⟨first, ring⟩ := taken
      simp only [hhaptics] at hpoll
      cases hpoll
      have hpending := (FeedbackRing.poll_eq_some _ _ _ hhaptics).1
      have hwaiting := h.haptics
      rw [hpending] at hwaiting
      exact ⟨hwaiting _ List.mem_cons_self, h.coalesced,
        fun other hother => hwaiting other (List.mem_cons_of_mem _ hother), h.settings⟩
    | none =>
      simp only [hhaptics] at hpoll
      split at hpoll
      · next hpending =>
        cases hpoll
        exact ⟨h.coalesced hpending, h.withoutPending⟩
      · cases hpoll

theorem steamSetFeature (h : feedback.Sound controllerId) (reportId : UInt8)
    (buffer : Option (List UInt8)) (sc26 : Sc26State) :
    (LibVirtualGamepad.steamSetFeature reportId buffer controllerId sc26
      feedback).2.2.Sound controllerId := by
  unfold LibVirtualGamepad.steamSetFeature
  dsimp only
  split
  · exact ⟨h.coalesced, h.haptics, enqueueSettings h.settings fun _ => sound_settings⟩
  · exact h

end SlotFeedback.Sound

-- What the reports to VHF leave of the events.
section Reports

variable {data : SlotData} {s : Section}

theorem feedback_takeReport (now : UInt64) :
    (data.takeReport now).2.feedback = data.feedback := by
  unfold SlotData.takeReport
  dsimp only
  split
  · rfl
  · unfold SlotData.markSc26ReportTaken
    split
    · rfl
    · rfl

theorem feedback_encodePlaystation (input : InputStateRequest) (now : UInt64) :
    (data.encodePlaystation input now).2.feedback = data.feedback := by
  unfold SlotData.encodePlaystation
  split
  · rfl
  · rfl

theorem feedback_encodeSteam (input : InputStateRequest) (now : UInt64) :
    (data.encodeSteam input now).2.feedback = data.feedback := rfl

theorem feedback_pumpReport (report : Option QueuedReport) (answers : Bool) :
    (s.pumpReport report answers data).data.feedback = data.feedback := by
  unfold Section.pumpReport Section.pumpReportLocked
  by_cases haccepts : s.acceptsVhfCallbacks = true
  · simp only [haccepts, if_true]
    cases report with
    | none => exact feedback_takeReport s.now
    | some report =>
      rw [feedback_takeReport s.now]
      rfl
  · simp only [haccepts]
    rfl

theorem feedback_ready : (s.ready data).data.feedback = data.feedback := by
  unfold Section.ready
  split
  · exact feedback_takeReport s.now
  · rfl

theorem feedback_profileReport (kind : ReportKind) :
    (s.profileReport kind data).data.feedback = data.feedback := by
  unfold Section.profileReport
  split
  · rfl
  split
  · rfl
  split
  · exact feedback_pumpReport _ _
  split
  · rfl
  · exact feedback_encodePlaystation _ _

theorem feedback_input (owner : File) (request : InputStateRequest) :
    (s.input owner request data).data.feedback = data.feedback := by
  unfold Section.input
  split
  · rfl
  split
  · exact feedback_encodePlaystation _ _
  split
  · exact feedback_pumpReport _ _
  split
  · rfl
  split
  · rfl
  split
  · rfl
  · rfl

theorem feedback_beginUpdate (owner : File) (update : StateUpdate) :
    (s.beginUpdate owner update data).data.feedback = data.feedback := by
  unfold Section.beginUpdate
  split
  · rfl
  split
  · rfl
  split
  · rfl
  split
  · rfl
  · rfl

theorem feedback_applyTouch (request : TouchStateRequest) :
    (Section.applyTouch request data).data.feedback = data.feedback := by
  unfold Section.applyTouch
  split
  · rfl
  split
  rename_i applied after heq
  have hafter : after.feedback = data.feedback := by
    rw [show after = _ from (congrArg Prod.snd heq).symm]
    split
    · rfl
    split
    · rfl
    split
    · rfl
    · rfl
  split
  · exact hafter
  · exact hafter

theorem feedback_applyMotion (request : MotionStateRequest) :
    (s.applyMotion request data).data.feedback = data.feedback := by
  unfold Section.applyMotion
  split
  rename_i applied after heq
  have hafter : after.feedback = data.feedback := by
    rw [show after = _ from (congrArg Prod.snd heq).symm]
    split
    · rfl
    split
    · rfl
    split
    · rfl
    · rfl
  split
  · exact hafter
  split
  · exact hafter
  · exact hafter

theorem feedback_applyBattery (request : BatteryStateRequest) :
    (s.applyBattery request data).data.feedback = data.feedback := by
  unfold Section.applyBattery
  split
  · rfl
  split
  · rfl
  split
  · dsimp only
    split
    · rfl
    · rfl
  · rfl

theorem feedback_applyUpdate (update : StateUpdate) :
    (s.applyUpdate update data).data.feedback = data.feedback := by
  cases update with
  | touch request => exact feedback_applyTouch request
  | motion request => exact feedback_applyMotion request
  | battery request => exact feedback_applyBattery request

theorem feedback_carryMotion : (s.carryMotion data).data.feedback = data.feedback := by
  unfold Section.carryMotion
  split
  · rfl
  · rfl

theorem feedback_getFeature (transfer : Transfer) :
    (s.getFeature transfer data).data.feedback = data.feedback := by
  unfold Section.getFeature
  dsimp only
  repeat' split
  all_goals rfl

theorem feedback_currentReport (transfer : Transfer) :
    (s.currentReport transfer data).2.2.feedback = data.feedback := by
  unfold Section.currentReport
  dsimp only
  split
  · exact feedback_encodePlaystation _ _
  · exact feedback_encodePlaystation _ _
  · rfl
  · rfl
  · rfl
  · split
    · rfl
    · rfl
  · rfl

theorem feedback_getInputReport (transfer : Transfer) :
    (s.getInputReport transfer data).data.feedback = data.feedback := by
  unfold Section.getInputReport
  split
  · rfl
  split
  · rfl
  dsimp only
  split
  · exact feedback_currentReport transfer
  split
  · exact feedback_currentReport transfer
  · exact feedback_currentReport transfer

theorem feedback_query (owner : File) : (s.query owner data).data.feedback = data.feedback := by
  unfold Section.query
  split
  · rfl
  split
  · rfl
  · rfl

theorem feedback_attributes (owner : File) (request : SteamControllerAttributesRequest) :
    (s.attributes owner request data).data.feedback = data.feedback := by
  unfold Section.attributes
  split
  · rfl
  split
  · rfl
  split
  · rfl
  · rfl

theorem feedback_keepalive : (s.keepalive data).data.feedback = data.feedback := by
  unfold Section.keepalive
  split
  · rfl
  split
  · rfl
  extract_lets batteryDue enqueued sc26 charged resendDue
  have hcharged : charged.feedback = data.feedback := by
    dsimp only [charged]
    split
    · rfl
    · rfl
  clear_value charged
  split
  · exact hcharged
  split
  · rw [← hcharged]
    exact (feedback_pumpReport _ _).trans (feedback_encodeSteam _ _)
  · rw [← hcharged]
    exact feedback_pumpReport _ _

end Reports

-- The sections that touch the events: the host's writes, and the owner's polls.
section Sections

variable {data : SlotData} {s : Section}

theorem sound_writeSteam (h : data.feedback.Sound s.controllerId) (transfer : Transfer) :
    (s.writeSteam transfer data).data.feedback.Sound s.controllerId := by
  unfold Section.writeSteam
  dsimp only
  split
  · next event hevent => exact h.enqueueHaptic (sound_haptic hevent)
  · split
    · exact h
    · exact h

theorem sound_writeSwitch (h : data.feedback.Sound s.controllerId) (transfer : Transfer) :
    (s.writeSwitch transfer data).data.feedback.Sound s.controllerId := by
  unfold Section.writeSwitch
  extract_lets rumbled
  have hrumbled : rumbled.feedback.Sound s.controllerId := by
    dsimp only [rumbled]
    split
    · exact h.coalesce (sound_playstation _)
    · exact h
  clear_value rumbled
  dsimp only
  split
  · split
    · exact hrumbled
    · exact hrumbled
  split
  · exact hrumbled
  · exact hrumbled

theorem sound_writePlaystation (h : data.feedback.Sound s.controllerId) (transfer : Transfer) :
    (s.writePlaystation transfer data).data.feedback.Sound s.controllerId := by
  unfold Section.writePlaystation
  split
  · exact h
  · exact h.coalesce (sound_playstation _)

theorem sound_writeXbox (h : data.feedback.Sound s.controllerId) (transfer : Transfer) :
    (s.writeXbox transfer data).data.feedback.Sound s.controllerId := by
  unfold Section.writeXbox
  dsimp only
  split
  · exact h
  split
  · exact h
  · exact h.coalesce (sound_xbox _)

theorem sound_writeGeneric (h : data.feedback.Sound s.controllerId) (transfer : Transfer) :
    (s.writeGeneric transfer data).data.feedback.Sound s.controllerId := by
  unfold Section.writeGeneric
  dsimp only
  split
  · exact h
  split
  · exact h
  split
  · exact h.coalesce (sound_generic _)
  · exact h

theorem sound_write (h : data.feedback.Sound s.controllerId) (transfer : Transfer) :
    (s.write transfer data).data.feedback.Sound s.controllerId := by
  unfold Section.write
  dsimp only
  split
  · exact sound_writeGeneric h transfer
  split
  · exact h
  split
  · exact sound_writeSteam h transfer
  split
  · exact sound_writeSwitch h transfer
  split
  · exact sound_writePlaystation h transfer
  · exact sound_writeXbox h transfer

theorem sound_setFeature (h : data.feedback.Sound s.controllerId) (transfer : Transfer) :
    (s.setFeature transfer data).data.feedback.Sound s.controllerId := by
  unfold Section.setFeature
  dsimp only
  split
  · exact h
  split
  · exact h
  split
  · exact h.steamSetFeature _ _ _
  split
  · exact h
  · exact h

theorem sound_poll (h : data.feedback.Sound s.controllerId) (owner : File) :
    (s.poll owner data).data.feedback.Sound s.controllerId ∧
      ∀ event, (s.poll owner data).output = some (.event event) → event.Sound s.controllerId := by
  unfold Section.poll
  split
  · exact ⟨h, nofun⟩
  split
  · exact ⟨h, nofun⟩
  split
  · exact ⟨h, nofun⟩
  split
  · exact ⟨h, nofun⟩
  · next event after hpoll =>
    obtain ⟨hevent, hafter⟩ := h.poll hpoll
    refine ⟨hafter, ?_⟩
    intro other hother
    cases hother
    exact hevent

theorem SlotStep.sound (h : data.feedback.Sound s.controllerId) (step : SlotStep) :
    (step.run s data).data.feedback.Sound s.controllerId := by
  cases step with
  | input owner request => exact (feedback_input owner request).symm ▸ h
  | beginUpdate owner update => exact (feedback_beginUpdate owner update).symm ▸ h
  | applyUpdate update => exact (feedback_applyUpdate update).symm ▸ h
  | carryMotion => exact feedback_carryMotion.symm ▸ h
  | profileReport kind => exact (feedback_profileReport kind).symm ▸ h
  | pumpReport report answers => exact (feedback_pumpReport report answers).symm ▸ h
  | ready => exact feedback_ready.symm ▸ h
  | write transfer => exact sound_write h transfer
  | getFeature transfer => exact (feedback_getFeature transfer).symm ▸ h
  | setFeature transfer => exact sound_setFeature h transfer
  | getInputReport transfer => exact (feedback_getInputReport transfer).symm ▸ h
  | query owner => exact (feedback_query owner).symm ▸ h
  | attributes owner request => exact (feedback_attributes owner request).symm ▸ h
  | poll owner => exact (sound_poll h owner).1
  | keepalive => exact feedback_keepalive.symm ▸ h

end Sections

-- The events of all slots.
def Device.Sound (d : Device) : Prop :=
  ∀ id, (d.controllers id).data.feedback.Sound (UInt32.ofNat id)

namespace Device.Sound

variable {d d' : Device} {regs : Registers} {choice : Choice} {threads : List Task} {o : Effect}

theorem of_eq (h : d.Sound) (hcontrollers : d'.controllers = d.controllers) : d'.Sound := by
  intro id
  rw [hcontrollers]
  exact h id

theorem setSlot (h : d.Sound) {id : ControllerId} {slot : Slot}
    (hslot : slot.data.feedback.Sound (UInt32.ofNat id)) : (d.setSlot id slot).Sound := by
  intro other
  by_cases heq : other = id
  · rw [heq, setSlot_controllers_self]
    exact hslot
  · rw [setSlot_controllers_of_ne heq]
    exact h other

theorem setControl (h : d.Sound) (id : ControllerId) (control : SlotControl) :
    (d.setControl id control).Sound :=
  h.setSlot (h id)

theorem resetSlot (h : d.Sound) (id : ControllerId) : (d.resetSlot id).Sound :=
  h.setSlot .zero

theorem mapSlots (h : d.Sound) {f : ControllerId → Slot → Slot}
    (hf : ∀ id slot, slot.data.feedback.Sound (UInt32.ofNat id) →
      (f id slot).data.feedback.Sound (UInt32.ofNat id)) : (d.mapSlots f).Sound :=
  fun id => hf id _ (h id)

theorem arm (h : d.Sound) (now : UInt64) : (d.arm now).Sound := by
  unfold Device.arm
  split
  · exact h
  · exact h.of_eq rfl

theorem slot (h : d.Sound) (step : SlotStep) (id : ControllerId) :
    (step.exec d regs choice id).shared.Sound := by
  have hsection : (d.applySection id (step.run (d.sectionOf id choice.now)
      (d.controllers id).data)).Sound := by
    have hstep : (step.run (d.sectionOf id choice.now)
        (d.controllers id).data).data.feedback.Sound (d.sectionOf id choice.now).controllerId :=
      SlotStep.sound (h id) step
    exact h.setSlot hstep
  have hrunning : ((d.applySection id (step.run (d.sectionOf id choice.now)
      (d.controllers id).data)).setRunning true).Sound := hsection.of_eq rfl
  unfold SlotStep.exec
  dsimp only [Device.effect]
  split
  · split
    · exact hrunning.arm choice.now
    · exact hsection.arm choice.now
  · split
    · exact hsection.of_eq rfl
    · exact hsection

theorem create (h : d.Sound) (act : CreateAct) (id : ControllerId) (owner : File)
    (profile : Profile) : (act.exec d regs choice id owner profile).shared.Sound := by
  have hbegun : (d.beginSlot id owner profile).Sound := h.setSlot .zero
  cases act with
  | begin generation childPresent =>
    unfold CreateAct.exec
    dsimp only
    split
    · exact h
    split
    · exact h
    · exact hbegun
  | publish handle => exact h.setControl id _
  | adopt handle =>
    unfold CreateAct.exec
    dsimp only
    split
    · exact h.setControl id _
    · have hleft := h.setControl id { (d.controllers id).control with state := .stopping, vhf := none }
      exact hleft.setSlot (hleft id).withoutPending
  | release =>
    simp only [CreateAct.exec, Device.effect, Device.releaseStartingSlot]
    split
    · exact h.resetSlot id
    · exact h
  | check | enumerate | targetOpened | readFile | vhfCreate | start =>
    simp only [CreateAct.exec]
    repeat' split
    all_goals exact h.of_eq rfl

theorem destroy (h : d.Sound) (act : DestroyAct) (id : ControllerId) (owner : File) :
    (act.exec d regs id owner).shared.Sound := by
  cases act with
  | check =>
    simp only [DestroyAct.exec]
    repeat' split
    all_goals exact h
  | detach =>
    unfold DestroyAct.exec
    dsimp only
    split
    · exact h
    split
    · exact h.setControl id _
    split
    · exact h.resetSlot id
    · have hleft := h.setControl id { (d.controllers id).control with state := .stopping, vhf := none }
      exact hleft.setSlot (.discard _)
  | finish =>
    unfold DestroyAct.exec
    dsimp only
    split
    · exact h.resetSlot id
    · exact h

theorem stopped {slot : Slot} {controllerId : UInt32} : slot.stopped.data.feedback.Sound controllerId := by
  unfold Slot.stopped
  dsimp only
  split
  · exact .discard _
  · exact .discard _
  · exact .zero
  · exact .discard _
  · exact .discard _

theorem takenDown {slot : Slot} {controllerId : UInt32}
    (h : slot.data.feedback.Sound controllerId) (taken : Bool) :
    (slot.takenDown taken).data.feedback.Sound controllerId := by
  unfold Slot.takenDown
  split
  · exact h.withoutPending
  · exact h

theorem unpublished {slot : Slot} {controllerId : UInt32}
    (h : slot.data.feedback.Sound controllerId) (taken : Bool) :
    (slot.unpublished taken).data.feedback.Sound controllerId := by
  unfold Slot.unpublished
  split
  · exact h
  · exact h

theorem lostAfterDelete {slot : Slot} {controllerId : UInt32}
    (h : slot.data.feedback.Sound controllerId) (taken : Bool) :
    (slot.lostAfterDelete taken).data.feedback.Sound controllerId := by
  unfold Slot.lostAfterDelete
  split
  · exact .zero
  · exact h

theorem power (h : d.Sound) (act : PowerAct) : (act.exec d regs).shared.Sound := by
  have hadmission : d.stopTimer.stopKeyboardMouseAdmission.Sound := by
    have hstopped : d.stopTimer.Sound := h.of_eq rfl
    exact hstopped.of_eq only_stopAdmission.controllers
  cases act with
  | stopIntent | downIntent | prepare | d0Entry | releaseTarget => exact h.of_eq rfl
  | stopMark forgetTarget => exact hadmission.mapSlots fun _ _ _ => stopped
  | stopCollect forgetTarget =>
    refine Device.Sound.mapSlots (h.of_eq rfl) ?_
    intro id slot hslot
    unfold Slot.detached
    split
    · exact hslot
    · exact hslot
  | stopRelease id => exact h.resetSlot id
  | downMark =>
    intro id
    exact takenDown (hadmission id) _
  | downDetach handles =>
    intro id
    exact unpublished (h id) _
  | downFinish handles =>
    intro id
    exact lostAfterDelete (h id) _

theorem keepalive (h : d.Sound) {act : KeepaliveAct} (hexec : act.exec threads d regs choice = some o) :
    o.shared.Sound := by
  cases act with
  | tick =>
    cases hexec
    have hslots : (d.keepaliveSlots choice.now).Sound := by
      intro id
      have hstep : ((d.sectionOf id choice.now).keepalive
          (d.controllers id).data).data.feedback.Sound (d.sectionOf id choice.now).controllerId :=
        SlotStep.sound (h id) .keepalive
      exact hstep
    show (d.keepaliveTick choice.now).Sound
    unfold Device.keepaliveTick
    dsimp only
    split
    · exact hslots.of_eq rfl
    split
    · exact hslots.arm choice.now
    · exact hslots.of_eq rfl
  | _ =>
    simp only [KeepaliveAct.exec] at hexec
    repeat' split at hexec
    all_goals cases hexec <;> exact h.of_eq rfl

theorem act (h : d.Sound) {k : Operation} {a : Act} (hexec : a.exec threads d k regs choice = some o) :
    o.shared.Sound := by
  cases a with
  | slot id step =>
    cases hexec
    exact h.slot step id
  | create id owner profile act =>
    cases hexec
    exact h.create act id owner profile
  | destroy id owner act =>
    cases hexec
    exact h.destroy act id owner
  | power act =>
    cases hexec
    exact h.power act
  | keepalive act => exact h.keepalive hexec
  | keyboardMouse act => exact h.of_eq (keyboardMouse_only hexec).1.controllers
  | target act =>
    cases hexec
    cases act <;> simp only [TargetAct.exec] <;> (repeat' split) <;> exact h.of_eq rfl
  | submitLeave id handle answers =>
    cases hexec
    exact h.setControl id _
  | lockLifetime | waitForSubmits | deleteEnd =>
    simp only [Act.exec] at hexec
    split at hexec <;> cases hexec
    exact h.of_eq rfl
  | unlockLifetime | reply | submitEnter | deleteBegin =>
    cases hexec
    exact h.of_eq rfl

end Device.Sound

theorem Device.Sound.step {w w' : World} {event : Interleaving.Event Choice Stimulus}
    (hsound : w.shared.Sound) (hstep : driver.step w event = some w') : w'.shared.Sound := by
  cases event with
  | act i choice =>
    obtain ⟨s⟩ := System.actStep_of_step hstep
    have hexec : s.act.exec w.threads w.shared s.thread.kind s.thread.regs choice =
        some s.outcome := s.exec
    rw [s.shared_after]
    exact hsound.act hexec
  | env stimulus =>
    obtain ⟨keepalive, hshared, -⟩ | ⟨_, -, hshared, -⟩ := environment_cases hstep
    · exact hsound.of_eq (by rw [hshared])
    · exact hsound.of_eq (by rw [hshared])

-- The driver and the force feedback of its slots. No profile declares force feedback, so
-- these steps stand beside the driver's own, and any slot may take them.
structure PidWorld where
  world : World
  pids : ControllerId → SlotPid

inductive PidEvent where
  | driver (event : Interleaving.Event Choice Stimulus)
  -- A slot is reset within some step of the driver.
  | reset (id : ControllerId)
  | write (id : ControllerId) (transfer : Transfer)
  | setFeature (id : ControllerId) (transfer : Transfer)
  | tick

namespace PidWorld

def initial (keepalive : Bool) : PidWorld := ⟨World.initial keepalive, fun _ => .created⟩

def data (w : PidWorld) (id : ControllerId) : SlotData := (w.world.shared.controllers id).data

def sectionOf (w : PidWorld) (id : ControllerId) : Section := w.world.shared.sectionOf id 0

-- One slot's force feedback after a step, and what it has put among the slot's data.
def setSlot (w : PidWorld) (id : ControllerId) (after : SlotPid × SlotData) : PidWorld where
  world := { w.world with
    shared := w.world.shared.setSlot id { w.world.shared.controllers id with data := after.2 } }
  pids := Function.update w.pids id after.1

-- All slots tick under one lock.
def tick (w : PidWorld) : PidWorld :=
  let after id := (w.pids id).tick (w.sectionOf id) (w.data id)
  { world := { w.world with
      shared := w.world.shared.mapSlots fun id slot => { slot with data := (after id).2 } }
    pids := fun id => (after id).1 }

def step (w : PidWorld) : PidEvent → Option PidWorld
  | .driver event =>
    (LibVirtualGamepad.driver.step w.world event).map fun world => { w with world := world }
  | .reset id => some (w.setSlot id (.created, w.data id))
  | .write id transfer =>
    some (w.setSlot id ((w.pids id).write (w.sectionOf id) transfer (w.data id)).2)
  | .setFeature id transfer =>
    some (w.setSlot id (((w.pids id).setFeature (w.sectionOf id) transfer).2, w.data id))
  | .tick => some w.tick

section Force

variable {s : Section} {data : SlotData} {pid : SlotPid}

theorem sound_publish {controllerId : UInt32} (h : data.feedback.Sound controllerId) :
    (pid.publish controllerId data).2.feedback.Sound controllerId := by
  unfold SlotPid.publish
  dsimp only
  split
  · exact h
  · exact h.coalesce (sound_rumbleRgb _ (.inr rfl))

theorem sound_pidWrite (h : data.feedback.Sound s.controllerId) (transfer : Transfer) :
    (pid.write s transfer data).2.2.feedback.Sound s.controllerId := by
  unfold SlotPid.write
  dsimp only
  split
  · split
    · exact sound_publish h
    · exact h
  · exact h

theorem sound_pidTick (h : data.feedback.Sound s.controllerId) :
    (pid.tick s data).2.feedback.Sound s.controllerId := by
  unfold SlotPid.tick
  split
  · exact sound_publish h
  · exact h

end Force

theorem sound_step {w w' : PidWorld} {event : PidEvent} (h : w.world.shared.Sound)
    (hstep : w.step event = some w') : w'.world.shared.Sound := by
  cases event with
  | driver event =>
    simp only [step, Option.map_eq_some_iff] at hstep
    obtain ⟨world, hworld, rfl⟩ := hstep
    exact h.step hworld
  | reset id =>
    cases hstep
    exact h.setSlot (h id)
  | write id transfer =>
    cases hstep
    have hwrite : ((w.pids id).write (w.sectionOf id) transfer
        (w.data id)).2.2.feedback.Sound (w.sectionOf id).controllerId :=
      sound_pidWrite (h id) transfer
    exact h.setSlot hwrite
  | setFeature id transfer =>
    cases hstep
    exact h.setSlot (h id)
  | tick =>
    cases hstep
    intro id
    exact sound_pidTick (s := w.sectionOf id) (h id)

theorem sound_run {events : List PidEvent} {w w' : PidWorld} (h : w.world.shared.Sound)
    (hrun : events.foldlM step w = some w') : w'.world.shared.Sound := by
  induction events generalizing w with
  | nil =>
    cases hrun
    exact h
  | cons event rest ih =>
    rw [List.foldlM_cons, Option.bind_eq_bind, Option.bind_eq_some_iff] at hrun
    obtain ⟨next, hstep, hrest⟩ := hrun
    exact ih (sound_step h hstep) hrest

theorem sound_initial (keepalive : Bool) : (initial keepalive).world.shared.Sound :=
  fun _ => .zero

end PidWorld

theorem ControllerId.ofNat_ofRequest {request : UInt32} {id : ControllerId}
    (h : ControllerId.ofRequest request = some id) : UInt32.ofNat id = request := by
  unfold ControllerId.ofRequest at h
  split at h
  · cases h
    exact UInt32.ofNat_toNat
  · cases h

-- Whatever has happened to the slots, a polled event is one that the client takes.
theorem polled_events_accepted (keepalive : Bool) (events : List PidEvent) (w : PidWorld)
    (hrun : events.foldlM PidWorld.step (.initial keepalive) = some w) (request : UInt32)
    (id : ControllerId) (hrequest : ControllerId.ofRequest request = some id) (now : UInt64)
    (owner : File) (event : FeedbackEvent)
    (hpoll : ((w.world.shared.sectionOf id now).poll owner (w.data id)).output =
      some (.event event)) :
    event.Sound request := by
  have hsound := PidWorld.sound_run (PidWorld.sound_initial keepalive) hrun
  rw [← ControllerId.ofNat_ofRequest hrequest]
  exact (sound_poll (s := w.world.shared.sectionOf id now) (hsound id) owner).2 event hpoll

-- A controller is created, the host writes one of its settings, and force feedback ticks.
def settingsWritten : List PidEvent :=
  (creation ⟨0, .steamController, 0⟩ 1 ++ .env (.start (.callback ⟨0, by decide⟩ 0
    (.setFeature ⟨0x01, some [0x01, 0x87, 3, 9, 0, 0]⟩))) :: willingly 2 1).map .driver ++ [.tick]

theorem polled_events_accepted_settings :
    ∃ w event, settingsWritten.foldlM PidWorld.step (.initial true) = some w ∧
      ((w.world.shared.sectionOf ⟨0, by decide⟩ 0).poll 1 (w.data ⟨0, by decide⟩)).output =
        some (.event event) ∧ event.type = .steamSettings ∧ event.Sound 0 := by
  have hpolled : (settingsWritten.foldlM PidWorld.step (.initial true)).map (fun w =>
      ((w.world.shared.sectionOf ⟨0, by decide⟩ 0).poll 1 (w.data ⟨0, by decide⟩)).output) =
      some (some (.event (.make 0 .steamSettings (settingsChunk 0x87 [9, 0, 0] 1 0).bytes))) := rfl
  obtain ⟨w, hrun, hpoll⟩ := Option.map_eq_some_iff.1 hpolled
  exact ⟨w, _, hrun, hpoll, rfl, polled_events_accepted true _ w hrun 0 _ rfl 0 1 _ hpoll⟩

end LibVirtualGamepad
