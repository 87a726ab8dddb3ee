import LibVirtualGamepad.Driver.SlotRun.InputDrain
import LibVirtualGamepad.SteamController.Word

-- A discrete edge never rides only on a replaceable report: where one request is handled
-- after the other, a snapshot repeats the discrete word of the state report before it.
namespace LibVirtualGamepad

open SteamController

def PumpEvent.kind (event : PumpEvent) : Option ReportKind := event.op.offered.map Prod.snd

def PumpEvent.word (event : PumpEvent) : Option DiscreteWord := event.tag.map StateTag.word

def newestState (events : List PumpEvent) : Option PumpEvent :=
  (events.filter PumpEvent.isState).getLast?

-- Every snapshot repeats the word of the state report before it.
def EdgesKept (events : List PumpEvent) : Prop :=
  ∀ n event previous, events[n]? = some event → event.kind = some .continuous →
    newestState (events.take n) = some previous →
      ∃ word, event.word = some word ∧ previous.word = some word

theorem newestState_append (events : List PumpEvent) (event : PumpEvent) :
    newestState (events ++ [event]) = if event.isState then some event else newestState events := by
  rw [newestState, List.filter_append]
  cases hstate : event.isState with
  | false => simp [newestState, hstate]
  | true => simp [hstate]

theorem EdgesKept.append {events : List PumpEvent} (h : EdgesKept events) {event : PumpEvent}
    (hevent : event.kind = some .continuous → ∀ previous, newestState events = some previous →
      ∃ word, event.word = some word ∧ previous.word = some word) : EdgesKept (events ++ [event]) := by
  intro n other previous hget hkind hnewest
  by_cases hn : n < events.length
  · rw [List.getElem?_append_left hn] at hget
    rw [List.take_append_of_le_length (Nat.le_of_lt hn)] at hnewest
    exact h n other previous hget hkind hnewest
  · rw [List.getElem?_append_right (by omega)] at hget
    obtain ⟨hlen, rfl⟩ := List.getElem?_eq_some_iff.mp hget
    have hzero : n - events.length = 0 := by simpa using hlen
    have hnlen : n = events.length := by omega
    subst hnlen
    rw [List.take_left] at hnewest
    simp only [Nat.sub_self, List.getElem_cons_zero] at hkind ⊢
    exact hevent hkind previous hnewest

namespace SlotData

def touched (data : SlotData) : Vector Bool 2 :=
  match data.selectedProfile with
  | .dualshock4 => data.ds4.contacts.active
  | .dualsense => data.ds5.contacts.active
  | _ => Vector.replicate _ false

-- The word of a report of the last input, encoded now.
def currentWord (data : SlotData) : DiscreteWord :=
  if data.selectedProfile.isSteamController then
    .steam (wordAt data.sc26 data.lastInput)
  else
    .pad data.lastInput.buttons (data.lastInput.leftTrigger > 0) (data.lastInput.rightTrigger > 0)
      data.touched

end SlotData

-- What the classifier remembers is the last input, for a Steam Controller with the pads
-- as they were then.
structure Signed (data : SlotData) : Prop where
  steam : data.selectedProfile.isSteamController = true →
    Latched data.lastInput.buttons data.sc26 ∧
      ∃ earlier, SameLatches data.sc26 earlier ∧ data.pump.lastButtons = wordAt earlier data.lastInput
  pad : data.selectedProfile.isSteamController = false →
    data.pump.lastButtons = data.lastInput.buttons ∧
      data.pump.lastLeftTrigger = decide (data.lastInput.leftTrigger > 0) ∧
        data.pump.lastRightTrigger = decide (data.lastInput.rightTrigger > 0)

structure Classified (data : SlotData) : Prop where
  unreported : data.haveLastInput = false →
    newestState data.history.events = none ∧ data.pump.haveSignature = false
  signed : data.haveLastInput = true → Signed data

-- The newest state report carries the word of the slot as it is.
structure Steady (data : SlotData) : Prop where
  classified : Classified data
  reported : data.haveLastInput = true →
    ∃ event, newestState data.history.events = some event ∧ event.word = some data.currentWord

-- Nothing that a word is made of, or compared with, is different.
structure SameDiscrete (data data' : SlotData) : Prop where
  selectedProfile : data'.selectedProfile = data.selectedProfile
  lastInput : data'.lastInput = data.lastInput
  haveLastInput : data'.haveLastInput = data.haveLastInput
  touched : data'.touched = data.touched
  latches : SameLatches data.sc26 data'.sc26
  pads : data'.sc26.device.padTouched = data.sc26.device.padTouched
  signature : ReportPump.SameSignature data.pump data'.pump

section

variable {data data' data'' : SlotData}

theorem SameDiscrete.currentWord (h : SameDiscrete data data') :
    data'.currentWord = data.currentWord := by
  have hword := h.latches.wordAt h.pads data.lastInput
  simp only [SlotData.currentWord, h.selectedProfile, h.lastInput, h.touched, hword]

-- The pads may be touched since.
theorem Signed.congr (h : Signed data) (hprofile : data'.selectedProfile = data.selectedProfile)
    (hlast : data'.lastInput = data.lastInput) (hlatches : SameLatches data.sc26 data'.sc26)
    (hsignature : ReportPump.SameSignature data.pump data'.pump) : Signed data' := by
  refine ⟨fun hsteam => ?_, fun hpad => ?_⟩
  · obtain ⟨hlatched, earlier, hearlier, hbuttons⟩ := h.steam (hprofile ▸ hsteam)
    rw [hlast]
    refine ⟨hlatched.of_same hlatches, earlier, hlatches.symm.trans hearlier, ?_⟩
    rw [hsignature.lastButtons, hbuttons]
  · rw [hsignature.lastButtons, hsignature.lastLeftTrigger, hsignature.lastRightTrigger, hlast]
    exact h.pad (hprofile ▸ hpad)

theorem Classified.congr (h : Classified data) (hsame : SameDiscrete data data')
    (hnewest : newestState data'.history.events = newestState data.history.events) :
    Classified data' := by
  refine ⟨fun hnone => ?_, fun hsome => ?_⟩
  · rw [hnewest, hsame.signature.haveSignature]
    exact h.unreported (hsame.haveLastInput.symm.trans hnone)
  · exact (h.signed (hsame.haveLastInput.symm.trans hsome)).congr hsame.selectedProfile
      hsame.lastInput hsame.latches hsame.signature

theorem Steady.congr (h : Steady data) (hsame : SameDiscrete data data')
    (hnewest : newestState data'.history.events = newestState data.history.events) :
    Steady data' := by
  refine ⟨h.classified.congr hsame hnewest, fun hsome => ?_⟩
  rw [hnewest, hsame.currentWord]
  exact h.reported (hsame.haveLastInput.symm.trans hsome)

theorem sameDiscrete_enqueue (data : SlotData) (report : QueuedReport) :
    SameDiscrete data (data.enqueue report).2 :=
  ⟨rfl, rfl, rfl, rfl, .refl _, rfl, ReportPump.sameSignature_enqueue _ _ _ _⟩

theorem sameDiscrete_setReady (data : SlotData) : SameDiscrete data data.setReady :=
  ⟨rfl, rfl, rfl, rfl, .refl _, rfl, ⟨rfl, rfl, rfl, rfl⟩⟩

theorem sameDiscrete_takeReport (data : SlotData) (now : UInt64) :
    SameDiscrete data (data.takeReport now).2 := by
  have hsignature := ReportPump.sameSignature_take data.pump
  rcases htake : data.pump.take with ⟨taken, pump⟩
  rw [htake] at hsignature
  cases taken with
  | none =>
      simp only [SlotData.takeReport, htake]
      exact ⟨rfl, rfl, rfl, rfl, .refl _, rfl, hsignature⟩
  | some report =>
      simp only [SlotData.takeReport, htake]
      unfold SlotData.markSc26ReportTaken
      split
      · refine ⟨rfl, rfl, rfl, rfl, ⟨rfl, rfl, rfl, rfl, rfl, rfl, rfl⟩, rfl, ?_⟩
        dsimp only
        split
        · exact ⟨hsignature.haveSignature, hsignature.lastButtons, hsignature.lastLeftTrigger,
            hsignature.lastRightTrigger⟩
        · exact hsignature
      · exact ⟨rfl, rfl, rfl, rfl, .refl _, rfl, hsignature⟩

-- A section that finds the slot in use.
structure Section.InUse (s : Section) : Prop where
  active : s.isActive = true
  accepts : s.acceptsVhfCallbacks = true

variable {s : Section}

theorem edgesKept_quiet (h : EdgesKept data.history.events) {event : PumpEvent}
    (hevent : event.op.offered = none) : EdgesKept (data.history.events ++ [event]) :=
  h.append fun hkind => absurd hkind (by simp [PumpEvent.kind, hevent])

theorem newestState_quiet (events : List PumpEvent) {event : PumpEvent}
    (hevent : event.isState = false) : newestState (events ++ [event]) = newestState events := by
  rw [newestState_append, hevent]
  rfl

-- What a section of the pump leaves behind.
structure KeepsEdges (data : SlotData) : Prop where
  edges : EdgesKept data.history.events
  steady : Steady data

theorem KeepsEdges.takeReport (h : KeepsEdges data) (now : UInt64) : KeepsEdges (data.takeReport now).2 := by
  obtain ⟨-, hevents, -⟩ := takeReport_lines data now
  refine ⟨?_, h.steady.congr (sameDiscrete_takeReport data now) ?_⟩
  · rw [hevents]
    exact edgesKept_quiet h.edges rfl
  · rw [hevents]
    exact newestState_quiet _ rfl

theorem KeepsEdges.setReady (h : KeepsEdges data) : KeepsEdges data.setReady :=
  ⟨edgesKept_quiet h.edges rfl,
    h.steady.congr (sameDiscrete_setReady data) (newestState_quiet _ rfl)⟩

-- A reply or an aside is no state report.
theorem KeepsEdges.enqueue_reply (h : KeepsEdges data) {report : QueuedReport}
    (hkind : report.kind.isState = false) : KeepsEdges (data.enqueue report).2 := by
  have hoffered : ∀ offer, (PumpEvent.mk (.enqueue (some report.bytes) report.reportId report.kind)
      report.tag).op.offered = some offer → offer.2 = report.kind := by
    intro offer hoffer
    cases hbytes : report.bytes with
    | nil => simp [hbytes, ReportPump.PumpOp.offered] at hoffer
    | cons byte bytes =>
        simp only [hbytes, ReportPump.PumpOp.offered, Option.some.injEq] at hoffer
        rw [← hoffer]
  refine ⟨h.edges.append fun hcontinuous => ?_,
    h.steady.congr (sameDiscrete_enqueue data report) (newestState_quiet _ ?_)⟩
  · obtain ⟨offer, hoffer, hoff⟩ := Option.map_eq_some_iff.mp hcontinuous
    rw [← hoffered offer hoffer, hoff] at hkind
    exact absurd hkind (by simp [ReportKind.isState])
  · refine Bool.eq_false_iff.mpr fun hstate => ?_
    obtain ⟨offer, hoffer, hoff⟩ := Option.any_eq_true _ _ |>.mp hstate
    rw [hoffered offer hoffer, hkind] at hoff
    exact absurd hoff (by simp)

-- A state report that is about to be queued: a snapshot repeats the word before it.
structure Fits (data : SlotData) (report : QueuedReport) : Prop where
  classified : Classified data
  haveLastInput : data.haveLastInput = true
  state : report.kind.isState = true
  sized : 2 ≤ report.bytes.length
  word : report.tag.map StateTag.word = some data.currentWord
  repeats : report.kind = .continuous → ∀ previous, newestState data.history.events = some previous →
    previous.word = some data.currentWord

theorem Fits.enqueue {report : QueuedReport} (h : Fits data report)
    (hedges : EdgesKept data.history.events) : KeepsEdges (data.enqueue report).2 := by
  have hstate := isState_enqueue h.state h.sized
  have hkind : (PumpEvent.mk (.enqueue (some report.bytes) report.reportId report.kind)
      report.tag).kind = some .continuous → report.kind = .continuous := by
    intro hcontinuous
    cases hbytes : report.bytes with
    | nil => simp [hbytes, PumpEvent.kind, ReportPump.PumpOp.offered] at hcontinuous
    | cons byte bytes =>
        simpa [hbytes, PumpEvent.kind, ReportPump.PumpOp.offered] using hcontinuous
  have hsame := sameDiscrete_enqueue data report
  have hnewest : newestState (data.enqueue report).2.history.events =
      some ⟨.enqueue (some report.bytes) report.reportId report.kind, report.tag⟩ := by
    show newestState (data.history.events ++ [_]) = some _
    rw [newestState_append, if_pos hstate]
  refine ⟨hedges.append fun hcontinuous previous hprevious =>
    ⟨_, h.word, h.repeats (hkind hcontinuous) previous hprevious⟩, ⟨⟨fun hnone => ?_, fun _ => ?_⟩,
      fun _ => ⟨_, hnewest, ?_⟩⟩⟩
  · rw [hsame.haveLastInput, h.haveLastInput] at hnone
    exact absurd hnone (by simp)
  · exact (h.classified.signed h.haveLastInput).congr hsame.selectedProfile hsame.lastInput
      hsame.latches hsame.signature
  · rw [hsame.currentWord]
    exact h.word

theorem kept_pumpReport (huse : s.InUse) {report : QueuedReport} (answers : Bool)
    (h : KeepsEdges (data.enqueue report).2) :
    KeepsEdges (s.pumpReport (some report) answers data).data := by
  unfold Section.pumpReport Section.pumpReportLocked
  rw [if_pos huse.accepts]
  exact h.takeReport s.now

theorem kept_pump (huse : s.InUse) (answers : Bool) (h : KeepsEdges data) :
    KeepsEdges (s.pumpReport none answers data).data := by
  unfold Section.pumpReport Section.pumpReportLocked
  rw [if_pos huse.accepts]
  exact h.takeReport s.now

end

-- What is left of an operation that has run a section.
def Underway (data : SlotData) : SlotStep → Prop
  | .applyUpdate _ | .carryMotion => KeepsEdges data ∧ Section.hasSensors data.selectedProfile = true
  | .profileReport kind => Section.hasSensors data.selectedProfile = true ∧ kind.isState = true ∧
      EdgesKept data.history.events ∧ Classified data ∧ (kind = .continuous → Steady data)
  | .pumpReport none _ => KeepsEdges data
  | .pumpReport (some report) _ => KeepsEdges (data.enqueue report).2
  | _ => False

inductive Leaves (r : StepResult) : Prop where
  | done (next : r.next = []) (kept : KeepsEdges r.data)
  | goes (after : SlotStep) (next : r.next = [after]) (underway : Underway r.data after)

section

variable {data : SlotData} {s : Section}

theorem sameDiscrete_encodePlaystation (data : SlotData) (input : InputStateRequest) (now : UInt64) :
    SameDiscrete data (data.encodePlaystation input now).2 := by
  unfold SlotData.encodePlaystation
  split <;> exact ⟨rfl, rfl, rfl, rfl, .refl _, rfl, .refl _⟩

theorem sameDiscrete_encodeSwitch (data : SlotData) (input : InputStateRequest) :
    SameDiscrete data (data.encodeSwitch input).2 :=
  ⟨rfl, rfl, rfl, rfl, .refl _, rfl, .refl _⟩

theorem sameDiscrete_encodeSteam (h : Latched data.lastInput.buttons data.sc26) (now : UInt64) :
    SameDiscrete data (data.encodeSteam data.lastInput now).2 :=
  ⟨rfl, rfl, rfl, rfl, h.encode now, padTouched_encode data.lastInput now data.sc26, .refl _⟩

theorem word_encodePlaystation (hprofile : data.selectedProfile.isPlaystation = true)
    (now : UInt64) :
    (data.encodePlaystation data.lastInput now).1.tag.word = data.currentWord := by
  simp only [Profile.isPlaystation, Bool.or_eq_true, beq_iff_eq] at hprofile
  rcases hprofile with hprofile | hprofile <;>
    simp [SlotData.encodePlaystation, SlotData.currentWord, hprofile, Profile.isSteamController,
      SlotData.touched, SlotData.padTag, DualShock4.encodeDs4Input, DualSense.encodeDs5Input]

theorem word_encodeSwitch (hprofile : data.selectedProfile = .switchPro) :
    (data.encodeSwitch data.lastInput).1.tag.word = data.currentWord := by
  simp [SlotData.encodeSwitch, SlotData.currentWord, hprofile, Profile.isSteamController,
    SlotData.touched, SlotData.padTag]

theorem word_untouched {input : InputStateRequest}
    (hprofile : data.selectedProfile.isXbox = true ∨
      data.selectedProfile = .genericHid ∨ data.selectedProfile = .genericPid)
    (hpad : data.selectedProfile.isSteamController = false) (hlast : data.lastInput = input) :
    (data.padTag input (Vector.replicate _ false)).word = data.currentWord := by
  have htouched : data.touched = Vector.replicate _ false := by
    simp only [Profile.isXbox, Bool.or_eq_true, beq_iff_eq] at hprofile
    rcases hprofile with (hprofile | hprofile) | hprofile | hprofile <;>
      simp [SlotData.touched, hprofile]
  simp only [SlotData.currentWord, hpad, htouched, hlast, Bool.false_eq_true, if_false]
  rfl

theorem word_encodeSteam (hprofile : data.selectedProfile.isSteamController = true)
    (now : UInt64) :
    (data.encodeSteam data.lastInput now).1.tag.word =
      (data.encodeSteam data.lastInput now).2.currentWord := by
  have hsteam : (data.encodeSteam data.lastInput now).2.selectedProfile.isSteamController = true :=
    hprofile
  rw [SlotData.currentWord, if_pos hsteam]
  rfl

-- A report of the last input is sent again.
theorem fits_resend {encoded : SlotData.Encoded} {kind : ReportKind} (hclassified : Classified data)
    (hinput : data.haveLastInput = true) (hkind : kind.isState = true)
    (hsteady : kind = .continuous → Steady data) (hsized : 2 ≤ encoded.bytes.length)
    (hword : encoded.tag.word = data.currentWord) : Fits data (encoded.queued kind) := by
  refine ⟨hclassified, hinput, hkind, hsized, congrArg some hword, fun hcontinuous previous hprevious => ?_⟩
  obtain ⟨event, hnewest, hevent⟩ := (hsteady hcontinuous).reported hinput
  rw [hnewest] at hprevious
  rw [← Option.some.inj hprevious]
  exact hevent

theorem leaves_same {r : StepResult} (h : KeepsEdges data) (hdata : r.data = data)
    (hnext : r.next = []) : Leaves r := .done hnext (hdata ▸ h)

-- The section that resends the last input.
theorem leaves_profileReport (huse : s.InUse) {kind : ReportKind}
    (h : Underway data (.profileReport kind)) : Leaves (s.profileReport kind data) := by
  obtain ⟨hsensors, hkind, hedges, hclassified, hsteady⟩ := h
  unfold Section.profileReport
  rw [huse.active]
  dsimp only [Bool.not_true]
  rw [if_neg (by simp)]
  cases hinput : data.haveLastInput with
  | false =>
      -- Nothing has been sent yet.
      have hsteady : Steady data := ⟨hclassified, fun hsome => by simp [hinput] at hsome⟩
      exact .done rfl ⟨hedges, hsteady⟩
  | true =>
      simp only [Bool.not_true, Bool.false_eq_true, if_false]
      split
      · rename_i hprofile
        have hlatched := ((hclassified.signed hinput).steam hprofile).1
        have hsame := sameDiscrete_encodeSteam hlatched s.now
        refine .done (next_pumpReport _ _ _ _) (kept_pumpReport huse true (Fits.enqueue ?_ hedges))
        exact fits_resend (hclassified.congr hsame rfl) hinput hkind
          (fun hcontinuous => (hsteady hcontinuous).congr hsame rfl)
          (StateReportOf.steam data s.now : StateReportOf data.lastInput _).sized
          (word_encodeSteam hprofile s.now)
      · split
        · rename_i hprofile
          have hsame := sameDiscrete_encodeSwitch data data.lastInput
          refine .goes _ rfl (Fits.enqueue ?_ hedges)
          exact fits_resend (hclassified.congr hsame rfl) hinput hkind
            (fun hcontinuous => (hsteady hcontinuous).congr hsame rfl)
            (StateReportOf.switch data : StateReportOf data.lastInput _).sized
            ((word_encodeSwitch hprofile).trans hsame.currentWord.symm)
        · rename_i hsteam hswitch
          have hsame := sameDiscrete_encodePlaystation data data.lastInput s.now
          have hprofile : data.selectedProfile.isPlaystation = true := by
            simp only [Section.hasSensors, Bool.or_eq_true, beq_iff_eq] at hsensors
            rcases hsensors with (hpad | hother) | hother
            · exact hpad
            · exact absurd hother hswitch
            · exact absurd hother hsteam
          have hhistory := (same_encodePlaystation data data.lastInput s.now).history
          refine .goes _ rfl (Fits.enqueue ?_ (hhistory ▸ hedges))
          exact fits_resend (hclassified.congr hsame (by rw [hhistory]))
            (hsame.haveLastInput.trans hinput) hkind
            (fun hcontinuous => (hsteady hcontinuous).congr hsame (by rw [hhistory]))
            (StateReportOf.playstation data s.now : StateReportOf data.lastInput _).sized
            ((word_encodePlaystation hprofile s.now).trans hsame.currentWord.symm)

-- Only moves and hovers travel as snapshots.
theorem moves_of_touchKind {event : TouchEvent} (h : Section.touchKind event = .continuous) :
    event = .move ∨ event = .hover := by
  unfold Section.touchKind at h
  split at h
  · assumption
  · exact absurd h (by simp)

-- A move or a hover lifts no contact and sets none down, nor does a refused event.
theorem active_apply (touch : TouchStateRequest) (contacts : Playstation.Contacts)
    (h : Section.touchKind (TouchEvent.ofByte touch.eventType) = .continuous ∨
      (contacts.apply touch).1 = false) : (contacts.apply touch).2.active = contacts.active := by
  have hnever : ∀ event : TouchEvent, event ≠ .move → event ≠ .hover →
      Section.touchKind event = .continuous ∨ true = false → False := by
    intro event hmove hhover hkind
    rcases hkind with hkind | hkind
    · exact (moves_of_touchKind hkind).elim hmove hhover
    · exact absurd hkind (by simp)
  unfold Playstation.Contacts.apply at h ⊢
  cases hevent : TouchEvent.ofByte touch.eventType with
  | cancelAll =>
      rw [hevent] at h
      exact absurd h (hnever _ (by simp) (by simp))
  | down | up | cancel =>
      rw [hevent] at h
      dsimp only at h ⊢
      split at h
      · exact absurd h (hnever _ (by simp) (by simp))
      · rename_i hindex
        rw [dif_neg hindex]
  | move | hover =>
      dsimp only
      split
      · split <;> rfl
      · rfl
  | other raw =>
      dsimp only
      split <;> rfl

theorem setIfInBounds_same {pads : Vector Bool 2} {pad : Nat}
    (h : pads.toList.getD pad false = true) : pads.setIfInBounds pad true = pads := by
  ext i hi
  rw [Vector.getElem_setIfInBounds]
  split
  · rename_i heq
    subst heq
    simpa [List.getD_eq_getElem?_getD, hi] using h.symm
  · rfl

theorem pads_apply (touch : TouchStateRequest) (state : Sc26State)
    (h : Section.touchKind (TouchEvent.ofByte touch.eventType) = .continuous ∨
      (applySc26Touch touch state).1 = false) :
    (applySc26Touch touch state).2.device.padTouched = state.device.padTouched := by
  have hnever : ∀ event : TouchEvent, event ≠ .move → event ≠ .hover →
      Section.touchKind event = .continuous ∨ true = false → False := by
    intro event hmove hhover hkind
    rcases hkind with hkind | hkind
    · exact (moves_of_touchKind hkind).elim hmove hhover
    · exact absurd hkind (by simp)
  unfold applySc26Touch at h ⊢
  cases hevent : TouchEvent.ofByte touch.eventType with
  | cancelAll =>
      rw [hevent] at h
      exact absurd h (hnever _ (by simp) (by simp))
  | down | up | cancel =>
      rw [hevent] at h
      dsimp only at h ⊢
      split at h
      · rename_i hindex
        rw [if_pos hindex]
      · exact absurd h (hnever _ (by simp) (by simp))
  | move | hover =>
      dsimp only
      split
      · rfl
      · split
        · rename_i htouched
          exact setIfInBounds_same htouched
        · rfl
  | other raw =>
      dsimp only
      split <;> rfl

theorem touchKind_isState (event : TouchEvent) : (Section.touchKind event).isState = true := by
  unfold Section.touchKind
  split <;> rfl

theorem leaves_applyTouch (request : TouchStateRequest)
    (h : KeepsEdges data) (hsensors : Section.hasSensors data.selectedProfile = true) :
    Leaves (Section.applyTouch request data) := by
  unfold Section.applyTouch
  split
  · exact leaves_same h rfl rfl
  · split
    rename_i applied after heq
    -- The contacts may be others, the rest is the same; and where the report is to be a
    -- snapshot the contacts are the same, too.
    have hafter : after.selectedProfile = data.selectedProfile ∧ after.lastInput = data.lastInput ∧
        after.haveLastInput = data.haveLastInput ∧ SameLatches data.sc26 after.sc26 ∧
        after.pump = data.pump ∧ after.history = data.history ∧
        (Section.touchKind (TouchEvent.ofByte request.eventType) = .continuous ∨ applied = false →
          SameDiscrete data after) := by
      rw [show applied = _ from (congrArg Prod.fst heq).symm,
        show after = _ from (congrArg Prod.snd heq).symm]
      split
      · rename_i hprofile
        refine ⟨rfl, rfl, rfl, .refl _, rfl, rfl, fun hsame => ⟨rfl, rfl, rfl, ?_, .refl _, rfl, .refl _⟩⟩
        have hactive := active_apply request data.ds4.contacts hsame
        simp only [SlotData.touched, hprofile]
        exact hactive
      · split
        · rename_i hprofile
          refine ⟨rfl, rfl, rfl, .refl _, rfl, rfl, fun hsame => ⟨rfl, rfl, rfl, ?_, .refl _, rfl, .refl _⟩⟩
          have hactive := active_apply request data.ds5.contacts hsame
          simp only [SlotData.touched, hprofile]
          exact hactive
        · split
          · have hlatches := latches_apply request data.sc26
            refine ⟨rfl, rfl, rfl, hlatches, rfl, rfl, fun hsame => ?_⟩
            exact ⟨rfl, rfl, rfl, rfl, hlatches, pads_apply request data.sc26 hsame, .refl _⟩
          · exact ⟨rfl, rfl, rfl, .refl _, rfl, rfl, fun _ => ⟨rfl, rfl, rfl, rfl, .refl _, rfl, .refl _⟩⟩
    obtain ⟨hprofile, hlast, hhave, hlatches, hpump, hhistory, hsame⟩ := hafter
    split
    · refine .goes _ rfl ⟨?_, touchKind_isState _, ?_, ⟨fun hnone => ?_, fun hsome => ?_⟩,
        fun hkind => ?_⟩
      · rw [hprofile]
        exact hsensors
      · rw [hhistory]
        exact h.edges
      · rw [hhistory, hpump]
        exact h.steady.classified.unreported (hhave.symm.trans hnone)
      · exact (h.steady.classified.signed (hhave.symm.trans hsome)).congr hprofile hlast hlatches
          (hpump ▸ .refl _)
      · exact h.steady.congr (hsame (.inl hkind)) (by rw [hhistory])
    · rename_i hrefused
      have hdiscrete := hsame (.inr (by simpa using hrefused))
      refine .done rfl ⟨?_, h.steady.congr hdiscrete (by rw [hhistory])⟩
      rw [hhistory]
      exact h.edges

-- A sample or a charge is no part of the word.
theorem leaves_resend {after : SlotData} (h : KeepsEdges data)
    (hsensors : Section.hasSensors data.selectedProfile = true) (hsame : SameDiscrete data after)
    (hhistory : after.history = data.history) : Underway after (.profileReport .continuous) := by
  have hsteady := h.steady.congr hsame (by rw [hhistory])
  refine ⟨?_, rfl, ?_, hsteady.classified, fun _ => hsteady⟩
  · rw [hsame.selectedProfile]
    exact hsensors
  · rw [hhistory]
    exact h.edges

theorem KeepsEdges.congr {after : SlotData} (h : KeepsEdges data) (hsame : SameDiscrete data after)
    (hhistory : after.history = data.history) : KeepsEdges after := by
  refine ⟨?_, h.steady.congr hsame (by rw [hhistory])⟩
  rw [hhistory]
  exact h.edges

theorem leaves_applyMotion (request : MotionStateRequest) (h : KeepsEdges data)
    (hsensors : Section.hasSensors data.selectedProfile = true) :
    Leaves (s.applyMotion request data) := by
  unfold Section.applyMotion
  split
  rename_i applied after heq
  have hafter : SameDiscrete data after ∧ after.history = data.history := by
    rw [show after = _ from (congrArg Prod.snd heq).symm]
    split
    · exact ⟨⟨rfl, rfl, rfl, rfl, .refl _, rfl, .refl _⟩, rfl⟩
    · split
      · exact ⟨⟨rfl, rfl, rfl, rfl, .refl _, rfl, .refl _⟩, rfl⟩
      · split
        · refine ⟨⟨rfl, rfl, rfl, rfl, ?_, ?_, .refl _⟩, rfl⟩
          · exact (latches_motion request s.now data.sc26).1
          · exact (latches_motion request s.now data.sc26).2
        · exact ⟨⟨rfl, rfl, rfl, rfl, .refl _, rfl, .refl _⟩, rfl⟩
  obtain ⟨hsame, hhistory⟩ := hafter
  split
  · exact .done rfl (h.congr hsame hhistory)
  · split
    · exact .goes _ rfl ⟨h.congr hsame hhistory, by rw [hsame.selectedProfile]; exact hsensors⟩
    · exact .goes _ rfl (leaves_resend h hsensors hsame hhistory)

theorem leaves_applyBattery (request : BatteryStateRequest) (h : KeepsEdges data)
    (hsensors : Section.hasSensors data.selectedProfile = true) :
    Leaves (s.applyBattery request data) := by
  unfold Section.applyBattery
  split
  · exact .goes _ rfl (leaves_resend h hsensors ⟨rfl, rfl, rfl, rfl, .refl _, rfl, .refl _⟩ rfl)
  · split
    · exact .goes _ rfl (leaves_resend h hsensors ⟨rfl, rfl, rfl, rfl, .refl _, rfl, .refl _⟩ rfl)
    · split
      · obtain ⟨hlatches, hpads⟩ := latches_battery request data.sc26
        have hstamped : ∀ now : UInt64, KeepsEdges { data with
            sc26 := { applySc26Battery request data.sc26 with lastBatteryUs := now } } := fun now =>
          h.congr ⟨rfl, rfl, rfl, rfl, hlatches.trans ⟨rfl, rfl, rfl, rfl, rfl, rfl, rfl⟩, hpads,
            .refl _⟩ rfl
        dsimp only
        split
        · exact .goes _ rfl ((hstamped _).enqueue_reply rfl)
        · exact .done rfl (hstamped _)
      · exact .goes _ rfl (leaves_resend h hsensors ⟨rfl, rfl, rfl, rfl, .refl _, rfl, .refl _⟩ rfl)

theorem leaves_carryMotion (h : Underway data .carryMotion) : Leaves (s.carryMotion data) := by
  obtain ⟨hkept, hsensors⟩ := h
  unfold Section.carryMotion
  split
  · exact .done rfl hkept
  · exact .goes _ rfl
      (leaves_resend hkept hsensors ⟨rfl, rfl, rfl, rfl, .refl _, rfl, .refl _⟩ rfl)

theorem leaves_beginUpdate (owner : File) (update : StateUpdate) (h : KeepsEdges data) :
    Leaves (s.beginUpdate owner update data) := by
  unfold Section.beginUpdate
  split
  · exact leaves_same h rfl rfl
  · split
    · exact leaves_same h rfl rfl
    · split
      · exact leaves_same h rfl rfl
      · split
        · exact leaves_same h rfl rfl
        · rename_i hsensors
          exact .goes _ rfl ⟨h, by simpa using hsensors⟩

theorem leaves_ready (huse : s.InUse) (h : KeepsEdges data) : Leaves (s.ready data) := by
  unfold Section.ready
  rw [if_pos huse.accepts]
  exact .done rfl (h.setReady.takeReport s.now)

theorem leaves_pumpReport (huse : s.InUse) {report : Option QueuedReport} {answers : Bool}
    (h : Underway data (.pumpReport report answers)) : Leaves (s.pumpReport report answers data) := by
  cases report with
  | none => exact .done (next_pumpReport _ _ _ _) (kept_pump huse answers h)
  | some report => exact .done (next_pumpReport _ _ _ _) (kept_pumpReport huse answers h)

theorem leaves_keepalive (huse : s.InUse) (h : KeepsEdges data) : Leaves (s.keepalive data) := by
  unfold Section.keepalive
  split
  · exact leaves_same h rfl rfl
  · rename_i hidle
    simp only [Section.keepaliveActive, Bool.not_eq_true', Bool.not_eq_false, Bool.and_eq_true]
      at hidle
    obtain ⟨⟨-, hprofile⟩, hinput⟩ := hidle
    split
    · exact .done rfl (h.congr ⟨rfl, rfl, rfl, rfl, ⟨rfl, rfl, rfl, rfl, rfl, rfl, rfl⟩, rfl, .refl _⟩ rfl)
    · extract_lets batteryDue enqueued sc26 charged resendDue
      have hcharged : KeepsEdges charged ∧ charged.selectedProfile = data.selectedProfile ∧
          charged.haveLastInput = data.haveLastInput := by
        dsimp only [charged]
        split
        · have hqueued : KeepsEdges (data.enqueue (Section.batteryReport data)).2 := h.enqueue_reply rfl
          exact ⟨hqueued.congr ⟨rfl, rfl, rfl, rfl, ⟨rfl, rfl, rfl, rfl, rfl, rfl, rfl⟩, rfl, .refl _⟩ rfl,
            rfl, rfl⟩
        · exact ⟨h, rfl, rfl⟩
      obtain ⟨hkept, hprofile', hinput'⟩ := hcharged
      clear_value charged
      split
      · exact .done rfl hkept
      · split
        · have hsigned := hkept.steady.classified.signed (hinput'.trans hinput)
          have hsteam : charged.selectedProfile.isSteamController = true := hprofile' ▸ hprofile
          have hsame := sameDiscrete_encodeSteam (hsigned.steam hsteam).1 s.now
          have hsteady := hkept.steady.congr hsame rfl
          have hfits : Fits (charged.encodeSteam charged.lastInput s.now).2
              ((charged.encodeSteam charged.lastInput s.now).1.queued .continuous) :=
            fits_resend hsteady.classified (hsame.haveLastInput.trans (hinput'.trans hinput)) rfl
              (fun _ => hsteady)
              (StateReportOf.steam charged s.now : StateReportOf charged.lastInput _).sized
              (word_encodeSteam hsteam s.now)
          exact .done (next_pumpReport _ _ _ _) (kept_pumpReport huse false (hfits.enqueue hkept.edges))
        · exact .done (next_pumpReport _ _ _ _) (kept_pump huse false hkept)

-- The classifier calls an input a snapshot only if it equals what it remembers.
theorem classify_continuous {buttons : UInt32} {leftTrigger rightTrigger : UInt8}
    (h : (data.classify buttons leftTrigger rightTrigger).1 = .continuous) :
    data.pump.haveSignature = true ∧ buttons = data.pump.lastButtons ∧
      decide (leftTrigger > 0) = data.pump.lastLeftTrigger ∧
        decide (rightTrigger > 0) = data.pump.lastRightTrigger := by
  simp only [SlotData.classify, ReportPump.classify] at h
  split at h
  · exact absurd h (by simp)
  · rename_i hsame
    simpa only [Bool.or_eq_true, not_or, Bool.not_eq_true', bne_iff_ne, ne_eq, not_not,
      Bool.not_eq_true, Bool.not_eq_false, and_assoc] using hsame

-- The report of an input of any profile but the Steam Controller's.
theorem fits_input (h : KeepsEdges data) (hprofile : data.selectedProfile.isSteamController = false)
    (request : InputStateRequest) {after : SlotData} {encoded : SlotData.Encoded}
    (hafter : SameDiscrete ((data.keepInput request).classify request.buttons request.leftTrigger
      request.rightTrigger).2 after)
    (hhistory : after.history.events = data.history.events) (hsized : 2 ≤ encoded.bytes.length)
    (hword : encoded.tag.word = after.currentWord) :
    Fits after (encoded.queued ((data.keepInput request).classify request.buttons
      request.leftTrigger request.rightTrigger).1) := by
  have hhave : after.haveLastInput = true := hafter.haveLastInput
  have hpad : after.selectedProfile.isSteamController = false := by
    rw [hafter.selectedProfile]
    exact hprofile
  have hlast : after.lastInput = request := hafter.lastInput
  refine ⟨⟨fun hnone => ?_, fun _ => ⟨fun hsteam => ?_, fun _ => ?_⟩⟩, hhave,
    classify_isState _ _ _ _, hsized, congrArg some hword, fun hcontinuous previous hprevious => ?_⟩
  · rw [hhave] at hnone
    exact absurd hnone (by simp)
  · rw [hpad] at hsteam
    exact absurd hsteam (by simp)
  · rw [hafter.signature.lastButtons, hafter.signature.lastLeftTrigger,
      hafter.signature.lastRightTrigger, hlast]
    exact ⟨rfl, rfl, rfl⟩
  · -- A snapshot of the same buttons and triggers as in the last input.
    obtain ⟨hsignature, hbuttons, hleft, hright⟩ := classify_continuous hcontinuous
    have hinput : data.haveLastInput = true := by
      cases hnone : data.haveLastInput with
      | true => rfl
      | false =>
          have hunsigned := (h.steady.classified.unreported hnone).2
          rw [show (data.keepInput request).pump = data.pump from rfl, hunsigned] at hsignature
          exact absurd hsignature (by simp)
    obtain ⟨hlastButtons, hlastLeft, hlastRight⟩ := (h.steady.classified.signed hinput).pad hprofile
    obtain ⟨event, hnewest, hevent⟩ := h.steady.reported hinput
    rw [hhistory, hnewest] at hprevious
    rw [← Option.some.inj hprevious, hevent]
    have htouched : after.touched = data.touched := hafter.touched
    have hb : request.buttons = data.lastInput.buttons := hbuttons.trans hlastButtons
    have hl : decide (request.leftTrigger > 0) = decide (data.lastInput.leftTrigger > 0) :=
      hleft.trans hlastLeft
    have hr : decide (request.rightTrigger > 0) = decide (data.lastInput.rightTrigger > 0) :=
      hright.trans hlastRight
    simp only [SlotData.currentWord, hpad, hprofile, hlast, htouched, hb, hl, hr, Bool.false_eq_true,
      if_false]

-- A Steam Controller's report is classified on its word. An equal word means that the
-- pads are touched as they were at the last input, so nothing has changed since then.
theorem fits_steamInput (h : KeepsEdges data)
    (hprofile : data.selectedProfile.isSteamController = true) (request : InputStateRequest)
    (now : UInt64) {encoded : SlotData} {word : UInt32}
    (hencoded : encoded = ((data.keepInput request).encodeSteam request now).2)
    (hword : word = wordAt encoded.sc26 request) :
    Fits (encoded.classify word request.leftTrigger request.rightTrigger).2
      (((data.keepInput request).encodeSteam request now).1.queued
        (encoded.classify word request.leftTrigger request.rightTrigger).1) := by
  have hlatched : Latched request.buttons encoded.sc26 := by
    rw [hencoded]
    exact latched_encode request now data.sc26
  have hpads : encoded.sc26.device.padTouched = data.sc26.device.padTouched := by
    rw [hencoded]
    exact padTouched_encode request now data.sc26
  have hlast : encoded.lastInput = request := by rw [hencoded]; rfl
  have hhave : encoded.haveLastInput = true := by rw [hencoded]; rfl
  have hsteam : encoded.selectedProfile.isSteamController = true := by rw [hencoded]; exact hprofile
  have hpump : encoded.pump = data.pump := by rw [hencoded]; rfl
  have hevents : encoded.history.events = data.history.events := by rw [hencoded]; rfl
  have hcurrent : (encoded.classify word request.leftTrigger request.rightTrigger).2.currentWord =
      .steam word := by
    have hafter : (encoded.classify word request.leftTrigger
      request.rightTrigger).2.selectedProfile.isSteamController = true := hsteam
    rw [SlotData.currentWord, if_pos hafter, hword]
    show DiscreteWord.steam (wordAt encoded.sc26 encoded.lastInput) = _
    rw [hlast]
  have htag : ((data.keepInput request).encodeSteam request now).1.tag.word = .steam word := by
    rw [hword, hencoded]
    rfl
  refine ⟨⟨fun hnone => ?_, fun _ => ⟨fun _ => ⟨?_, encoded.sc26, .refl _, ?_⟩, fun hpad => ?_⟩⟩, hhave,
    classify_isState _ _ _ _, ?_, ?_, fun hcontinuous previous hprevious => ?_⟩
  · rw [show (encoded.classify word request.leftTrigger request.rightTrigger).2.haveLastInput = true
      from hhave] at hnone
    exact absurd hnone (by simp)
  · show Latched encoded.lastInput.buttons encoded.sc26
    rw [hlast]
    exact hlatched
  · show word = wordAt encoded.sc26 encoded.lastInput
    rw [hlast, hword]
  · rw [show (encoded.classify word request.leftTrigger
      request.rightTrigger).2.selectedProfile.isSteamController = true from hsteam] at hpad
    exact absurd hpad (by simp)
  · exact (StateReportOf.steam (data.keepInput request) now : StateReportOf request _).sized
  · rw [hcurrent]
    exact congrArg some htag
  · obtain ⟨hsignature, hbuttons, -⟩ := classify_continuous hcontinuous
    rw [hpump] at hsignature hbuttons
    have hinput : data.haveLastInput = true := by
      cases hnone : data.haveLastInput with
      | true => rfl
      | false =>
          rw [(h.steady.classified.unreported hnone).2] at hsignature
          exact absurd hsignature (by simp)
    obtain ⟨-, earlier, hearlier, hlastButtons⟩ :=
      (h.steady.classified.signed hinput).steam hprofile
    have hsame : wordAt encoded.sc26 request = wordAt earlier data.lastInput := by
      rw [← hword, hbuttons, hlastButtons]
    have hearlierPads : earlier.device.padTouched = data.sc26.device.padTouched := by
      rw [← padTouched_of_wordAt hsame, hpads]
    obtain ⟨event, hnewest, hevent⟩ := h.steady.reported hinput
    have hprevious' : newestState data.history.events = some previous := hevents ▸ hprevious
    rw [hnewest] at hprevious'
    rw [← Option.some.inj hprevious', hevent, hcurrent, SlotData.currentWord, if_pos hprofile,
      ← hearlier.wordAt hearlierPads, ← hsame, hword]

theorem leaves_input (huse : s.InUse) (owner : File) (request : InputStateRequest)
    (h : KeepsEdges data) : Leaves (s.input owner request data) := by
  unfold Section.input
  split
  · exact leaves_same h rfl rfl
  · split
    · rename_i hprofile
      have hpad : data.selectedProfile.isSteamController = false := by
        simp only [Profile.isPlaystation, Bool.or_eq_true, beq_iff_eq] at hprofile
        rcases hprofile with hprofile | hprofile <;> rw [hprofile] <;> rfl
      let classified := ((data.keepInput request).classify request.buttons request.leftTrigger
        request.rightTrigger).2
      have hsame := sameDiscrete_encodePlaystation classified request s.now
      have hhistory := (same_encodePlaystation classified request s.now).history
      have hfits := fits_input h hpad request hsame (by rw [hhistory]; rfl)
        (StateReportOf.playstation classified s.now : StateReportOf request _).sized
        ((@word_encodePlaystation classified hprofile s.now).trans hsame.currentWord.symm)
      exact .goes _ rfl (hfits.enqueue (by rw [hhistory]; exact h.edges))
    · split
      · rename_i hprofile
        exact .done (next_pumpReport _ _ _ _) (kept_pumpReport huse true
          ((fits_steamInput h hprofile request s.now rfl rfl).enqueue h.edges))
      · rename_i hpad
        have hpad : data.selectedProfile.isSteamController = false := by simpa using hpad
        split
        · rename_i hprofile
          have hsame : SameDiscrete ((data.keepInput request).classify request.buttons
              request.leftTrigger request.rightTrigger).2
              (((data.keepInput request).encodeSwitch request).2.classify request.buttons
                request.leftTrigger request.rightTrigger).2 :=
            ⟨rfl, rfl, rfl, rfl, .refl _, rfl, .refl _⟩
          have hfits := fits_input h hpad request hsame rfl
            (StateReportOf.switch (data.keepInput request) : StateReportOf request _).sized
            (@word_encodeSwitch (data.keepInput request) hprofile)
          exact .goes _ rfl (hfits.enqueue h.edges)
        · have hsame : SameDiscrete ((data.keepInput request).classify request.buttons
              request.leftTrigger request.rightTrigger).2
              ((data.keepInput request).classify request.buttons request.leftTrigger
                request.rightTrigger).2 := ⟨rfl, rfl, rfl, rfl, .refl _, rfl, .refl _⟩
          split
          · rename_i hprofile
            have hfits := fits_input h hpad request hsame rfl
              (StateReportOf.xbox (data.keepInput request) : StateReportOf request _).sized
              (word_untouched (.inl hprofile) hpad rfl)
            exact .goes _ rfl (hfits.enqueue h.edges)
          · split
            · rename_i hprofile
              have hfits := fits_input h hpad request hsame rfl
                (StateReportOf.generic (data.keepInput request) : StateReportOf request _).sized
                (word_untouched (.inr hprofile) hpad rfl)
              exact .goes _ rfl (hfits.enqueue h.edges)
            · exact leaves_same h rfl rfl

-- Whatever runs next of an operation.
theorem leaves_run (huse : s.InUse) {step : SlotStep} (h : Underway data step) :
    Leaves (step.run s data) := by
  cases step with
  | applyUpdate update =>
      obtain ⟨hkept, hsensors⟩ := h
      cases update with
      | touch request => exact leaves_applyTouch request hkept hsensors
      | motion request => exact leaves_applyMotion request hkept hsensors
      | battery request => exact leaves_applyBattery request hkept hsensors
  | carryMotion => exact leaves_carryMotion h
  | profileReport kind => exact leaves_profileReport huse h
  | pumpReport report answers => exact leaves_pumpReport huse h
  | _ => exact h.elim

end

-- The requests and callbacks of the statement below.
def SlotStep.drives : SlotStep → Bool
  | .input .. | .beginUpdate .. | .keepalive | .ready => true
  | _ => false

theorem leaves_enter {data : SlotData} {s : Section} (huse : s.InUse) {step : SlotStep}
    (hdrives : step.drives = true) (h : KeepsEdges data) : Leaves (step.run s data) := by
  cases step with
  | input owner request => exact leaves_input huse owner request h
  | beginUpdate owner update => exact leaves_beginUpdate owner update h
  | keepalive => exact leaves_keepalive huse h
  | ready => exact leaves_ready huse h
  | _ => exact absurd hdrives (by simp [SlotStep.drives])

theorem EdgesKept.of_append {events : List PumpEvent} {event : PumpEvent}
    (h : EdgesKept (events ++ [event])) : EdgesKept events := by
  intro n other previous hget hkind hnewest
  have hn : n < events.length := (List.getElem?_eq_some_iff.mp hget).1
  refine h n other previous ?_ hkind ?_
  · rw [List.getElem?_append_left hn, hget]
  · rw [List.take_append_of_le_length (Nat.le_of_lt hn), hnewest]

theorem Underway.edges {data : SlotData} {step : SlotStep} (h : Underway data step) :
    EdgesKept data.history.events := by
  cases step with
  | applyUpdate update => exact h.1.edges
  | carryMotion => exact h.1.edges
  | profileReport kind => exact h.2.2.1
  | pumpReport report answers =>
      cases report with
      | none => exact KeepsEdges.edges h
      | some report => exact (KeepsEdges.edges h).of_append
  | _ => exact h.elim

namespace SlotRun

-- Requests, ticks and readiness callbacks on a slot in use, each handled to completion:
-- none enters while another has sections left.
def Sequential (run : SlotRun) : List SlotOp → Prop
  | [] => True
  | op :: rest => (sectionOf op).InUse ∧
      (∀ s step, op = .enter s step → step.drives = true ∧ run.pending = []) ∧
      (run.step op).Sequential rest

-- Between its sections a run has at most one operation under way.
def Sequenced (run : SlotRun) : Prop :=
  (run.pending = [] ∧ KeepsEdges run.data) ∨
    ∃ entry, run.pending = [entry] ∧ Underway run.data entry.step

namespace Sequenced

variable {run : SlotRun}

theorem created (controllerId : UInt32) (profile : Profile) :
    (SlotRun.created controllerId profile).Sequenced := by
  refine .inl ⟨rfl, fun n event previous hget => ?_, ⟨fun _ => ⟨rfl, rfl⟩, fun hsome => ?_⟩,
    fun hsome => ?_⟩
  · exact absurd hget (by simp [SlotRun.created, SlotData.created, SlotData.zero, SlotHistory.empty])
  · exact absurd hsome (by simp [SlotRun.created, SlotData.created, SlotData.zero])
  · exact absurd hsome (by simp [SlotRun.created, SlotData.created, SlotData.zero])

-- The section's function goes on, or is done.
theorem after_section {s : Section} {entry : InProgress}
    (h : Leaves (entry.step.run s run.data)) : (run.execute s entry []).Sequenced := by
  cases h with
  | done next kept => exact .inl ⟨by simp [execute, next], kept⟩
  | goes after next underway => exact .inr ⟨⟨entry.request, after⟩, by simp [execute, next], underway⟩

theorem step (h : run.Sequenced) {op : SlotOp} (huse : (sectionOf op).InUse)
    (henters : ∀ s step, op = .enter s step → step.drives = true ∧ run.pending = []) :
    (run.step op).Sequenced := by
  cases op with
  | enter s step =>
      obtain ⟨hdrives, hidle⟩ := henters s step rfl
      rcases h with ⟨-, hkept⟩ | ⟨entry, hpending, -⟩
      · simp only [SlotRun.step, hidle, List.any_nil, Bool.and_false, Bool.not_false, Bool.and_true]
        split
        · exact after_section (leaves_enter huse hdrives hkept)
        · exact .inl ⟨hidle, hkept⟩
      · rw [hpending] at hidle
        exact absurd hidle (by simp)
  | resume s i =>
      rcases h with ⟨hpending, hkept⟩ | ⟨entry, hpending, hunderway⟩
      · simp only [SlotRun.step, hpending, List.getElem?_nil]
        exact .inl ⟨hpending, hkept⟩
      · simp only [SlotRun.step, hpending]
        cases i with
        | zero => exact after_section (leaves_run huse hunderway)
        | succ i => exact .inr ⟨entry, hpending, hunderway⟩

theorem runFrom (h : run.Sequenced) {ops : List SlotOp} (hops : run.Sequential ops) :
    (run.runFrom ops).Sequenced := by
  induction ops generalizing run with
  | nil => exact h
  | cons op rest ih =>
      obtain ⟨huse, henters, hrest⟩ := hops
      exact ih (h.step huse henters) hrest

-- In the middle of an operation the record is as sound.
theorem edges (h : run.Sequenced) : EdgesKept run.data.history.events := by
  rcases h with ⟨-, hkept⟩ | ⟨entry, -, hunderway⟩
  · exact hkept.edges
  · exact hunderway.edges

end Sequenced

end SlotRun

-- What a run's record shows of its discrete edges.
structure EdgesOnTransitions (run : SlotRun) : Prop where
  repeated : EdgesKept run.data.history.events
  -- Where the word is another than before, the report is a transition.
  changed : ∀ n event previous word, run.data.history.events[n]? = some event →
    event.isState = true → newestState (run.data.history.events.take n) = some previous →
      event.word = some word → previous.word ≠ some word → event.kind = some .transition
  -- Every state report has a word, that of an encoding of an input.
  worded : ∀ event ∈ run.data.history.events, event.isState = true →
    ∃ tag, event.tag = some tag ∧ Encodes run.data.history.inputs event tag
  -- A later snapshot leaves the waiting transitions alone.
  kept : ∀ data reportId, (run.data.pump.enqueue data reportId .continuous).2.waiting =
    run.data.pump.waiting

theorem edges_on_transitions (controllerId : UInt32) (profile : Profile) (ops : List SlotOp)
    (hops : (SlotRun.created controllerId profile).Sequential ops) :
    EdgesOnTransitions ((SlotRun.created controllerId profile).runFrom ops) := by
  have hedges := ((SlotRun.Sequenced.created controllerId profile).runFrom hops).edges
  have horderly := SlotRun.runFrom_invariant (Orderly.created controllerId profile) ops
    fun _ hrun op _ _ _ hruns => hrun.execute (SlotRun.sectionOf op) hruns
  refine ⟨hedges, fun n event previous word hget hstate hnewest hword hother => ?_,
    fun event hmem hstate => ?_, fun data reportId =>
      ReportPump.waiting_enqueue_continuous _ data reportId⟩
  · obtain ⟨offer, hoffer, hkind⟩ := (Option.any_eq_true _ _).mp hstate
    cases hoff : offer.2 with
    | continuous =>
        have hcontinuous : event.kind = some .continuous := by
          rw [PumpEvent.kind, hoffer, Option.map_some, hoff]
        obtain ⟨same, hsame, hprevious⟩ := hedges n event previous hget hcontinuous hnewest
        rw [hword] at hsame
        exact absurd (hprevious.trans hsame.symm) hother
    | transition => rw [PumpEvent.kind, hoffer, Option.map_some, hoff]
    | priority | aside =>
        rw [hoff] at hkind
        exact absurd hkind (by simp [ReportKind.isState])
  · obtain ⟨tag, htag⟩ := Option.isSome_iff_exists.mp (horderly.order.tagged event hmem hstate)
    exact ⟨tag, htag, horderly.order.encodes event hmem tag htag⟩

-- A press that the reader has not taken yet, and the same buttons again.
private def edgeSection : Section where
  flags := ⟨false, true, true, false, false⟩
  control := { generation := 1, vhf := some 0, owner := some 7, state := .active, submitsInFlight := 0 }
  controllerId := 0
  now := 0

private def pressTwice : List SlotOp :=
  [.enter edgeSection (.input 7 .zero), .resume edgeSection 0,
    .enter edgeSection (.input 7 .zero), .resume edgeSection 0]

theorem edges_on_transitions_twice :
    EdgesOnTransitions ((SlotRun.created 0 .xboxSeries).runFrom pressTwice) ∧
      ((SlotRun.created 0 .xboxSeries).runFrom pressTwice).data.history.inputs.length = 2 := by
  have hused : edgeSection.InUse := ⟨by decide, by decide⟩
  have henter : ∀ (run : SlotRun) (s : Section) (step : SlotStep),
      SlotOp.enter edgeSection (.input 7 .zero) = .enter s step → run.pending = [] →
        step.drives = true ∧ run.pending = [] := by
    intro run s step heq hpending
    obtain ⟨-, rfl⟩ := SlotOp.enter.inj heq
    exact ⟨rfl, hpending⟩
  refine ⟨edges_on_transitions 0 .xboxSeries pressTwice ?_, by decide⟩
  exact ⟨hused, fun s step heq => henter _ s step heq rfl, hused, fun s step heq => by simp at heq,
    hused, fun s step heq => henter _ s step heq (by decide), hused,
    fun s step heq => by simp at heq, trivial⟩

end LibVirtualGamepad
