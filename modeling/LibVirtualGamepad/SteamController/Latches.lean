import LibVirtualGamepad.SteamController.Word

-- A session of a Steam Controller from its reset: what the client has once reported
-- itself is never guessed again, and a report encoded once more says the same.
namespace LibVirtualGamepad.SteamController

open Sc26Usb

def suppliesGrips (input : InputStateRequest) : Bool :=
  explicitButtons input.buttons || gripButtons input.buttons

def suppliesSticks (input : InputStateRequest) : Bool :=
  explicitButtons input.buttons || stickButtons input.buttons

def suppliesTriggers (input : InputStateRequest) : Bool := explicitButtons input.buttons

-- A report is encoded for an input, or for the last one again: by a keep-alive
-- tick, after a sample or a touch, and when a host asks for the input report.
inductive SteamOp where
  | input (request : InputStateRequest) (now : UInt64)
  | resend (now : UInt64)
  | tick (now : UInt64)
  | motion (request : MotionStateRequest) (now : UInt64)
  | touch (request : TouchStateRequest)
  | battery (request : BatteryStateRequest)
  | features (features : FeatureState)

-- The state with the inputs it was given, the first report of the last of them and
-- whether a touch event came since.
structure SteamRun where
  state : Sc26State
  inputs : List InputStateRequest
  first : Option InputReport
  touched : Bool

namespace SteamRun

def start (features : FeatureState) : SteamRun :=
  ⟨{ Sc26State.initial with features := features }, [], none, false⟩

def lastInput (run : SteamRun) : InputStateRequest := run.inputs.getLast?.getD .zero

-- The report of an input, and the state behind it.
def encode (run : SteamRun) (input : InputStateRequest) (now : UInt64) : InputReport × Sc26State :=
  encodeSc26Input input (sc26Tick now run.state)

def step (run : SteamRun) : SteamOp → SteamRun
  | .input request now =>
    let (report, state) := run.encode request now
    { state := state
      inputs := run.inputs ++ [request]
      first := some report
      touched := false }
  | .resend now => { run with state := (run.encode run.lastInput now).2 }
  | .tick now => { run with state := sc26Tick now run.state }
  | .motion request now => { run with state := (applySc26Motion request now run.state).2 }
  | .touch request => { run with state := (applySc26Touch request run.state).2, touched := true }
  | .battery request => { run with state := applySc26Battery request run.state }
  | .features features => { run with state := { run.state with features := features } }

def runFrom (run : SteamRun) (ops : List SteamOp) : SteamRun := ops.foldl step run

end SteamRun

-- The touch and click bits of a report: the client's own once it has supplied them,
-- and before that released grips, stick touch from deflection and clicks from travel.
structure Reports (seen : List InputStateRequest) (input : InputStateRequest)
    (report : InputReport) : Prop where
  leftGrip : hasAny report.buttons Button.leftGripTouch =
    (seen.any suppliesGrips && hasAny input.buttons ButtonMask.leftGripTouch)
  rightGrip : hasAny report.buttons Button.rightGripTouch =
    (seen.any suppliesGrips && hasAny input.buttons ButtonMask.rightGripTouch)
  leftStick : hasAny report.buttons Button.leftStickTouch =
    if seen.any suppliesSticks then hasAny input.buttons ButtonMask.leftStickTouch
    else deflected input.leftX input.leftY
  rightStick : hasAny report.buttons Button.rightStickTouch =
    if seen.any suppliesSticks then hasAny input.buttons ButtonMask.rightStickTouch
    else deflected input.rightX input.rightY
  leftTrigger : hasAny report.buttons Button.leftTriggerClick =
    if seen.any suppliesTriggers then
      suppliesTriggers input && hasAny input.buttons ButtonMask.leftTriggerClick
    else decide (input.leftTrigger ≥ triggerClickThreshold)
  rightTrigger : hasAny report.buttons Button.rightTriggerClick =
    if seen.any suppliesTriggers then
      suppliesTriggers input && hasAny input.buttons ButtonMask.rightTriggerClick
    else decide (input.rightTrigger ≥ triggerClickThreshold)

-- The same button word, axes and triggers.
structure SameControls (report other : InputReport) : Prop where
  buttons : other.buttons = report.buttons
  leftTrigger : other.leftTrigger = report.leftTrigger
  rightTrigger : other.rightTrigger = report.rightTrigger
  leftX : other.leftX = report.leftX
  leftY : other.leftY = report.leftY
  rightX : other.rightX = report.rightX
  rightY : other.rightY = report.rightY

theorem hasAny_addBit_other {mask m : UInt32} (h : mask &&& m = 0) (bits : UInt32) (on : Bool) :
    hasAny (addBit bits mask on) m = hasAny bits m := by
  unfold hasAny
  rw [addBit_and on h]

theorem hasAny_addBit_self {m : UInt32} (h : m ≠ 0) (bits : UInt32) (on : Bool) :
    hasAny (addBit bits m on) m = (on || hasAny bits m) := by
  cases on with
  | false => rfl
  | true =>
      have hself : (bits ||| m) &&& m = m := by
        apply UInt32.toBitVec_inj.mp
        simp only [UInt32.toBitVec_and, UInt32.toBitVec_or]
        ext i hi
        simp only [BitVec.getElem_and, BitVec.getElem_or]
        cases m.toBitVec[i] <;> simp
      simp only [addBit, if_true, hasAny, hself, Bool.true_or]
      simpa using h

-- Which part of a state each touch and click bit of the word shows.
section Bits

variable (buttons : UInt32) (leftX leftY rightX rightY : Int16) (leftTrigger rightTrigger : UInt8)
  (st : State)

theorem leftGrip_inputBits :
    hasAny (inputBits buttons leftX leftY rightX rightY leftTrigger rightTrigger st)
      Button.leftGripTouch = (st.leftGrip || hasAny buttons Button.leftGripTouch) := by
  simp (disch := decide) only [inputBits, hasAny_addBit_other, hasAny_addBit_self]

theorem rightGrip_inputBits :
    hasAny (inputBits buttons leftX leftY rightX rightY leftTrigger rightTrigger st)
      Button.rightGripTouch = (st.rightGrip || hasAny buttons Button.rightGripTouch) := by
  simp (disch := decide) only [inputBits, hasAny_addBit_other, hasAny_addBit_self]

theorem leftStick_inputBits :
    hasAny (inputBits buttons leftX leftY rightX rightY leftTrigger rightTrigger st)
      Button.leftStickTouch =
        ((st.stickTouchFromDeflection && deflected leftX leftY) ||
          (st.leftStick || hasAny buttons Button.leftStickTouch)) := by
  simp (disch := decide) only [inputBits, hasAny_addBit_other, hasAny_addBit_self]

theorem rightStick_inputBits :
    hasAny (inputBits buttons leftX leftY rightX rightY leftTrigger rightTrigger st)
      Button.rightStickTouch =
        ((st.stickTouchFromDeflection && deflected rightX rightY) ||
          (st.rightStick || hasAny buttons Button.rightStickTouch)) := by
  simp (disch := decide) only [inputBits, hasAny_addBit_other, hasAny_addBit_self]

theorem leftTrigger_inputBits :
    hasAny (inputBits buttons leftX leftY rightX rightY leftTrigger rightTrigger st)
      Button.leftTriggerClick =
        ((st.triggerClickFromAnalog && decide (leftTrigger ≥ triggerClickThreshold)) ||
          hasAny buttons Button.leftTriggerClick) := by
  simp (disch := decide) only [inputBits, hasAny_addBit_other, hasAny_addBit_self]

theorem rightTrigger_inputBits :
    hasAny (inputBits buttons leftX leftY rightX rightY leftTrigger rightTrigger st)
      Button.rightTriggerClick =
        ((st.triggerClickFromAnalog && decide (rightTrigger ≥ triggerClickThreshold)) ||
          hasAny buttons Button.rightTriggerClick) := by
  simp (disch := decide) only [inputBits, hasAny_addBit_other, hasAny_addBit_self]

end Bits

theorem hasAny_eq_false {bits m : UInt32} (h : bits &&& m = 0) : hasAny bits m = false := by
  unfold hasAny
  rw [h]
  rfl

-- The translated buttons hold no touch bit of a grip or a stick.
theorem sc26Buttons_touch {m : UInt32} (hm : m = Button.leftGripTouch ∨
    m = Button.rightGripTouch ∨ m = Button.leftStickTouch ∨ m = Button.rightStickTouch)
    (buttons : UInt32) (state : Sc26State) : hasAny (sc26Buttons buttons state) m = false := by
  have hmask : Untranslated m := by
    rcases hm with rfl | rfl | rfl | rfl <;>
      exact ⟨forall_mem_of_all (by decide), by decide, by decide, by decide, by decide⟩
  exact hasAny_eq_false (hmask.and buttons state)

-- A trigger click is translated only from an input that states its clicks.
theorem sc26Buttons_trigger (buttons : UInt32) (state : Sc26State) :
    hasAny (sc26Buttons buttons state) Button.leftTriggerClick =
        (explicitButtons buttons && hasAny buttons ButtonMask.leftTriggerClick) ∧
      hasAny (sc26Buttons buttons state) Button.rightTriggerClick =
        (explicitButtons buttons && hasAny buttons ButtonMask.rightTriggerClick) := by
  have hleftMap : ∀ pair ∈ buttonMap, pair.2 &&& Button.leftTriggerClick = 0 :=
    forall_mem_of_all (by decide)
  have hrightMap : ∀ pair ∈ buttonMap, pair.2 &&& Button.rightTriggerClick = 0 :=
    forall_mem_of_all (by decide)
  have hleft := hasAny_eq_false
    ((buttonMap_and buttons buttonMap hleftMap 0).trans UInt32.zero_and)
  have hright := hasAny_eq_false
    ((buttonMap_and buttons buttonMap hrightMap 0).trans UInt32.zero_and)
  unfold sc26Buttons
  dsimp only
  cases hexplicit : explicitButtons buttons with
  | true =>
      have hany : hasAny buttons ButtonMask.sc26ButtonsExplicit = true := hexplicit
      simp (disch := decide) only [hany, if_true, hasAny_addBit_other, hasAny_addBit_self, hleft,
        hright, Bool.or_false, Bool.true_and, and_self]
  | false =>
      have hany : hasAny buttons ButtonMask.sc26ButtonsExplicit = false := hexplicit
      simp only [hany, Bool.false_eq_true, if_false, Bool.false_and]
      split
      · simp (disch := decide) only [hasAny_addBit_other, hleft, hright, and_self]
      · exact ⟨hleft, hright⟩

-- What the latches of a state say about the inputs behind it.
structure Flags (seen : List InputStateRequest) (state : Sc26State) : Prop where
  grip : state.gripExplicit = seen.any suppliesGrips
  stick : state.stickTouchExplicit = seen.any suppliesSticks
  trigger : state.triggerClickExplicit = seen.any suppliesTriggers
  gripsReleased : state.gripExplicit = false → state.device.gripTouch = Vector.replicate 2 false
  deflection : state.device.stickTouchFromDeflection = !state.stickTouchExplicit
  sticksReleased :
    state.stickTouchExplicit = false → state.device.stickTouch = Vector.replicate 2 false

theorem Flags.of_same {seen : List InputStateRequest} {state other : Sc26State}
    (h : Flags seen state) (hsame : SameLatches state other) : Flags seen other := by
  refine ⟨?_, ?_, ?_, ?_, ?_, ?_⟩
  · rw [hsame.gripExplicit, h.grip]
  · rw [hsame.stickTouchExplicit, h.stick]
  · rw [hsame.triggerClickExplicit, h.trigger]
  · rw [hsame.gripExplicit, hsame.gripTouch]
    exact h.gripsReleased
  · rw [hsame.stickTouchFromDeflection, hsame.stickTouchExplicit, h.deflection]
  · rw [hsame.stickTouchExplicit, hsame.stickTouch]
    exact h.sticksReleased

theorem sameLatches_tick {seen : List InputStateRequest} {state : Sc26State} (h : Flags seen state)
    (now : UInt64) : SameLatches state (sc26Tick now state) := by
  refine ⟨rfl, rfl, rfl, ?_, rfl, rfl, rfl⟩
  simp only [sc26Tick]
  cases hgrip : state.gripExplicit with
  | true => rfl
  | false => exact (h.gripsReleased hgrip).symm

-- The state behind the encoding of an input has taken it in.
theorem Flags.encode {seen : List InputStateRequest} {state : Sc26State} (h : Flags seen state)
    (input : InputStateRequest) (now : UInt64) :
    Flags (seen ++ [input]) (encodeSc26Input input (sc26Tick now state)).2 := by
  have hlatched := latched_encode input now state
  rw [(encodeSc26Input_eq input _).1, latchClientInput_eq] at hlatched ⊢
  have hgrip : (gripButtons input.buttons ||
      (explicitButtons input.buttons || state.gripExplicit)) =
        (seen ++ [input]).any suppliesGrips := by
    rw [h.grip, List.any_append]
    simp only [List.any_cons, List.any_nil, Bool.or_false, suppliesGrips]
    cases seen.any suppliesGrips <;> cases explicitButtons input.buttons <;>
      cases gripButtons input.buttons <;> rfl
  have hstick : (stickButtons input.buttons ||
      (explicitButtons input.buttons || state.stickTouchExplicit)) =
        (seen ++ [input]).any suppliesSticks := by
    rw [h.stick, List.any_append]
    simp only [List.any_cons, List.any_nil, Bool.or_false, suppliesSticks]
    cases seen.any suppliesSticks <;> cases explicitButtons input.buttons <;>
      cases stickButtons input.buttons <;> rfl
  have htrigger : (explicitButtons input.buttons || state.triggerClickExplicit) =
      (seen ++ [input]).any suppliesTriggers := by
    rw [h.trigger, List.any_append]
    simp only [List.any_cons, List.any_nil, Bool.or_false, suppliesTriggers]
    cases seen.any suppliesTriggers <;> cases explicitButtons input.buttons <;> rfl
  have hdeflection : (!stickButtons input.buttons && (!explicitButtons input.buttons &&
      state.device.stickTouchFromDeflection)) = !(stickButtons input.buttons ||
        (explicitButtons input.buttons || state.stickTouchExplicit)) := by
    rw [h.deflection]
    cases stickButtons input.buttons <;> cases explicitButtons input.buttons <;> rfl
  refine ⟨hgrip, hstick, htrigger, ?_, hdeflection, ?_⟩
  · intro hreleased
    rw [hlatched.gripTouch, if_neg]
    rw [hreleased]
    exact Bool.false_ne_true
  · intro hreleased
    have hnone : (stickButtons input.buttons ||
        (explicitButtons input.buttons || state.stickTouchExplicit)) = false := hreleased
    have hnot : ¬(stickButtons input.buttons ||
        (explicitButtons input.buttons || state.stickTouchExplicit)) = true := by
      rw [hnone]
      exact Bool.false_ne_true
    simp only [Bool.or_eq_false_iff] at hnone
    exact (if_neg hnot).trans (h.sticksReleased hnone.2.2)

-- An input that was seen before, or none, adds nothing.
theorem Flags.absorb {seen : List InputStateRequest} {input : InputStateRequest}
    {state : Sc26State} (h : Flags (seen ++ [input]) state)
    (hseen : input ∈ seen ∨ input = .zero) : Flags seen state := by
  have habsorb : ∀ p : InputStateRequest → Bool, p .zero = false →
      (seen ++ [input]).any p = seen.any p := by
    intro p hzero
    rw [List.any_append, List.any_cons, List.any_nil, Bool.or_false]
    rcases hseen with hmem | rfl
    · cases hp : p input with
      | false => exact Bool.or_false _
      | true =>
          rw [Bool.or_true]
          exact (List.any_eq_true.mpr ⟨input, hmem, hp⟩).symm
    · rw [hzero, Bool.or_false]
  refine ⟨?_, ?_, ?_, h.gripsReleased, h.deflection, h.sticksReleased⟩
  · rw [h.grip, habsorb suppliesGrips (by decide)]
  · rw [h.stick, habsorb suppliesSticks (by decide)]
  · rw [h.trigger, habsorb suppliesTriggers (by decide)]

-- The word of a report, with what of the state it is made of.
def reportWord (state : Sc26State) (input : InputStateRequest) : UInt32 :=
  inputBits (sc26Buttons input.buttons state) input.leftX input.leftY input.rightX input.rightY
    input.leftTrigger input.rightTrigger state.device

theorem encode_buttons (input : InputStateRequest) (now : UInt64) (state : Sc26State) :
    (encodeSc26Input input (sc26Tick now state)).1.buttons =
      reportWord (encodeSc26Input input (sc26Tick now state)).2 input := rfl

theorem SameLatches.reportWord {state other : Sc26State} (h : SameLatches state other)
    (hpads : other.device.padTouched = state.device.padTouched) (input : InputStateRequest) :
    reportWord other input = reportWord state input := by
  simp only [SteamController.reportWord, inputBits, sc26Buttons, State.leftPadTouched,
    State.rightPadTouched, hpads, h.gripTouch, h.stickTouch, h.stickTouchFromDeflection,
    h.triggerClickFromAnalog]

-- What a latched state reports.
theorem reports_of_flags {seen : List InputStateRequest} {input : InputStateRequest}
    {state : Sc26State} {report : InputReport} (hflags : Flags seen state)
    (hlatched : Latched input.buttons state) (hword : report.buttons = reportWord state input)
    (hseen : input ∈ seen ∨ input = .zero) : Reports seen input report := by
  -- an input that states its clicks is itself one of those seen
  have hstated : seen.any suppliesTriggers = false → explicitButtons input.buttons = false := by
    intro hnone
    rcases hseen with hmem | rfl
    · have hnot := List.any_eq_false.mp hnone input hmem
      simpa [suppliesTriggers] using hnot
    · rfl
  have hleftGrip : state.device.leftGrip =
      (seen.any suppliesGrips && hasAny input.buttons ButtonMask.leftGripTouch) := by
    unfold State.leftGrip
    rw [hlatched.gripTouch, hflags.grip]
    cases seen.any suppliesGrips <;> rfl
  have hrightGrip : state.device.rightGrip =
      (seen.any suppliesGrips && hasAny input.buttons ButtonMask.rightGripTouch) := by
    unfold State.rightGrip
    rw [hlatched.gripTouch, hflags.grip]
    cases seen.any suppliesGrips <;> rfl
  have hsticks : state.device.stickTouch = if seen.any suppliesSticks then
      sticksTouched input.buttons else Vector.replicate 2 false := by
    have hexplicit := hlatched.stickTouch
    have hreleased := hflags.sticksReleased
    rw [hflags.stick] at hexplicit hreleased
    cases hany : seen.any suppliesSticks with
    | true => exact hexplicit hany
    | false => exact hreleased hany
  have hdeflection := hflags.deflection
  have hanalog := hlatched.analog
  rw [hflags.stick] at hdeflection
  rw [hflags.trigger] at hanalog
  have htouch := fun m hm => sc26Buttons_touch (m := m) hm input.buttons state
  obtain ⟨hleftTrigger, hrightTrigger⟩ := sc26Buttons_trigger input.buttons state
  refine ⟨?_, ?_, ?_, ?_, ?_, ?_⟩
  · rw [hword, reportWord, leftGrip_inputBits, htouch _ (by simp), hleftGrip, Bool.or_false]
  · rw [hword, reportWord, rightGrip_inputBits, htouch _ (by simp), hrightGrip, Bool.or_false]
  · rw [hword, reportWord, leftStick_inputBits, htouch _ (by simp), hdeflection, State.leftStick,
      hsticks]
    cases seen.any suppliesSticks with
    | true => simp [sticksTouched]
    | false => simp
  · rw [hword, reportWord, rightStick_inputBits, htouch _ (by simp), hdeflection,
      State.rightStick, hsticks]
    cases seen.any suppliesSticks with
    | true => simp [sticksTouched]
    | false => simp
  · rw [hword, reportWord, leftTrigger_inputBits, hanalog, hleftTrigger]
    cases hany : seen.any suppliesTriggers with
    | true => simp [suppliesTriggers]
    | false => simp [hstated hany]
  · rw [hword, reportWord, rightTrigger_inputBits, hanalog, hrightTrigger]
    cases hany : seen.any suppliesTriggers with
    | true => simp [suppliesTriggers]
    | false => simp [hstated hany]

-- The triggers and sticks of an input, as a report carries them.
structure AxesOf (input : InputStateRequest) (report : InputReport) : Prop where
  leftTrigger : report.leftTrigger = triggerAxis input.leftTrigger
  rightTrigger : report.rightTrigger = triggerAxis input.rightTrigger
  leftX : report.leftX = input.leftX
  leftY : report.leftY = input.leftY
  rightX : report.rightX = input.rightX
  rightY : report.rightY = input.rightY

-- What a session keeps: its latches tell what was seen, and the first report of the
-- last input shows what encoding it again would.
structure SteamRun.Kept (run : SteamRun) : Prop where
  flags : Flags run.inputs run.state
  latched : ∀ report, run.first = some report → Latched run.lastInput.buttons run.state
  axes : ∀ report, run.first = some report → AxesOf run.lastInput report
  word : ∀ report, run.first = some report → run.touched = false →
    report.buttons = reportWord run.state run.lastInput

theorem lastInput_seen (run : SteamRun) :
    run.lastInput ∈ run.inputs ∨ run.lastInput = .zero := by
  unfold SteamRun.lastInput
  cases hlast : run.inputs.getLast? with
  | none => exact Or.inr rfl
  | some input => exact Or.inl (List.mem_of_getLast? hlast)

theorem encode_axes (input : InputStateRequest) (state : Sc26State) :
    AxesOf input (encodeSc26Input input state).1 :=
  ⟨rfl, rfl, rfl, rfl, rfl, rfl⟩

-- A step that leaves the latches and the inputs alone, and the pads or the touch mark.
theorem SteamRun.Kept.of_same {run : SteamRun} (h : run.Kept) (state : Sc26State)
    (touched : Bool) (hsame : SameLatches run.state state)
    (hpads : touched = false →
      run.touched = false ∧ state.device.padTouched = run.state.device.padTouched) :
    SteamRun.Kept { run with state := state, touched := touched } := by
  refine ⟨h.flags.of_same hsame, fun report hfirst => (h.latched report hfirst).of_same hsame,
    h.axes, ?_⟩
  · intro report hfirst huntouched
    obtain ⟨hbefore, hsamePads⟩ := hpads huntouched
    rw [h.word report hfirst hbefore]
    exact (hsame.reportWord hsamePads _).symm

theorem start_kept (features : FeatureState) : (SteamRun.start features).Kept := by
  refine ⟨⟨rfl, rfl, rfl, fun _ => rfl, rfl, fun _ => rfl⟩, ?_, ?_, ?_⟩
  · intro report hfirst
    cases hfirst
  · intro report hfirst
    cases hfirst
  · intro report hfirst
    cases hfirst

theorem step_kept (run : SteamRun) (op : SteamOp) (h : run.Kept) : (run.step op).Kept := by
  cases op with
  | input request now =>
      have hlast : (run.step (.input request now)).lastInput = request := by
        simp [SteamRun.step, SteamRun.lastInput]
      refine ⟨h.flags.encode request now, ?_, ?_, ?_⟩
      · intro report _
        rw [hlast]
        exact latched_encode request now run.state
      · intro report hfirst
        rw [hlast, ← Option.some_inj.mp hfirst]
        exact encode_axes request _
      · intro report hfirst _
        rw [hlast, ← Option.some_inj.mp hfirst]
        exact encode_buttons request now run.state
  | resend now =>
      have hflags := (h.flags.encode run.lastInput now).absorb (lastInput_seen run)
      cases hfirst : run.first with
      | none =>
          refine ⟨hflags, ?_, ?_, ?_⟩
          · intro report hsome
            exact absurd (hfirst.symm.trans hsome) (by simp)
          · intro report hsome
            exact absurd (hfirst.symm.trans hsome) (by simp)
          · intro report hsome
            exact absurd (hfirst.symm.trans hsome) (by simp)
      | some report =>
          exact h.of_same _ run.touched ((h.latched report hfirst).encode now)
            fun huntouched => ⟨huntouched, padTouched_encode run.lastInput now run.state⟩
  | tick now =>
      exact h.of_same _ run.touched (sameLatches_tick h.flags now)
        fun huntouched => ⟨huntouched, rfl⟩
  | motion request now =>
      obtain ⟨hsame, hpads⟩ := latches_motion request now run.state
      exact h.of_same _ run.touched hsame fun huntouched => ⟨huntouched, hpads⟩
  | touch request =>
      exact h.of_same _ true (latches_apply request run.state) (by simp)
  | battery request =>
      obtain ⟨hsame, hpads⟩ := latches_battery request run.state
      exact h.of_same _ run.touched hsame fun huntouched => ⟨huntouched, hpads⟩
  | features features =>
      exact h.of_same _ run.touched ⟨rfl, rfl, rfl, rfl, rfl, rfl, rfl⟩
        fun huntouched => ⟨huntouched, rfl⟩

theorem run_kept (features : FeatureState) (ops : List SteamOp) :
    ((SteamRun.start features).runFrom ops).Kept := by
  have hrun : ∀ run : SteamRun, run.Kept → (run.runFrom ops).Kept := by
    induction ops with
    | nil => exact fun run h => h
    | cons op ops ih => exact fun run h => ih (run.step op) (step_kept run op h)
  exact hrun _ (start_kept features)

-- After any session since the reset: the report of a new input, and of the last one
-- encoded again, carries what the client supplied; and the one encoded again says
-- the same as the first as long as no touch came in between.
theorem steam_latches (features : FeatureState) (ops : List SteamOp) :
    let run := (SteamRun.start features).runFrom ops
    (∀ request now, Reports (run.inputs ++ [request]) request (run.encode request now).1) ∧
    (∀ now, Reports run.inputs run.lastInput (run.encode run.lastInput now).1) ∧
    ∀ now report, run.first = some report → run.touched = false →
      SameControls report (run.encode run.lastInput now).1 := by
  intro run
  have h : run.Kept := run_kept features ops
  refine ⟨?_, ?_, ?_⟩
  · intro request now
    exact reports_of_flags (h.flags.encode request now) (latched_encode request now run.state)
      (encode_buttons request now run.state) (Or.inl (by simp))
  · intro now
    exact reports_of_flags ((h.flags.encode run.lastInput now).absorb (lastInput_seen run))
      (latched_encode run.lastInput now run.state) (encode_buttons run.lastInput now run.state)
      (lastInput_seen run)
  · intro now report hfirst huntouched
    have hfirstAxes := h.axes report hfirst
    have haxes := encode_axes run.lastInput (sc26Tick now run.state)
    have hsame := ((h.latched report hfirst).encode now).reportWord
      (padTouched_encode run.lastInput now run.state) run.lastInput
    refine ⟨?_, haxes.leftTrigger.trans hfirstAxes.leftTrigger.symm,
      haxes.rightTrigger.trans hfirstAxes.rightTrigger.symm,
      haxes.leftX.trans hfirstAxes.leftX.symm, haxes.leftY.trans hfirstAxes.leftY.symm,
      haxes.rightX.trans hfirstAxes.rightX.symm, haxes.rightY.trans hfirstAxes.rightY.symm⟩
    calc (run.encode run.lastInput now).1.buttons
        = reportWord (run.encode run.lastInput now).2 run.lastInput :=
          encode_buttons run.lastInput now run.state
      _ = reportWord run.state run.lastInput := hsame
      _ = report.buttons := (h.word report hfirst huntouched).symm

end LibVirtualGamepad.SteamController
