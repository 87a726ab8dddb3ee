import LibVirtualGamepad.SteamController

-- The classified word of a Steam Controller's report: what of the state it reads, and
-- that encoding the same input again does not change it.
namespace LibVirtualGamepad.SteamController

open Sc26Usb

theorem or_and_distrib (a b m : UInt32) : (a ||| b) &&& m = (a &&& m) ||| (b &&& m) := by
  apply UInt32.toBitVec_inj.mp
  simp only [UInt32.toBitVec_and, UInt32.toBitVec_or]
  ext i hi
  simp only [BitVec.getElem_and, BitVec.getElem_or, Bool.and_or_distrib_right]

-- Adding bits outside a mask.
theorem addBit_and {bits mask m : UInt32} (on : Bool) (h : mask &&& m = 0) :
    addBit bits mask on &&& m = bits &&& m := by
  cases on with
  | false => rfl
  | true =>
      simp only [addBit, if_true]
      rw [or_and_distrib, h, UInt32.or_zero]

theorem addBit_and_self {bits m : UInt32} (on : Bool) (h : bits &&& m = 0) :
    addBit bits m on &&& m = if on then m else 0 := by
  cases on with
  | false => exact h
  | true =>
      simp only [addBit, if_true]
      rw [or_and_distrib, h, UInt32.zero_or, UInt32.and_self]

theorem buttonMap_and {m : UInt32} (buttons : UInt32) (pairs : List (UInt32 × UInt32))
    (h : ∀ pair ∈ pairs, pair.2 &&& m = 0) (bits : UInt32) :
    pairs.foldl (fun out pair => addBit out pair.2 (hasAny buttons pair.1)) bits &&& m =
      bits &&& m := by
  induction pairs generalizing bits with
  | nil => rfl
  | cons pair rest ih =>
      rw [List.foldl_cons, ih fun other hmem => h other (List.mem_cons_of_mem _ hmem)]
      exact addBit_and _ (h pair (List.mem_cons_self ..))

-- A mask that no translated button and no click belongs to.
structure Untranslated (m : UInt32) : Prop where
  map : ∀ pair ∈ buttonMap, pair.2 &&& m = 0
  leftPad : Button.leftPadClick &&& m = 0
  rightPad : Button.rightPadClick &&& m = 0
  leftTrigger : Button.leftTriggerClick &&& m = 0
  rightTrigger : Button.rightTriggerClick &&& m = 0

theorem Untranslated.and {m : UInt32} (h : Untranslated m) (buttons : UInt32)
    (state : Sc26State) : sc26Buttons buttons state &&& m = 0 := by
  have hzero : (0 : UInt32) &&& m = 0 := UInt32.zero_and
  have hbase := (buttonMap_and buttons buttonMap h.map 0).trans hzero
  unfold sc26Buttons
  dsimp only
  split
  · rw [addBit_and _ h.rightTrigger, addBit_and _ h.leftTrigger, addBit_and _ h.rightPad,
      addBit_and _ h.leftPad, hbase]
  · split
    · rw [addBit_and _ h.rightPad, addBit_and _ h.leftPad, hbase]
    · exact hbase

-- The translated buttons hold no touch bit of a pad.
theorem sc26Buttons_and {m : UInt32} (hm : m = Button.leftPadTouch ∨ m = Button.rightPadTouch)
    (buttons : UInt32) (state : Sc26State) : sc26Buttons buttons state &&& m = 0 := by
  have hmask : Untranslated m := by
    rcases hm with rfl | rfl <;>
      exact ⟨forall_mem_of_all (by decide), by decide, by decide, by decide, by decide⟩
  exact hmask.and buttons state

-- The word of a report that is encoded in a latched state.
def wordAt (state : Sc26State) (input : InputStateRequest) : UInt32 :=
  classifyButtons state.device (inputBits (sc26Buttons input.buttons state) input.leftX input.leftY
    input.rightX input.rightY input.leftTrigger input.rightTrigger state.device)

theorem classifyButtons_and {m : UInt32} (hm : m = Button.leftPadTouch ∨ m = Button.rightPadTouch)
    (state : State) (bits : UInt32) : classifyButtons state bits &&& m = bits &&& m := by
  have hkept : ~~~(Button.leftStickTouch ||| Button.rightStickTouch) &&& m = m := by
    rcases hm with rfl | rfl <;> decide
  unfold classifyButtons
  split
  · rw [UInt32.and_assoc, hkept]
  · rfl

-- A pad's touch shows in the word.
theorem wordAt_leftPad (state : Sc26State) (input : InputStateRequest) :
    wordAt state input &&& Button.leftPadTouch =
      if state.device.leftPadTouched then Button.leftPadTouch else 0 := by
  have hbuttons := sc26Buttons_and (.inl rfl) input.buttons state
  rw [wordAt, classifyButtons_and (.inl rfl)]
  simp only [inputBits]
  rw [addBit_and _ (by decide), addBit_and _ (by decide), addBit_and _ (by decide),
    addBit_and _ (by decide), addBit_and _ (by decide), addBit_and _ (by decide),
    addBit_and _ (by decide)]
  refine addBit_and_self _ ?_
  rw [addBit_and _ (by decide), addBit_and _ (by decide), hbuttons]

theorem wordAt_rightPad (state : Sc26State) (input : InputStateRequest) :
    wordAt state input &&& Button.rightPadTouch =
      if state.device.rightPadTouched then Button.rightPadTouch else 0 := by
  have hbuttons := sc26Buttons_and (.inr rfl) input.buttons state
  rw [wordAt, classifyButtons_and (.inr rfl)]
  simp only [inputBits]
  rw [addBit_and _ (by decide), addBit_and _ (by decide), addBit_and _ (by decide),
    addBit_and _ (by decide), addBit_and _ (by decide), addBit_and _ (by decide)]
  refine addBit_and_self _ ?_
  rw [addBit_and _ (by decide), addBit_and _ (by decide), addBit_and _ (by decide), hbuttons]

-- Equal words come from equally touched pads.
theorem padTouched_of_wordAt {state other : Sc26State} {input last : InputStateRequest}
    (h : wordAt state input = wordAt other last) :
    state.device.padTouched = other.device.padTouched := by
  have hbit : ∀ {m : UInt32} {a b : Bool}, m ≠ 0 → (if a then m else 0) = (if b then m else 0) →
      a = b := by
    intro m a b hne heq
    cases a <;> cases b <;> simp_all
  have hleft : state.device.leftPadTouched = other.device.leftPadTouched := by
    refine hbit (m := Button.leftPadTouch) (by decide) ?_
    rw [← wordAt_leftPad state input, ← wordAt_leftPad other last, h]
  have hright : state.device.rightPadTouched = other.device.rightPadTouched := by
    refine hbit (m := Button.rightPadTouch) (by decide) ?_
    rw [← wordAt_rightPad state input, ← wordAt_rightPad other last, h]
  ext i hi
  match i, hi with
  | 0, _ => exact hleft
  | 1, _ => exact hright

-- The part of the state that the word is made of, but for the pads.
structure SameLatches (state other : Sc26State) : Prop where
  gripExplicit : other.gripExplicit = state.gripExplicit
  stickTouchExplicit : other.stickTouchExplicit = state.stickTouchExplicit
  triggerClickExplicit : other.triggerClickExplicit = state.triggerClickExplicit
  gripTouch : other.device.gripTouch = state.device.gripTouch
  stickTouch : other.device.stickTouch = state.device.stickTouch
  stickTouchFromDeflection :
    other.device.stickTouchFromDeflection = state.device.stickTouchFromDeflection
  triggerClickFromAnalog :
    other.device.triggerClickFromAnalog = state.device.triggerClickFromAnalog

theorem SameLatches.refl (state : Sc26State) : SameLatches state state :=
  ⟨rfl, rfl, rfl, rfl, rfl, rfl, rfl⟩

theorem SameLatches.symm {state other : Sc26State} (h : SameLatches state other) :
    SameLatches other state :=
  ⟨h.gripExplicit.symm, h.stickTouchExplicit.symm, h.triggerClickExplicit.symm, h.gripTouch.symm,
    h.stickTouch.symm, h.stickTouchFromDeflection.symm, h.triggerClickFromAnalog.symm⟩

theorem SameLatches.trans {state mid other : Sc26State} (h : SameLatches state mid)
    (h' : SameLatches mid other) : SameLatches state other :=
  ⟨h'.gripExplicit.trans h.gripExplicit, h'.stickTouchExplicit.trans h.stickTouchExplicit,
    h'.triggerClickExplicit.trans h.triggerClickExplicit, h'.gripTouch.trans h.gripTouch,
    h'.stickTouch.trans h.stickTouch,
    h'.stickTouchFromDeflection.trans h.stickTouchFromDeflection,
    h'.triggerClickFromAnalog.trans h.triggerClickFromAnalog⟩

theorem SameLatches.wordAt {state other : Sc26State} (h : SameLatches state other)
    (hpads : other.device.padTouched = state.device.padTouched) (input : InputStateRequest) :
    wordAt other input = wordAt state input := by
  simp only [SteamController.wordAt, classifyButtons, inputBits, sc26Buttons, State.leftPadTouched,
    State.rightPadTouched, hpads, h.gripTouch, h.stickTouch, h.stickTouchFromDeflection,
    h.triggerClickFromAnalog]

-- A touch, a sample and a battery level leave the latches alone, and only a touch
-- reaches the pads.
theorem latches_apply (touch : TouchStateRequest) (state : Sc26State) :
    SameLatches state (applySc26Touch touch state).2 := by
  unfold applySc26Touch
  cases TouchEvent.ofByte touch.eventType with
  | cancelAll => exact ⟨rfl, rfl, rfl, rfl, rfl, rfl, rfl⟩
  | move | hover =>
      dsimp only
      split
      · exact .refl _
      · split
        · exact ⟨rfl, rfl, rfl, rfl, rfl, rfl, rfl⟩
        · exact .refl _
  | down | up | cancel =>
      dsimp only
      split
      · exact .refl _
      · exact ⟨rfl, rfl, rfl, rfl, rfl, rfl, rfl⟩
  | other raw =>
      dsimp only
      split <;> exact .refl _

theorem latches_motion (motion : MotionStateRequest) (now : UInt64) (state : Sc26State) :
    SameLatches state (applySc26Motion motion now state).2 ∧
      (applySc26Motion motion now state).2.device.padTouched = state.device.padTouched := by
  unfold applySc26Motion
  dsimp only
  split <;> exact ⟨⟨rfl, rfl, rfl, rfl, rfl, rfl, rfl⟩, rfl⟩

theorem latches_battery (battery : BatteryStateRequest) (state : Sc26State) :
    SameLatches state (applySc26Battery battery state) ∧
      (applySc26Battery battery state).device.padTouched = state.device.padTouched := by
  unfold applySc26Battery
  dsimp only
  split <;> exact ⟨⟨rfl, rfl, rfl, rfl, rfl, rfl, rfl⟩, rfl⟩

section Latch

variable (buttons : UInt32) (state : Sc26State)

def explicitButtons : Bool := hasAny buttons ButtonMask.sc26ButtonsExplicit
def gripButtons : Bool := hasAny buttons (ButtonMask.leftGripTouch ||| ButtonMask.rightGripTouch)
def stickButtons : Bool := hasAny buttons (ButtonMask.leftStickTouch ||| ButtonMask.rightStickTouch)

-- The stages of the latches, each as one update.
def latchExplicit : Sc26State :=
  { state with
    triggerClickExplicit := explicitButtons buttons || state.triggerClickExplicit
    gripExplicit := explicitButtons buttons || state.gripExplicit
    stickTouchExplicit := explicitButtons buttons || state.stickTouchExplicit
    device := { state.device with
      stickTouchFromDeflection :=
        !explicitButtons buttons && state.device.stickTouchFromDeflection } }

def latchGrip : Sc26State :=
  { state with
    gripExplicit := gripButtons buttons || state.gripExplicit
    device := { state.device with
      triggerClickFromAnalog := !state.triggerClickExplicit
      gripTouch := if gripButtons buttons || state.gripExplicit then gripsHeld buttons
        else state.device.gripTouch } }

def latchStick : Sc26State :=
  { state with
    stickTouchExplicit := stickButtons buttons || state.stickTouchExplicit
    device := { state.device with
      stickTouchFromDeflection := !stickButtons buttons && state.device.stickTouchFromDeflection
      stickTouch := if stickButtons buttons || state.stickTouchExplicit then sticksTouched buttons
        else state.device.stickTouch } }

theorem applyClientStickTouch_eq : applyClientStickTouch buttons state = latchStick buttons state := by
  obtain ⟨device, features, motion, battery, report, grip, stick, trigger⟩ := state
  unfold applyClientStickTouch latchStick stickButtons
  cases hasAny buttons (ButtonMask.leftStickTouch ||| ButtonMask.rightStickTouch) with
  | true => rfl
  | false => cases stick <;> rfl

theorem latchClientInput_eq : latchClientInput buttons state =
    latchStick buttons (latchGrip buttons (latchExplicit buttons state)) := by
  obtain ⟨device, features, motion, battery, report, grip, stick, trigger⟩ := state
  rw [← applyClientStickTouch_eq]
  unfold latchClientInput latchGrip latchExplicit explicitButtons gripButtons
  cases hasAny buttons ButtonMask.sc26ButtonsExplicit with
  | true => cases hasAny buttons (ButtonMask.leftGripTouch ||| ButtonMask.rightGripTouch) <;> rfl
  | false =>
      cases hasAny buttons (ButtonMask.leftGripTouch ||| ButtonMask.rightGripTouch) with
      | true => rfl
      | false => cases grip <;> rfl

end Latch

-- A state that has taken the buttons in.
structure Latched (buttons : UInt32) (state : Sc26State) : Prop where
  explicit : explicitButtons buttons = true → state.triggerClickExplicit = true ∧
    state.gripExplicit = true ∧ state.stickTouchExplicit = true
  grips : gripButtons buttons = true → state.gripExplicit = true
  sticks : stickButtons buttons = true → state.stickTouchExplicit = true
  deflection : (explicitButtons buttons || stickButtons buttons) = true →
    state.device.stickTouchFromDeflection = false
  analog : state.device.triggerClickFromAnalog = !state.triggerClickExplicit
  gripTouch : state.device.gripTouch =
    if state.gripExplicit then gripsHeld buttons else Vector.replicate 2 false
  stickTouch : state.stickTouchExplicit = true → state.device.stickTouch = sticksTouched buttons

section

variable (input : InputStateRequest) (now : UInt64) (state : Sc26State)

-- The state behind an encoding, and its word.
theorem encodeSc26Input_eq :
    (encodeSc26Input input state).2 =
        { latchClientInput input.buttons state with
          device := { (latchClientInput input.buttons state).device with
            sequence := (latchClientInput input.buttons state).device.sequence + 1 } } ∧
      classifyButtons (encodeSc26Input input state).2.device (encodeSc26Input input state).1.buttons =
        wordAt (encodeSc26Input input state).2 input :=
  ⟨rfl, rfl⟩

theorem padTouched_encode :
    (encodeSc26Input input (sc26Tick now state)).2.device.padTouched = state.device.padTouched := by
  rw [(encodeSc26Input_eq input _).1, latchClientInput_eq]
  rfl

theorem latched_encode : Latched input.buttons (encodeSc26Input input (sc26Tick now state)).2 := by
  rw [(encodeSc26Input_eq input _).1, latchClientInput_eq]
  refine ⟨?_, ?_, ?_, ?_, rfl, ?_, ?_⟩
  · intro h
    simp [latchStick, latchGrip, latchExplicit, h]
  · intro h
    simp [latchStick, latchGrip, h]
  · intro h
    simp [latchStick, h]
  · intro h
    rcases Bool.or_eq_true _ _ ▸ h with h | h <;> simp [latchStick, latchGrip, latchExplicit, h]
  · show (if gripButtons input.buttons || (explicitButtons input.buttons || state.gripExplicit) then
        gripsHeld input.buttons
      else if state.gripExplicit then state.device.gripTouch else Vector.replicate 2 false) =
      if gripButtons input.buttons || (explicitButtons input.buttons || state.gripExplicit) then
        gripsHeld input.buttons
      else Vector.replicate 2 false
    by_cases hgrip : (gripButtons input.buttons ||
        (explicitButtons input.buttons || state.gripExplicit)) = true
    · rw [if_pos hgrip, if_pos hgrip]
    · rw [if_neg hgrip, if_neg hgrip]
      simp only [Bool.or_eq_true, not_or] at hgrip
      rw [if_neg hgrip.2.2]
  · intro h
    simp only [latchStick] at h ⊢
    rw [if_pos h]

end

-- Encoding the input that the state has taken in changes nothing the word is made of.
theorem Latched.encode {input : InputStateRequest} {state : Sc26State}
    (h : Latched input.buttons state) (now : UInt64) :
    SameLatches state (encodeSc26Input input (sc26Tick now state)).2 := by
  have hexplicit : (explicitButtons input.buttons || state.triggerClickExplicit) =
      state.triggerClickExplicit := by
    cases hb : explicitButtons input.buttons with
    | false => rfl
    | true => rw [(h.explicit hb).1]; rfl
  have hgrip : (gripButtons input.buttons || (explicitButtons input.buttons || state.gripExplicit)) =
      state.gripExplicit := by
    cases hg : gripButtons input.buttons with
    | true => rw [h.grips hg]; rfl
    | false =>
        cases hb : explicitButtons input.buttons with
        | false => rfl
        | true => rw [(h.explicit hb).2.1]; rfl
  have hstick : (stickButtons input.buttons ||
      (explicitButtons input.buttons || state.stickTouchExplicit)) = state.stickTouchExplicit := by
    cases hs : stickButtons input.buttons with
    | true => rw [h.sticks hs]; rfl
    | false =>
        cases hb : explicitButtons input.buttons with
        | false => rfl
        | true => rw [(h.explicit hb).2.2]; rfl
  have hgripTouch : (if state.gripExplicit then gripsHeld input.buttons
      else if state.gripExplicit then state.device.gripTouch else Vector.replicate 2 false) =
        state.device.gripTouch := by
    rw [h.gripTouch]
    cases state.gripExplicit <;> rfl
  have hstickTouch : (if state.stickTouchExplicit then sticksTouched input.buttons
      else state.device.stickTouch) = state.device.stickTouch := by
    cases hs : state.stickTouchExplicit with
    | false => rfl
    | true => exact (h.stickTouch hs).symm
  have hdeflection : (!stickButtons input.buttons && (!explicitButtons input.buttons &&
      state.device.stickTouchFromDeflection)) = state.device.stickTouchFromDeflection := by
    have hoff := h.deflection
    cases hb : explicitButtons input.buttons <;> cases hs : stickButtons input.buttons <;>
      simp_all
  rw [(encodeSc26Input_eq input _).1, latchClientInput_eq]
  refine ⟨hgrip, hstick, hexplicit, ?_, ?_, hdeflection, ?_⟩
  · simp only [latchStick, latchGrip, latchExplicit, sc26Tick, hgrip, hgripTouch]
  · simp only [latchStick, latchGrip, latchExplicit, sc26Tick, hstick, hstickTouch]
  · simp only [latchStick, latchGrip, latchExplicit, sc26Tick, hexplicit]
    exact h.analog.symm

theorem Latched.of_same {buttons : UInt32} {state other : Sc26State} (h : Latched buttons state)
    (hsame : SameLatches state other) : Latched buttons other := by
  refine ⟨?_, ?_, ?_, ?_, ?_, ?_, ?_⟩
  · rw [hsame.triggerClickExplicit, hsame.gripExplicit, hsame.stickTouchExplicit]
    exact h.explicit
  · rw [hsame.gripExplicit]
    exact h.grips
  · rw [hsame.stickTouchExplicit]
    exact h.sticks
  · rw [hsame.stickTouchFromDeflection]
    exact h.deflection
  · rw [hsame.triggerClickFromAnalog, hsame.triggerClickExplicit]
    exact h.analog
  · rw [hsame.gripTouch, hsame.gripExplicit]
    exact h.gripTouch
  · rw [hsame.stickTouchExplicit, hsame.stickTouch]
    exact h.stickTouch

end LibVirtualGamepad.SteamController
