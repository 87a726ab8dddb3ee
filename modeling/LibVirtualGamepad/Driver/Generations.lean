import LibVirtualGamepad.Driver.Frame
import LibVirtualGamepad.Interleaving.Run

-- The generations of the slots. Every reset of a controller's slot takes the next
-- one, and so does every admission and every retirement of the keyboard and mouse.
namespace LibVirtualGamepad

open Interleaving

def Device.generationAt (d : Device) : Place → UInt64
  | .controller id => (d.controllers id).control.generation
  | .keyboardMouse => d.keyboardMouse.generation

def Place.nextGeneration : Place → UInt64 → UInt64
  | .controller _, generation => generation + 1
  | .keyboardMouse, generation => KeyboardMouseSlot.nextGeneration generation

-- The sections in which the slot of a controller is reset.
def CreateAct.resets (d : Device) (id : ControllerId) (owner : File) : CreateAct → Bool
  | .begin generation childPresent =>
    (d.createRefusal id owner).isNone &&
      !((d.controllers id).control.generation != generation || childPresent)
  | .release =>
    let control := (d.controllers id).control
    control.isOwnedBy owner && (control.state == .starting || control.state == .stopping)
  | _ => false

def DestroyAct.resets (d : Device) (id : ControllerId) (owner : File) : DestroyAct → Bool
  | .check => false
  | .detach =>
    let control := (d.controllers id).control
    control.isOwnedBy owner && control.state == .lost
  | .finish =>
    let control := (d.controllers id).control
    control.isOwnedBy owner && control.state == .stopping

def PowerAct.resets (d : Device) (id : ControllerId) : PowerAct → Bool
  | .stopMark _ => (d.controllers id).control.state == .lost
  | .stopRelease id' => id' == id
  | .downFinish handles => (handles id).isSome && (d.controllers id).control.state == .stopping
  | _ => false

-- The sections in which the keyboard and mouse is admitted or retired.
def KeyboardMouseAct.renews (d : Device) (choice : Choice) : KeyboardMouseAct → Bool
  | .openBegin owner generation childPresent =>
    d.keyboardMouseLive owner && !(d.keyboardMouse.generation != generation || childPresent ||
      !d.keyboardMouse.available owner)
  | .publish owner _ _ => !d.keyboardMouseLive owner
  | .adopt owner context =>
    let slot := d.keyboardMouse
    !(choice.status.ok && d.keyboardMouseLive owner && slot.callbackContext == some context &&
      slot.owner == some owner && slot.state == .starting && slot.core.state == .active)
  | .close owner =>
    let slot := d.keyboardMouse
    slot.owner == some owner && slot.state == .active && d.keyboardMouseLive owner &&
      (slot.core.state == .faulted || slot.core.state == .drained)
  | .abort owner => d.keyboardMouse.state != .empty && d.keyboardMouse.owner == some owner
  | .cleanupStop owner => d.keyboardMouse.owner == some owner
  | _ => false

def Act.renews (d : Device) (choice : Choice) : Place → Act → Bool
  | .controller id, .create id' owner _ act => id' == id && act.resets d id' owner
  | .controller id, .destroy id' owner act => id' == id && act.resets d id' owner
  | .controller id, .power act => act.resets d id
  | .keyboardMouse, .keyboardMouse act => act.renews d choice
  | .keyboardMouse, .power (.stopMark _) => true
  | .keyboardMouse, .power .downMark => true
  | _, _ => false

section After

variable {d : Device} {regs : Registers} {choice : Choice} {threads : List Task} {o : Effect}

@[simp] theorem generation_stopAdmission : d.stopKeyboardMouseAdmission.keyboardMouse.generation =
    KeyboardMouseSlot.nextGeneration d.keyboardMouse.generation := by
  unfold Device.stopKeyboardMouseAdmission
  dsimp only
  split <;> rfl

@[simp] theorem keyboardMouse_freeContext (context : Option Nat) :
    (d.freeContext context).keyboardMouse = d.keyboardMouse := by
  cases context <;> rfl

@[simp] theorem generation_released (slot : KeyboardMouseSlot) (lost : Option File)
    (cleanup : File → Bool) : (slot.released lost cleanup).generation = slot.generation := by
  unfold KeyboardMouseSlot.released
  split
  · split <;> rfl
  · rfl

@[simp] theorem keyboardMouseLive_setKeyboardMouse (slot : KeyboardMouseSlot) (owner : File) :
    (d.setKeyboardMouse slot).keyboardMouseLive owner = d.keyboardMouseLive owner :=
  rfl

theorem keyboardMouse_generation {act : KeyboardMouseAct} (h : act.exec d regs choice = some o) :
    o.shared.keyboardMouse.generation =
      if act.renews d choice then KeyboardMouseSlot.nextGeneration d.keyboardMouse.generation
      else d.keyboardMouse.generation := by
  cases act with
  | openBegin owner generation childPresent =>
      simp only [KeyboardMouseAct.exec] at h
      simp only [KeyboardMouseAct.renews]
      split at h
      · rename_i hlive
        cases h
        simp_all [Device.effect]
      · rename_i hlive
        split at h
        · rename_i hstale
          cases h
          simp only [hstale, Bool.not_true, Bool.and_false, Bool.false_eq_true, if_false]
          rfl
        · rename_i hfresh
          simp only [Bool.not_eq_true', Bool.not_eq_true, Bool.not_eq_false] at hlive hfresh
          simp only [hlive, hfresh, Bool.not_false, Bool.and_true, if_true]
          split at h <;> cases h <;> rfl
  | publish owner context handle =>
      simp only [KeyboardMouseAct.exec] at h
      simp only [KeyboardMouseAct.renews]
      split at h <;> rename_i hlive <;> rw [keyboardMouseLive_setKeyboardMouse] at hlive <;> cases h <;>
        simp [hlive, Device.effect, Device.setKeyboardMouse]
  | adopt owner context =>
      simp only [KeyboardMouseAct.exec] at h
      simp only [KeyboardMouseAct.renews]
      split at h <;> rename_i hadopted <;> cases h
      · simp only [hadopted]
        rfl
      · simp only [hadopted]
        exact generation_stopAdmission
  | close owner =>
      simp only [KeyboardMouseAct.exec] at h
      simp only [KeyboardMouseAct.renews]
      split at h
      · cases h
        simp_all [Device.effect]
      · split at h
        · cases h
          simp_all [Device.effect]
        · split at h
          · rename_i hidle
            cases h
            rcases Bool.or_eq_true _ _ |>.mp hidle with hidle | hidle <;> simp_all [Device.effect]
          · split at h
            · cases h
              simp_all [Device.effect]
            · cases h
              simp_all [Device.effect, Device.setCore, Device.setKeyboardMouse]
  | abort owner =>
      simp only [KeyboardMouseAct.exec] at h
      simp only [KeyboardMouseAct.renews]
      repeat' split at h
      all_goals cases h
      all_goals simp_all [Device.effect]
  | cleanupStop owner =>
      simp only [KeyboardMouseAct.exec] at h
      simp only [KeyboardMouseAct.renews]
      split at h <;> rename_i howner <;> cases h <;> simp [howner, Device.effect]
  | release lost context =>
      simp only [KeyboardMouseAct.exec] at h
      split at h <;> cases h <;> simp [KeyboardMouseAct.renews, Device.effect, Device.setKeyboardMouse]
  | vhfCreate owner context =>
      simp only [KeyboardMouseAct.exec] at h
      split at h <;> cases h <;> rfl
  | _ =>
      simp only [KeyboardMouseAct.exec] at h
      repeat' split at h
      all_goals cases h
      all_goals rfl

theorem generation_setSlot (id i : ControllerId) (slot : Slot) :
    ((d.setSlot id slot).controllers i).control.generation =
      if id = i then slot.control.generation else (d.controllers i).control.generation := by
  by_cases hi : i = id
  · simp [hi]
  · have hne : ¬id = i := fun heq => hi heq.symm
    rw [setSlot_controllers_of_ne hi, if_neg hne]

theorem create_generation (act : CreateAct) (id i : ControllerId) (owner : File) (profile : Profile) :
    ((act.exec d regs choice id owner profile).shared.controllers i).control.generation =
      if id == i && act.resets d id owner then (d.controllers i).control.generation + 1
      else (d.controllers i).control.generation := by
  cases act with
  | «begin» generation childPresent =>
      simp only [CreateAct.exec, CreateAct.resets]
      split
      · rename_i status hrefused
        simp [hrefused, Device.effect]
      · rename_i hfree
        split
        · rename_i hstale
          simp [hfree, hstale, Device.effect]
        · rename_i hfresh
          simp only [Bool.not_eq_true] at hfresh
          simp only [hfree, hfresh, Device.effect, Device.beginSlot, generation_setSlot, Slot.reset]
          by_cases hi : id = i <;> simp [hi]
  | release =>
      simp only [CreateAct.exec, CreateAct.resets, Device.releaseStartingSlot, Device.effect]
      split
      · rename_i hmine
        simp only [hmine, Device.resetSlot, generation_setSlot, Slot.reset]
        by_cases hi : id = i <;> simp [hi]
      · rename_i hother
        simp [hother]
  | publish handle =>
      simp only [CreateAct.exec, CreateAct.resets, Device.effect, Device.setControl, generation_setSlot]
      by_cases hi : id = i <;> simp [hi]
  | adopt handle =>
      simp only [CreateAct.exec, CreateAct.resets]
      split <;> simp only [Device.effect, Device.clearFeedbackPending, Device.setControl,
        generation_setSlot] <;> by_cases hi : id = i <;> simp [hi]
  | check | enumerate _ | targetOpened | readFile | vhfCreate | start _ =>
      simp only [CreateAct.exec, CreateAct.resets, Bool.and_false, Bool.false_eq_true, if_false]
      repeat' split
      all_goals rfl

theorem destroy_generation (act : DestroyAct) (id i : ControllerId) (owner : File) :
    ((act.exec d regs id owner).shared.controllers i).control.generation =
      if id == i && act.resets d id owner then (d.controllers i).control.generation + 1
      else (d.controllers i).control.generation := by
  cases act with
  | check =>
      simp only [DestroyAct.exec, DestroyAct.resets, Bool.and_false, Bool.false_eq_true, if_false]
      repeat' split
      all_goals rfl
  | detach =>
      simp only [DestroyAct.exec, DestroyAct.resets]
      split
      · rename_i hother
        rcases Bool.or_eq_true _ _ |>.mp hother with hother | hempty <;> simp_all [Device.effect]
      · split
        · simp_all only [Device.effect, Device.setControl, generation_setSlot]
          by_cases hi : id = i <;> simp_all
        · split
          · simp only [Device.effect, Device.resetSlot, generation_setSlot, Slot.reset]
            by_cases hi : id = i <;> simp_all
          · simp only [Device.effect, Device.discardFeedback, Device.setControl, generation_setSlot]
            by_cases hi : id = i <;> simp_all
  | finish =>
      simp only [DestroyAct.exec, DestroyAct.resets]
      split
      · rename_i hmine
        simp only [hmine, Device.effect, Device.resetSlot, generation_setSlot, Slot.reset]
        by_cases hi : id = i <;> simp [hi]
      · rename_i hother
        simp [hother, Device.effect]

theorem generation_stopped (slot : Slot) : slot.stopped.control.generation =
    if slot.control.state == .lost then slot.control.generation + 1 else slot.control.generation := by
  obtain ⟨⟨generation, vhf, owner, state, submitsInFlight⟩, data⟩ := slot
  cases state <;> rfl

theorem power_generation (act : PowerAct) (i : ControllerId) :
    ((act.exec d regs).shared.controllers i).control.generation =
      if act.resets d i then (d.controllers i).control.generation + 1
      else (d.controllers i).control.generation := by
  cases act with
  | stopMark forgetTarget =>
      have hslots : (d.stopTimer.stopKeyboardMouseAdmission).controllers = d.controllers :=
        only_stopAdmission.controllers
      simp only [PowerAct.exec, Device.effect, Device.mapSlots, hslots, PowerAct.resets]
      exact generation_stopped (d.controllers i)
  | stopCollect forgetTarget =>
      simp only [PowerAct.exec, Device.effect, Device.mapSlots, PowerAct.resets, Slot.detached]
      split <;> rfl
  | stopRelease id =>
      simp only [PowerAct.exec, Device.effect, Device.resetSlot, generation_setSlot, PowerAct.resets,
        Slot.reset]
      by_cases hi : id = i <;> simp [hi]
  | downMark =>
      have hslots : (d.stopTimer.stopKeyboardMouseAdmission).controllers = d.controllers :=
        only_stopAdmission.controllers
      simp only [PowerAct.exec, Device.effect, Device.mapSlots, hslots, PowerAct.resets, Slot.takenDown]
      split <;> rfl
  | downDetach handles =>
      simp only [PowerAct.exec, Device.effect, Device.mapSlots, PowerAct.resets, Slot.unpublished]
      split <;> rfl
  | downFinish handles =>
      simp only [PowerAct.exec, Device.effect, Device.mapSlots, PowerAct.resets, Slot.lostAfterDelete]
      split <;> rename_i htaken <;> simp [htaken, Slot.reset]
  | stopIntent | downIntent | prepare | d0Entry | releaseTarget => rfl

theorem power_generation_keyboardMouse (act : PowerAct) :
    (act.exec d regs).shared.keyboardMouse.generation =
      if Act.renews d choice .keyboardMouse (.power act) then
        KeyboardMouseSlot.nextGeneration d.keyboardMouse.generation
      else d.keyboardMouse.generation := by
  cases act with
  | stopMark forgetTarget => exact generation_stopAdmission (d := d.stopTimer)
  | downMark => exact generation_stopAdmission (d := d.stopTimer)
  | _ => rfl

-- The one place where a generation changes is where the slot is renewed.
theorem generation_after {k : Operation} {a : Act} (h : a.exec threads d k regs choice = some o)
    (p : Place) : o.shared.generationAt p =
      if a.renews d choice p then p.nextGeneration (d.generationAt p) else d.generationAt p := by
  by_cases hmanages : a.manages = true
  · cases a with
    | create id owner profile act =>
        cases h
        cases p with
        | controller i =>
            simp only [Device.generationAt, Act.renews, Place.nextGeneration]
            exact create_generation act id i owner profile
        | keyboardMouse =>
            exact congrArg KeyboardMouseSlot.generation (create_only act).keyboardMouse.slot
    | destroy id owner act =>
        cases h
        cases p with
        | controller i =>
            simp only [Device.generationAt, Act.renews, Place.nextGeneration]
            exact destroy_generation act id i owner
        | keyboardMouse =>
            exact congrArg KeyboardMouseSlot.generation (destroy_only act).keyboardMouse.slot
    | power act =>
        cases h
        cases p with
        | controller i =>
            simp only [Device.generationAt, Act.renews, Place.nextGeneration]
            exact power_generation act i
        | keyboardMouse => exact power_generation_keyboardMouse act
    | keyboardMouse act =>
        cases p with
        | controller i =>
            have hslots := (keyboardMouse_only h).1.controllers
            simp only [Device.generationAt, hslots, Act.renews, Bool.false_eq_true, if_false]
        | keyboardMouse => exact keyboardMouse_generation h
    | _ => simp [Act.manages] at hmanages
  · have hcontrol := Act.control_of_not_manages (Bool.not_eq_true _ ▸ hmanages) h
    have hrenews : a.renews d choice p = false := by
      cases p <;> cases a <;> first | rfl | simp [Act.manages] at hmanages
    rw [hrenews]
    cases p with
    | controller i => exact (hcontrol.lifecycle i).generation
    | keyboardMouse => exact congrArg KeyboardMouseSlot.generation hcontrol.keyboardMouse.slot

end After

-- The generations along a run.
section Runs

variable {keepalive : Bool} (run : driver.Run (World.initial keepalive))

def renewsAt (p : Place) (n : Nat) : Bool :=
  match run.actAt n with
  | some (_, choice, a) => a.renews (run.world n).shared choice p
  | none => false

-- How often the slot has been renewed before a position.
def renewals (p : Place) (n : Nat) : Nat := (List.range n).countP (renewsAt run p)

theorem renewals_succ (p : Place) (n : Nat) :
    renewals run p (n + 1) = renewals run p n + if renewsAt run p n then 1 else 0 := by
  rw [renewals, List.range_succ, List.countP_append, List.countP_singleton]
  rfl

theorem renewals_le (p : Place) {m n : Nat} (h : m ≤ n) : renewals run p m ≤ renewals run p n := by
  induction h with
  | refl => exact Nat.le_refl _
  | step _ ih =>
      rw [renewals_succ]
      omega

variable {run}

theorem Performs.renewsAt_eq {n i : Nat} {choice : Choice} {a : Act} (h : run.Performs n i choice a)
    (p : Place) : renewsAt run p n = a.renews (run.world n).shared choice p := by
  unfold System.Run.Performs at h
  simp [renewsAt, h]

theorem generation_step {n : Nat} {event : Event Choice Stimulus} (h : run.events[n]? = some event)
    (p : Place) : (run.world (n + 1)).shared.generationAt p =
      if renewsAt run p n then p.nextGeneration ((run.world n).shared.generationAt p)
      else (run.world n).shared.generationAt p := by
  cases event with
  | act i choice =>
      obtain ⟨s⟩ := System.actStep_of_step (run.step_at h)
      rw [Performs.renewsAt_eq (System.Run.performs_of_step h s), s.shared_after]
      exact generation_after (k := s.thread.kind) s.exec p
  | env stimulus =>
      have hidle : renewsAt run p n = false := by simp [renewsAt, System.Run.actAt, h]
      obtain ⟨out, hout, hw⟩ := System.environment_of_step (run.step_at h)
      have hsame : out.1.generationAt p = (run.world n).shared.generationAt p := by
        cases stimulus with
        | start operation =>
            simp only [driver, Stimulus.run] at hout
            split at hout <;> cases hout
            rfl
        | timerFires =>
            simp only [driver, Stimulus.run] at hout
            split at hout <;> cases hout
            cases p <;> rfl
      rw [hw, hidle]
      exact hsame

theorem nextGeneration_ofNat (p : Place) {n : Nat} (h : n + 1 < 2 ^ 64) :
    p.nextGeneration (UInt64.ofNat n) = UInt64.ofNat (n + 1) := by
  have hadd : UInt64.ofNat n + 1 = UInt64.ofNat (n + 1) := (UInt64.ofNat_add n 1).symm
  cases p with
  | controller id => exact hadd
  | keyboardMouse =>
      have hne : UInt64.ofNat (n + 1) ≠ 0 := by
        intro hzero
        have := congrArg UInt64.toNat hzero
        rw [UInt64.toNat_ofNat_of_lt' h] at this
        simp at this
      simp only [Place.nextGeneration, KeyboardMouseSlot.nextGeneration, hadd, if_neg hne]

-- While they do not run out the generations count the renewals.
theorem generation_eq (p : Place) : ∀ n, n ≤ run.length → renewals run p n < 2 ^ 64 →
    (run.world n).shared.generationAt p = UInt64.ofNat (renewals run p n) := by
  refine run.induct (fun _ => ?_) fun n event hevent ih hlt => ?_
  · cases p <;> rfl
  · rw [renewals_succ] at hlt ⊢
    rw [generation_step hevent p, ih (by omega)]
    cases hrenews : renewsAt run p n with
    | false => rfl
    | true =>
        rw [hrenews, if_pos rfl] at hlt
        exact nextGeneration_ofNat p hlt

theorem renewals_eq_of_generation {p : Place} {m n : Nat} (hm : m ≤ n) (hn : n ≤ run.length)
    (hlt : renewals run p n < 2 ^ 64)
    (h : (run.world m).shared.generationAt p = (run.world n).shared.generationAt p) :
    renewals run p m = renewals run p n := by
  have hle := renewals_le run p hm
  have hmlt : renewals run p m < 2 ^ 64 := Nat.lt_of_le_of_lt hle hlt
  rw [generation_eq p m (Nat.le_trans hm hn) hmlt, generation_eq p n hn hlt] at h
  have htoNat := congrArg UInt64.toNat h
  rwa [UInt64.toNat_ofNat_of_lt' hmlt, UInt64.toNat_ofNat_of_lt' hlt] at htoNat

-- A renewal takes a generation that the slot has never had.
theorem generation_fresh {p : Place} {n : Nat} (hn : n < run.length)
    (hlt : renewals run p run.length < 2 ^ 64) (hrenews : renewsAt run p n = true) {m : Nat}
    (hm : m ≤ n) :
    (run.world m).shared.generationAt p ≠ (run.world (n + 1)).shared.generationAt p := by
  intro h
  have hbound := renewals_le run p hn
  have heq := renewals_eq_of_generation (Nat.le_succ_of_le hm) hn (Nat.lt_of_le_of_lt hbound hlt) h
  have hle := renewals_le run p hm
  rw [renewals_succ, hrenews, if_pos rfl] at heq
  omega

-- Between two positions of one generation the slot is not renewed.
theorem not_renewed {p : Place} {m n : Nat} (hn : n ≤ run.length)
    (hlt : renewals run p run.length < 2 ^ 64)
    (h : (run.world m).shared.generationAt p = (run.world n).shared.generationAt p) {j : Nat}
    (hm : m ≤ j) (hj : j < n) : renewsAt run p j = false := by
  have hbound := renewals_le run p hn
  have heq := renewals_eq_of_generation (Nat.le_of_lt (Nat.lt_of_le_of_lt hm hj)) hn
    (Nat.lt_of_le_of_lt hbound hlt) h
  have hbefore := renewals_le run p hm
  have hafter := renewals_le run p hj
  rw [Nat.succ_eq_add_one, renewals_succ] at hafter
  by_contra hrenews
  rw [if_pos (Bool.not_eq_false _ ▸ hrenews)] at hafter
  omega

end Runs

end LibVirtualGamepad
