import LibVirtualGamepad.Driver.Creation
import LibVirtualGamepad.Driver.PidClock

-- A device whose power callbacks all keep it in D0 never stops, and its slots get
-- active only by adoption.
namespace LibVirtualGamepad

open Interleaving

section Acts

variable {d : Device} {regs : Registers} {choice : Choice} {threads : List Task} {k : Operation}
  {o : Effect} {a : Act}

theorem announces_of_plain (h : a.plain = true) : a.announces = false := by
  cases a with
  | power act => cases h
  | _ => rfl

theorem announces_deleteStopped (retain : Bool) :
    ∀ b ∈ deleteStoppedKeyboardMouse retain, b.announces = false := by
  simp [deleteStoppedKeyboardMouse, Act.announces]

theorem announces_deleteCollected {handles : ControllerId → Option Handle}
    {after : ControllerId → List Act} (hafter : ∀ id, ∀ b ∈ after id, b.announces = false) :
    ∀ b ∈ deleteCollected handles after, b.announces = false := by
  intro b hb
  obtain ⟨id, -, hb⟩ := List.mem_flatMap.mp hb
  split at hb
  · rcases List.mem_append.mp hb with hb | hb
    · exact announces_of_plain (deleteAfterSubmits_plain b hb)
    · exact hafter id b hb
  · simp at hb

theorem announces_power (act : PowerAct) : ∀ b ∈ (act.exec d regs).next, b.announces = false := by
  have hstop : ∀ b ∈ stopKeepalive, b.announces = false := by simp [stopKeepalive, Act.announces]
  intro b hb
  cases act with
  | stopMark forgetTarget =>
      rcases List.mem_append.mp hb with hb | hb
      · exact announces_deleteStopped false b hb
      · rw [List.mem_singleton.mp hb]
        rfl
  | stopCollect forgetTarget =>
      rcases List.mem_append.mp hb with hb | hb
      · exact announces_deleteCollected (by simp [Act.announces]) b hb
      · exact hstop b hb
  | downMark =>
      simp only [PowerAct.exec, Device.effect, List.mem_append, List.mem_singleton] at hb
      rcases hb with (((hb | rfl) | hb) | hb) | rfl
      · exact announces_deleteStopped true b hb
      · rfl
      · exact hstop b hb
      · exact announces_deleteCollected (by simp) b hb
      · rfl
  | prepare =>
      rw [List.mem_singleton.mp hb]
      rfl
  | _ => simp [PowerAct.exec, Device.effect] at hb

theorem announces_create {id : ControllerId} {owner : File} {profile : Profile} (act : CreateAct) :
    ∀ b ∈ (act.exec d regs choice id owner profile).next, b.announces = false := by
  cases act <;> simp only [CreateAct.exec] <;> (repeat' split) <;>
    simp [Device.effect, Act.announces, targetOpen]

theorem announces_keyboardMouse {act : KeyboardMouseAct} (h : act.exec d regs choice = some o) :
    ∀ b ∈ o.next, b.announces = false := by
  cases act with
  | authorize owner request =>
      simp only [KeyboardMouseAct.exec] at h
      split at h <;> cases h
      · cases request <;> simp [KeyboardMouseRequest.program, Device.effect, Act.announces]
      · simp [Device.effect]
  | _ =>
      simp only [KeyboardMouseAct.exec] at h
      repeat' split at h
      all_goals cases h
      all_goals simp [Device.effect, Act.announces, targetOpen, deleteStoppedKeyboardMouse]

-- No act brings an announcement about.
theorem announces_next (h : a.exec threads d k regs choice = some o) :
    ∀ b ∈ o.next, b.announces = false := by
  cases a with
  | create id owner profile act =>
      cases h
      exact announces_create act
  | power act =>
      cases h
      exact announces_power act
  | keyboardMouse act => exact announces_keyboardMouse h
  | _ => exact fun b hb => announces_of_plain (plain_next rfl rfl rfl h b hb)

theorem stopping_after (hd : d.stopping = false) (ha : a.announces = false)
    (h : a.exec threads d k regs choice = some o) : o.shared.stopping = false := by
  cases hmanages : a.manages with
  | false => exact (Act.control_of_not_manages hmanages h).stopping.trans hd
  | true =>
      cases a with
      | create id owner profile act =>
          cases h
          exact (create_only act).stopping.trans hd
      | destroy id owner act =>
          cases h
          exact (destroy_only act).stopping.trans hd
      | keyboardMouse act => exact (keyboardMouse_only h).1.stopping.trans hd
      | power act =>
          cases h
          cases act with
          | stopIntent => simp [Act.announces] at ha
          | stopMark _ | downMark => exact (only_stopAdmission (d := d.stopTimer)).stopping.trans hd
          | prepare => rfl
          | _ => exact hd
      | _ => simp [Act.manages] at hmanages

theorem state_setSlot {id i : ControllerId} {slot : Slot} {state : SlotState}
    (hslot : slot.control.state ≠ state)
    (h : ((d.setSlot id slot).controllers i).control.state = state) :
    (d.controllers i).control.state = state := by
  by_cases hi : i = id
  · rw [hi, setSlot_controllers_self] at h
    exact absurd h hslot
  · rwa [setSlot_controllers_of_ne hi] at h

theorem active_create {id i : ControllerId} {owner : File} {profile : Profile} (act : CreateAct)
    (h : ((act.exec d regs choice id owner profile).shared.controllers i).control.state = .active) :
    (d.controllers i).control.state = .active ∨
      i = id ∧ (∃ handle, act = .adopt handle) ∧ d.adopts choice id owner = true := by
  cases act with
  | adopt handle =>
      cases hadopts : d.adopts choice id owner with
      | true =>
          by_cases hi : i = id
          · exact .inr ⟨hi, ⟨handle, rfl⟩, rfl⟩
          · unfold Device.adopts at hadopts
            simp only [CreateAct.exec, hadopts, Device.effect, Device.setControl, if_true] at h
            rw [setSlot_controllers_of_ne hi] at h
            exact .inl h
      | false =>
          unfold Device.adopts at hadopts
          simp only [CreateAct.exec, hadopts, Device.effect, Bool.false_eq_true, if_false] at h
          left
          have hleft := state_setSlot (by simp [Device.setControl]) h
          exact state_setSlot (by simp) hleft
  | «begin» generation childPresent =>
      simp only [CreateAct.exec] at h
      repeat' split at h
      · exact .inl h
      · exact .inl h
      · exact .inl (state_setSlot (by simp) h)
  | publish handle =>
      simp only [CreateAct.exec, Device.effect, Device.setControl] at h
      by_cases hi : i = id
      · rw [hi, setSlot_controllers_self] at h
        exact .inl (hi ▸ h)
      · rw [setSlot_controllers_of_ne hi] at h
        exact .inl h
  | release =>
      simp only [CreateAct.exec, Device.effect, Device.releaseStartingSlot] at h
      split at h
      · exact .inl (state_setSlot (by simp [Slot.reset]) h)
      · exact .inl h
  | check | enumerate _ | targetOpened | readFile | vhfCreate | start _ =>
      simp only [CreateAct.exec] at h
      repeat' split at h
      all_goals exact .inl h

-- The states of a slot that a creator holds or has handed over.
def SlotState.taken (state : SlotState) : Prop := state = .active ∨ state = .starting

namespace SlotState.taken

variable {state : SlotState}

theorem ne_empty (h : state.taken) : SlotState.empty ≠ state := by
  rcases h with rfl | rfl <;> decide

theorem ne_stopping (h : state.taken) : SlotState.stopping ≠ state := by
  rcases h with rfl | rfl <;> decide

theorem ne_lost (h : state.taken) : SlotState.lost ≠ state := by
  rcases h with rfl | rfl <;> decide

end SlotState.taken

-- A slot gets neither state by a destroy or by a power callback.
theorem taken_destroy {id i : ControllerId} {owner : File} {state : SlotState}
    (hstate : state.taken) (act : DestroyAct)
    (h : ((act.exec d regs id owner).shared.controllers i).control.state = state) :
    (d.controllers i).control.state = state := by
  cases act with
  | check =>
      simp only [DestroyAct.exec] at h
      repeat' split at h
      all_goals exact h
  | detach =>
      simp only [DestroyAct.exec] at h
      split at h
      · exact h
      split at h
      · exact state_setSlot hstate.ne_stopping h
      split at h
      · exact state_setSlot hstate.ne_empty h
      · have hleft := state_setSlot (by simpa [Device.setControl] using hstate.ne_stopping) h
        exact state_setSlot hstate.ne_stopping hleft
  | finish =>
      simp only [DestroyAct.exec] at h
      split at h
      · exact state_setSlot hstate.ne_empty h
      · exact h

theorem taken_power {i : ControllerId} {state : SlotState} (hstate : state.taken) (act : PowerAct)
    (h : ((act.exec d regs).shared.controllers i).control.state = state) :
    (d.controllers i).control.state = state := by
  have hadmission : d.stopTimer.stopKeyboardMouseAdmission.controllers = d.controllers :=
    only_stopAdmission.controllers
  have hslots {d : Device} {f : ControllerId → Slot → Slot}
      (hf : ∀ slot, (f i slot).control.state = state → slot.control.state = state)
      (h : ((d.mapSlots f).controllers i).control.state = state) :
      (d.controllers i).control.state = state := hf _ h
  cases act with
  | stopMark forgetTarget =>
      rw [← hadmission]
      refine hslots (fun slot hslot => ?_) h
      obtain ⟨⟨generation, vhf, owner, before, submitsInFlight⟩, data⟩ := slot
      cases before with
      | empty => exact hslot
      | stopping => exact hslot
      | active | starting => exact absurd hslot hstate.ne_stopping
      | lost => exact absurd hslot hstate.ne_empty
  | stopCollect forgetTarget =>
      refine hslots (f := fun _ slot => slot.detached) (fun slot hslot => ?_) h
      unfold Slot.detached at hslot
      split at hslot <;> exact hslot
  | stopRelease id => exact state_setSlot hstate.ne_empty h
  | downMark =>
      rw [← hadmission]
      refine hslots (f := fun id slot => slot.takenDown (d.controllers id).poweredDown.isSome)
        (fun slot hslot => ?_) h
      unfold Slot.takenDown at hslot
      split at hslot
      · exact absurd hslot hstate.ne_stopping
      · exact hslot
  | downDetach handles =>
      refine hslots (f := fun id slot => slot.unpublished (handles id).isSome)
        (fun slot hslot => ?_) h
      unfold Slot.unpublished at hslot
      split at hslot <;> exact hslot
  | downFinish handles =>
      refine hslots (f := fun id slot => slot.lostAfterDelete (handles id).isSome)
        (fun slot hslot => ?_) h
      unfold Slot.lostAfterDelete at hslot
      split at hslot
      · exact absurd hslot hstate.ne_lost
      · exact hslot
  | stopIntent | downIntent | prepare | d0Entry | releaseTarget => exact h

-- A slot gets active by adoption and by nothing else.
theorem active_after {i : ControllerId} (h : a.exec threads d k regs choice = some o)
    (hactive : (o.shared.controllers i).control.state = .active) :
    (d.controllers i).control.state = .active ∨ ∃ owner profile handle,
      a = .create i owner profile (.adopt handle) ∧ d.adopts choice i owner = true := by
  cases hmanages : a.manages with
  | false =>
      rw [((Act.control_of_not_manages hmanages h).lifecycle i).state] at hactive
      exact .inl hactive
  | true =>
      cases a with
      | create id owner profile act =>
          cases h
          obtain hbefore | ⟨rfl, ⟨handle, rfl⟩, hadopts⟩ := active_create act hactive
          · exact .inl hbefore
          · exact .inr ⟨owner, profile, handle, rfl, hadopts⟩
      | destroy id owner act =>
          cases h
          exact .inl (taken_destroy (.inl rfl) act hactive)
      | power act =>
          cases h
          exact .inl (taken_power (.inl rfl) act hactive)
      | keyboardMouse act =>
          rw [(keyboardMouse_only h).1.controllers] at hactive
          exact .inl hactive
      | _ => simp [Act.manages] at hmanages

-- A creator takes its slot with a reset.
theorem starting_create {id i : ControllerId} {owner : File} {profile : Profile} (act : CreateAct)
    (h : ((act.exec d regs choice id owner profile).shared.controllers i).control.state =
      .starting) :
    (d.controllers i).control.state = .starting ∨
      ((act.exec d regs choice id owner profile).shared.controllers i).control.generation =
        (d.controllers i).control.generation + 1 := by
  cases act with
  | «begin» generation childPresent =>
      simp only [CreateAct.exec] at h ⊢
      repeat' split at h
      · exact .inl h
      · exact .inl h
      · rename_i hfree hfresh
        rw [if_neg hfresh]
        by_cases hi : i = id
        · right
          rw [hi]
          simp only [Device.effect, Device.beginSlot, setSlot_controllers_self, Slot.reset]
        · left
          simp only [Device.effect, Device.beginSlot, setSlot_controllers_of_ne hi] at h
          exact h
  | publish handle =>
      left
      simp only [CreateAct.exec, Device.effect, Device.setControl] at h
      by_cases hi : i = id
      · rw [hi, setSlot_controllers_self] at h
        exact hi ▸ h
      · rwa [setSlot_controllers_of_ne hi] at h
  | adopt handle =>
      left
      simp only [CreateAct.exec] at h
      split at h
      · exact state_setSlot (by simp) h
      · have hleft := state_setSlot (by simp [Device.setControl]) h
        exact state_setSlot (by simp) hleft
  | release =>
      left
      simp only [CreateAct.exec, Device.effect, Device.releaseStartingSlot] at h
      split at h
      · exact state_setSlot (by simp [Slot.reset]) h
      · exact h
  | check | enumerate _ | targetOpened | readFile | vhfCreate | start _ =>
      left
      simp only [CreateAct.exec] at h
      repeat' split at h
      all_goals exact h

-- A slot is being created since its last reset.
theorem starting_after {i : ControllerId} (h : a.exec threads d k regs choice = some o)
    (hstarting : (o.shared.controllers i).control.state = .starting) :
    (d.controllers i).control.state = .starting ∨
      (o.shared.controllers i).control.generation = (d.controllers i).control.generation + 1 := by
  cases hmanages : a.manages with
  | false =>
      rw [((Act.control_of_not_manages hmanages h).lifecycle i).state] at hstarting
      exact .inl hstarting
  | true =>
      cases a with
      | create id owner profile act =>
          cases h
          exact starting_create act hstarting
      | destroy id owner act =>
          cases h
          exact .inl (taken_destroy (.inr rfl) act hstarting)
      | power act =>
          cases h
          exact .inl (taken_power (.inr rfl) act hstarting)
      | keyboardMouse act =>
          rw [(keyboardMouse_only h).1.controllers] at hstarting
          exact .inl hstarting
      | _ => simp [Act.manages] at hmanages

-- The slot that is adopted keeps its generation, and all else its control.
theorem adopt_after {id : ControllerId} {owner : File} {profile : Profile} {handle : Handle}
    (hadopts : d.adopts choice id owner = true)
    (h : Act.exec threads d k regs choice (.create id owner profile (.adopt handle)) = some o) :
    (o.shared.controllers id).control.state = .active ∧
      (o.shared.controllers id).control.generation = (d.controllers id).control.generation := by
  cases h
  unfold Device.adopts at hadopts
  simp only [CreateAct.exec, hadopts, Device.effect, Device.setControl, if_true,
    setSlot_controllers_self, and_self]

end Acts

section Programs

variable {profiles : Profile → Option ProfileDefinition}

theorem announces_request (owner : File) (asked : Request) :
    ∀ b ∈ asked.program owner, b.announces = false := by
  cases asked <;> simp only [Request.program, withSlot, stateUpdate, gated] <;> (repeat' split) <;>
    simp [Act.announces]

-- What may be started while the device stays in D0 announces nothing.
theorem announces_program {operation : Operation} (h : operation.endsPower = false) :
    ∀ b ∈ operation.programWith profiles, b.announces = false := by
  cases operation with
  | request owner asked =>
      cases owner with
      | none => simp [Operation.programWith, Operation.program, Act.announces]
      | some owner =>
          cases asked with
          | create asked =>
              simp only [Operation.programWith, withSlot]
              repeat' split
              all_goals simp [Act.announces]
          | _ =>
              simp only [Operation.programWith, Operation.program]
              exact announces_request owner _
  | fileClose owner =>
      intro b hb
      simp only [Operation.programWith, Operation.program, keyboardMouseFileCleanup, gated,
        List.mem_append, List.mem_cons, List.mem_flatMap, List.not_mem_nil, or_false] at hb
      rcases hb with (rfl | (rfl | rfl) | rfl) | ⟨id, -, (rfl | rfl) | rfl⟩ <;> rfl
  | d0Exit | releaseHardware | targetCleanup => simp [Operation.endsPower] at h
  | _ => simp [Operation.programWith, Operation.program, keyboardMouseFileCleanup, gated,
      Act.announces]

end Programs

-- No transition has announced itself and none is about to.
structure Undisturbed (world : World) : Prop where
  stopping : world.shared.stopping = false
  todo : ∀ t ∈ world.threads, ∀ a ∈ t.todo, a.announces = false

theorem undisturbed_initial (keepalive : Bool) : Undisturbed (World.initial keepalive) :=
  ⟨rfl, List.forall_mem_nil _⟩

theorem Undisturbed.of_eq {world world' : World} (h : Undisturbed world)
    (hthreads : world'.threads = world.threads)
    (hstopping : world'.shared.stopping = world.shared.stopping) : Undisturbed world' :=
  ⟨hstopping.trans h.stopping, hthreads ▸ h.todo⟩

theorem Undisturbed.step {profiles : Profile → Option ProfileDefinition} {world world' : World}
    {event : Event Choice Stimulus} (hworld : Undisturbed world)
    (hstep : (driverWith profiles).step world event = some world') : Undisturbed world' := by
  cases event with
  | act i choice =>
      obtain ⟨s⟩ := System.actStep_of_step hstep
      have hact : s.act.announces = false := by
        apply hworld.todo s.thread s.mem
        rw [s.todo]
        exact List.mem_cons_self
      have hexec : s.act.exec world.threads world.shared s.thread.kind s.thread.regs choice =
          some s.outcome := s.exec
      constructor
      · rw [s.shared_after]
        exact stopping_after hworld.stopping hact hexec
      · intro t ht a ha
        obtain hnext | ⟨u, hu, hold⟩ | ⟨u, hu, hnew⟩ := s.todo_after ht ha
        · exact announces_next hexec a hnext
        · exact hworld.todo u hu a hold
        · rw [spawn_worker hexec u hu, List.mem_singleton] at hnew
          rw [hnew]
          rfl
  | env stimulus =>
      obtain ⟨out, hout, rfl⟩ := System.environment_of_step hstep
      cases stimulus with
      | start operation =>
          simp only [driverWith] at hout
          split at hout <;> cases hout
          rename_i hstart
          simp only [Bool.and_eq_true, Bool.not_eq_true'] at hstart
          refine ⟨hworld.stopping, fun t ht a ha => ?_⟩
          rcases List.mem_append.mp ht with hold | hnew
          · exact hworld.todo t hold a ha
          · rw [List.mem_singleton.mp hnew] at ha
            exact announces_program hstart.2 a ha
      | timerFires =>
          simp only [driverWith, Stimulus.run] at hout
          split at hout <;> cases hout
          refine ⟨hworld.stopping, fun t ht a ha => ?_⟩
          rw [List.append_nil] at ht
          exact hworld.todo t ht a ha

-- Where a slot is active it was active before, or it is the one that is adopted.
theorem active_step {profiles : Profile → Option ProfileDefinition} {world world' : World}
    {event : Event Choice Stimulus} {id : ControllerId}
    (hstep : (driverWith profiles).step world event = some world')
    (hactive : (world'.shared.controllers id).control.state = .active) :
    (world.shared.controllers id).control.state = .active ∨ world.adopted event = some id := by
  cases event with
  | act i choice =>
      obtain ⟨s⟩ := System.actStep_of_step hstep
      have hexec : s.act.exec world.threads world.shared s.thread.kind s.thread.regs choice =
          some s.outcome := s.exec
      rw [s.shared_after] at hactive
      obtain hbefore | ⟨owner, profile, handle, hact, hadopts⟩ := active_after hexec hactive
      · exact .inl hbefore
      · have hevent : world.actOf (.act i choice) = some (choice, s.act) := by
          simp only [World.actOf, s.at_index, s.todo, Option.bind_some, List.head?_cons,
            Option.map_some]
        right
        simp only [World.adopted, hevent, hact, hadopts, if_true]
  | env stimulus =>
      obtain ⟨out, hout, rfl⟩ := System.environment_of_step hstep
      left
      cases stimulus <;> simp only [driverWith, Stimulus.run] at hout <;> split at hout <;>
        cases hout <;> exact hactive

-- A slot in creation was in creation before, or it has been reset.
theorem starting_step {profiles : Profile → Option ProfileDefinition} {world world' : World}
    {event : Event Choice Stimulus} {id : ControllerId}
    (hstep : (driverWith profiles).step world event = some world')
    (hstarting : (world'.shared.controllers id).control.state = .starting) :
    (world.shared.controllers id).control.state = .starting ∨
      (world'.shared.controllers id).control.generation ≠
        (world.shared.controllers id).control.generation := by
  cases event with
  | act i choice =>
      obtain ⟨s⟩ := System.actStep_of_step hstep
      have hexec : s.act.exec world.threads world.shared s.thread.kind s.thread.regs choice =
          some s.outcome := s.exec
      rw [s.shared_after] at hstarting ⊢
      obtain hbefore | hreset := starting_after hexec hstarting
      · exact .inl hbefore
      · right
        rw [hreset]
        simp
  | env stimulus =>
      obtain ⟨out, hout, rfl⟩ := System.environment_of_step hstep
      left
      cases stimulus <;> simp only [driverWith, Stimulus.run] at hout <;> split at hout <;>
        cases hout <;> exact hstarting

-- What an adoption leaves of the slot.
theorem adopted_step {profiles : Profile → Option ProfileDefinition} {world world' : World}
    {event : Event Choice Stimulus} {id : ControllerId}
    (hstep : (driverWith profiles).step world event = some world')
    (hadopted : world.adopted event = some id) :
    (world'.shared.controllers id).control.state = .active ∧
      (world'.shared.controllers id).control.generation =
        (world.shared.controllers id).control.generation := by
  cases event with
  | env stimulus => simp [World.adopted, World.actOf] at hadopted
  | act i choice =>
      obtain ⟨s⟩ := System.actStep_of_step hstep
      have hevent : world.actOf (.act i choice) = some (choice, s.act) := by
        simp only [World.actOf, s.at_index, s.todo, Option.bind_some, List.head?_cons,
          Option.map_some]
      have hexec : s.act.exec world.threads world.shared s.thread.kind s.thread.regs choice =
          some s.outcome := s.exec
      rw [s.shared_after]
      unfold World.adopted at hadopted
      rw [hevent] at hadopted
      split at hadopted
      · rename_i heq
        obtain ⟨rfl, hact⟩ := Prod.mk.inj (Option.some.inj heq)
        split at hadopted <;> cases hadopted
        rename_i hadopts
        rw [hact] at hexec
        exact adopt_after hadopts hexec
      · cases hadopted

end LibVirtualGamepad
