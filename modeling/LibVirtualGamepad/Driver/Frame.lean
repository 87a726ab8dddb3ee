import LibVirtualGamepad.Driver.Gate.Kept
import LibVirtualGamepad.Interleaving.Run

-- What the acts of one part of the driver leave of the others.
namespace LibVirtualGamepad

open Interleaving

variable {d d' d'' : Device} {regs : Registers} {choice : Choice} {threads : List Task} {o : Effect}

-- The keyboard and mouse's acts change nothing of the controllers or the device.
structure OnlyKeyboardMouse (d d' : Device) : Prop where
  stopping : d'.stopping = d.stopping
  powered : d'.powered = d.powered
  controllers : d'.controllers = d.controllers
  keepalive : d'.keepalive = d.keepalive

theorem OnlyKeyboardMouse.trans (h : OnlyKeyboardMouse d d') (h' : OnlyKeyboardMouse d' d'') :
    OnlyKeyboardMouse d d'' :=
  ⟨h'.stopping.trans h.stopping, h'.powered.trans h.powered, h'.controllers.trans h.controllers,
    h'.keepalive.trans h.keepalive⟩

theorem only_setKeyboardMouse (slot : KeyboardMouseSlot) :
    OnlyKeyboardMouse d (d.setKeyboardMouse slot) :=
  ⟨rfl, rfl, rfl, rfl⟩

theorem only_retireContext (context : Option Nat) : OnlyKeyboardMouse d (d.retireContext context) := by
  cases context <;> exact ⟨rfl, rfl, rfl, rfl⟩

theorem only_freeContext (context : Option Nat) : OnlyKeyboardMouse d (d.freeContext context) := by
  cases context <;> exact ⟨rfl, rfl, rfl, rfl⟩

theorem only_stopAdmission : OnlyKeyboardMouse d d.stopKeyboardMouseAdmission := by
  unfold Device.stopKeyboardMouseAdmission
  dsimp only
  split
  · exact only_setKeyboardMouse _
  · exact (only_retireContext _).trans (only_setKeyboardMouse _)

theorem keyboardMouse_only {act : KeyboardMouseAct} (h : act.exec d regs choice = some o) :
    OnlyKeyboardMouse d o.shared ∧ o.spawn = [] := by
  cases act <;> simp only [KeyboardMouseAct.exec] at h <;> (repeat' split at h) <;> cases h <;>
    refine ⟨?_, rfl⟩ <;>
    first
      | exact ⟨rfl, rfl, rfl, rfl⟩
      | exact only_stopAdmission
      | exact only_freeContext _
      | exact (only_setKeyboardMouse _).trans only_stopAdmission
      | exact (only_setKeyboardMouse _).trans (only_freeContext _)

-- All of a slot's control but the count of its submissions.
structure SameLifecycle (control control' : SlotControl) : Prop where
  generation : control'.generation = control.generation
  vhf : control'.vhf = control.vhf
  owner : control'.owner = control.owner
  state : control'.state = control.state

theorem SameLifecycle.refl (control : SlotControl) : SameLifecycle control control :=
  ⟨rfl, rfl, rfl, rfl⟩

-- Nothing of the keyboard and mouse, its callbacks' contexts and who is cleaned up.
structure SameKeyboardMouse (d d' : Device) : Prop where
  slot : d'.keyboardMouse = d.keyboardMouse
  contexts : d'.contexts = d.contexts
  cleanupStarted : d'.cleanupStarted = d.cleanupStarted

-- A creation or a destruction is one of a controller.
structure OnlyControllers (d d' : Device) : Prop where
  stopping : d'.stopping = d.stopping
  powered : d'.powered = d.powered
  keepalive : d'.keepalive = d.keepalive
  keyboardMouse : SameKeyboardMouse d d'

theorem create_only {id : ControllerId} {owner : File} {profile : Profile} (act : CreateAct) :
    OnlyControllers d (act.exec d regs choice id owner profile).shared := by
  cases act with
  | release =>
      simp only [CreateAct.exec, Device.effect, Device.releaseStartingSlot]
      split <;> exact ⟨rfl, rfl, rfl, ⟨rfl, rfl, rfl⟩⟩
  | _ =>
      simp only [CreateAct.exec]
      repeat' split
      all_goals exact ⟨rfl, rfl, rfl, ⟨rfl, rfl, rfl⟩⟩

theorem destroy_only {id : ControllerId} {owner : File} (act : DestroyAct) :
    OnlyControllers d (act.exec d regs id owner).shared := by
  cases act <;> simp only [DestroyAct.exec] <;> (repeat' split) <;>
    exact ⟨rfl, rfl, rfl, ⟨rfl, rfl, rfl⟩⟩

-- Neither the lifecycles of the slots nor the device's flags.
structure SameControl (d d' : Device) : Prop where
  stopping : d'.stopping = d.stopping
  powered : d'.powered = d.powered
  lifecycle : ∀ id, SameLifecycle (d.controllers id).control (d'.controllers id).control
  keyboardMouse : SameKeyboardMouse d d'

theorem SameControl.of_eq (hs : d'.stopping = d.stopping) (hp : d'.powered = d.powered)
    (hc : d'.controllers = d.controllers) (hk : SameKeyboardMouse d d') : SameControl d d' :=
  ⟨hs, hp, fun id => by rw [hc]; exact .refl _, hk⟩

theorem SameControl.trans (h : SameControl d d') (h' : SameControl d' d'') : SameControl d d'' where
  stopping := h'.stopping.trans h.stopping
  powered := h'.powered.trans h.powered
  lifecycle id :=
    ⟨(h'.lifecycle id).generation.trans (h.lifecycle id).generation,
      (h'.lifecycle id).vhf.trans (h.lifecycle id).vhf,
      (h'.lifecycle id).owner.trans (h.lifecycle id).owner,
      (h'.lifecycle id).state.trans (h.lifecycle id).state⟩
  keyboardMouse :=
    ⟨h'.keyboardMouse.slot.trans h.keyboardMouse.slot,
      h'.keyboardMouse.contexts.trans h.keyboardMouse.contexts,
      h'.keyboardMouse.cleanupStarted.trans h.keyboardMouse.cleanupStarted⟩

theorem control_setSlot {id : ControllerId} {slot : Slot}
    (h : SameLifecycle (d.controllers id).control slot.control) : SameControl d (d.setSlot id slot) := by
  refine ⟨rfl, rfl, fun i => ?_, ⟨rfl, rfl, rfl⟩⟩
  by_cases hi : i = id
  · subst hi
    simpa using h
  · rw [setSlot_controllers_of_ne hi]
    exact .refl _

theorem control_keepalive (keepalive : Keepalive) : SameControl d { d with keepalive := keepalive } :=
  .of_eq rfl rfl rfl ⟨rfl, rfl, rfl⟩

theorem control_arm (now : UInt64) : SameControl d (d.arm now) := by
  unfold Device.arm
  split
  · exact control_keepalive d.keepalive
  · exact control_keepalive _

theorem control_afterSection (id : ControllerId) (r : StepResult) (now : UInt64) :
    SameControl d (d.afterSection id r now) := by
  have hsection : SameControl d (d.applySection id r) := by
    unfold Device.applySection
    refine control_setSlot ?_
    cases r.submit <;> exact ⟨rfl, rfl, rfl, rfl⟩
  have hstarted : SameControl d (if r.startKeepalive then (d.applySection id r).setRunning true
      else d.applySection id r) := by
    split
    · exact hsection.trans (control_keepalive _)
    · exact hsection
  unfold Device.afterSection
  dsimp only
  split
  · exact hstarted.trans (control_arm now)
  · exact hstarted

theorem control_keepaliveTick (now : UInt64) : SameControl d (d.keepaliveTick now) := by
  have hslots : SameControl d (d.keepaliveSlots now) := by
    refine ⟨rfl, rfl, fun id => ?_, ⟨rfl, rfl, rfl⟩⟩
    simp only [Device.keepaliveSlots, Device.mapSlots]
    split <;> exact ⟨rfl, rfl, rfl, rfl⟩
  unfold Device.keepaliveTick
  dsimp only
  split
  · exact hslots.trans (control_keepalive _)
  · split
    · exact hslots.trans (control_arm now)
    · exact hslots.trans (control_keepalive _)

theorem keepalive_control {act : KeepaliveAct} (h : act.exec threads d regs choice = some o) :
    SameControl d o.shared := by
  cases act with
  | tick =>
      simp only [KeepaliveAct.exec, Option.some.injEq] at h
      rw [← h]
      exact control_keepaliveTick choice.now
  | _ =>
      simp only [KeepaliveAct.exec] at h
      repeat' split at h
      all_goals cases h
      all_goals exact control_keepalive _

theorem target_control (act : TargetAct) : SameControl d (act.exec d regs choice).shared := by
  cases act <;> simp only [TargetAct.exec] <;> (repeat' split) <;>
    exact .of_eq rfl rfl rfl ⟨rfl, rfl, rfl⟩

-- The acts that decide over lifecycles.
def Act.manages : Act → Bool
  | .create _ _ _ _ | .destroy _ _ _ | .power _ | .keyboardMouse _ => true
  | _ => false

-- A D0 exit or a device stop takes the lifecycles over; it has announced itself
-- before.
def Act.takesOver : Act → Bool
  | .power (.stopMark _) | .power .downMark => true
  | _ => false

def Act.announces : Act → Bool
  | .power .stopIntent | .power .downIntent => true
  | _ => false

theorem Act.control_of_not_manages {k : Operation} {a : Act} (ha : a.manages = false)
    (h : a.exec threads d k regs choice = some o) : SameControl d o.shared := by
  cases a with
  | lockLifetime =>
      simp only [Act.exec] at h
      split at h
      · simp at h
      · cases h
        exact .of_eq rfl rfl rfl ⟨rfl, rfl, rfl⟩
  | unlockLifetime | reply status output | submitEnter id handle answers =>
      cases h
      exact .of_eq rfl rfl rfl ⟨rfl, rfl, rfl⟩
  | slot id step =>
      cases h
      exact control_afterSection id _ _
  | submitLeave id handle answers =>
      cases h
      exact control_setSlot ⟨rfl, rfl, rfl, rfl⟩
  | waitForSubmits id =>
      simp only [Act.exec] at h
      split at h
      · cases h
        exact .of_eq rfl rfl rfl ⟨rfl, rfl, rfl⟩
      · simp at h
  | deleteBegin handle =>
      cases h
      exact .of_eq rfl rfl rfl ⟨rfl, rfl, rfl⟩
  | deleteEnd handle =>
      simp only [Act.exec] at h
      split at h
      · simp at h
      · cases h
        exact .of_eq rfl rfl rfl ⟨rfl, rfl, rfl⟩
  | target act =>
      cases h
      exact target_control act
  | keepalive act => exact keepalive_control h
  | create id owner profile act | destroy id owner act | power act | keyboardMouse act =>
      exact absurd ha (by simp [Act.manages])

-- Only the keep-alive's worker is started from within.
theorem spawn_worker {k : Operation} {a : Act} (h : a.exec threads d k regs choice = some o) :
    ∀ t ∈ o.spawn, t = ⟨.keepaliveWorker, .initial, [.keepalive .wait]⟩ := by
  cases a with
  | keepalive act =>
      cases act <;> simp only [Act.exec, KeepaliveAct.exec] at h <;> (repeat' split at h) <;> cases h <;>
        simp [Device.effect]
  | keyboardMouse act =>
      rw [(keyboardMouse_only h).2]
      simp
  | lockLifetime =>
      simp only [Act.exec] at h
      split at h <;> cases h
      simp [Device.effect]
  | waitForSubmits id =>
      simp only [Act.exec] at h
      split at h <;> cases h
      simp [Device.effect]
  | deleteEnd handle =>
      simp only [Act.exec] at h
      split at h <;> cases h
      simp [Device.effect]
  | create id owner profile act =>
      cases h
      cases act <;> simp only [CreateAct.exec] <;> (repeat' split) <;> simp [Device.effect]
  | destroy id owner act =>
      cases h
      cases act <;> simp only [DestroyAct.exec] <;> (repeat' split) <;> simp [Device.effect]
  | target act =>
      cases h
      cases act <;> simp only [TargetAct.exec] <;> (repeat' split) <;> simp [Device.effect]
  | power act =>
      cases h
      cases act <;> simp [PowerAct.exec, Device.effect]
  | _ =>
      cases h
      simp [Device.effect, SlotStep.exec]

-- From outside comes a new thread, or the timer fires.
theorem environment_cases {w w' : World} {stimulus : Stimulus}
    (h : driver.step w (.env stimulus) = some w') :
    (∃ keepalive, w'.shared = { w.shared with keepalive := keepalive } ∧ w'.threads = w.threads) ∨
      ∃ operation, w.shared.mayStart w.threads operation = true ∧ w'.shared = w.shared ∧
        w'.threads = w.threads ++ [operation.start] := by
  obtain ⟨out, hout, rfl⟩ := System.environment_of_step h
  cases stimulus with
  | timerFires =>
      simp only [driver, Stimulus.run] at hout
      split at hout <;> cases hout
      exact .inl ⟨_, rfl, List.append_nil _⟩
  | start operation =>
      simp only [driver, Stimulus.run] at hout
      split at hout <;> cases hout
      rename_i hmay
      exact .inr ⟨operation, hmay, rfl, rfl⟩

-- Whoever is there afterwards was there before, or has just come in.
theorem at_started {threads : List Task} {operation : Operation} {j : Nat} {t : Task}
    (ht : (threads ++ [operation.start])[j]? = some t) :
    threads[j]? = some t ∨ threads.length ≤ j ∧ t = operation.start := by
  by_cases hlt : j < threads.length
  · rw [List.getElem?_append_left hlt] at ht
    exact .inl ht
  · have hnew : threads.length ≤ j := Nat.le_of_not_lt hlt
    rw [List.getElem?_append_right hnew] at ht
    exact .inr ⟨hnew, List.mem_singleton.mp (List.mem_of_getElem? ht)⟩

theorem environment_at {w w' : World} {stimulus : Stimulus} {j : Nat} {t : Task}
    (h : driver.step w (.env stimulus) = some w') (ht : w'.threads[j]? = some t) :
    w.threads[j]? = some t ∨ w.threads.length ≤ j ∧ t = t.kind.start := by
  obtain ⟨_, -, hthreads⟩ | ⟨operation, -, -, hthreads⟩ := environment_cases h
  · rw [hthreads] at ht
    exact .inl ht
  · rw [hthreads] at ht
    obtain hold | ⟨hnew, rfl⟩ := at_started ht
    · exact .inl hold
    · exact .inr ⟨hnew, rfl⟩

-- What a call keeps from its start on, by its own acts and by whatever happens beside it,
-- holds of it at every position of the run.
theorem call_induct {keepalive : Bool} {run : driver.Run (World.initial keepalive)} {j : Nat}
    {k : Operation} (hk : k ≠ .keepaliveWorker) {P : Nat → Task → Prop}
    (hstart : ∀ n, n < run.length → (run.world n).threads.length ≤ j → P (n + 1) k.start)
    (hact : ∀ n choice, run.events[n]? = some (.act j choice) →
      ∀ s : System.ActStep driver (run.world n) j choice (run.world (n + 1)),
        s.thread.kind = k → P n s.thread → P (n + 1) (s.outcome.thread s.thread s.rest))
    (hbeside : ∀ n event t, run.events[n]? = some event → (∀ choice, event ≠ .act j choice) →
      (run.world n).threads[j]? = some t → P n t → P (n + 1) t) :
    ∀ n, n ≤ run.length → ∀ t, (run.world n).threads[j]? = some t → t.kind = k → P n t := by
  refine run.induct ?_ ?_
  · intro t ht
    have hnone : (run.world 0).threads = [] := rfl
    rw [hnone, List.getElem?_nil] at ht
    cases ht
  · intro n event hevent ih t ht hkind
    have hstep := run.step_at hevent
    cases event with
    | act i choice =>
      obtain ⟨s⟩ := System.actStep_of_step hstep
      obtain ⟨rfl, rfl⟩ | ⟨hi, hold⟩ | ⟨-, hnew⟩ := s.cases_after j t ht
      · exact hact n choice hevent s hkind (ih s.thread s.at_index hkind)
      · refine hbeside n _ t hevent (fun choice' hact => hi ?_) hold (ih t hold hkind)
        cases hact
        rfl
      · rw [spawn_worker (k := s.thread.kind) s.exec t hnew] at hkind
        exact absurd hkind.symm hk
    | env stimulus =>
      obtain hold | ⟨hnew, hbegins⟩ := environment_at hstep ht
      · exact hbeside n _ t hevent (fun _ hact => by cases hact) hold (ih t hold hkind)
      · rw [hbegins, hkind]
        exact hstart n (run.lt_length hevent) hnew

end LibVirtualGamepad
