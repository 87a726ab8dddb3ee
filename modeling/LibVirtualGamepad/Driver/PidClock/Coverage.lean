import LibVirtualGamepad.Driver.PidClock.Undisturbed
import LibVirtualGamepad.PidFf.Playback

-- The timer runs while it must, as far as nobody adopts a slot that plays behind its
-- back.
namespace LibVirtualGamepad

open Interleaving

namespace PidEngine

variable {engine : PidEngine}

theorem needsTick_iff :
    engine.needsTick = true ↔ ∃ i : Fin pidMaxEffects, (engine.block i).Plays := by
  unfold needsTick
  simp only [List.any_eq_true, Bool.and_eq_true, Vector.mem_toList_iff]
  constructor
  · rintro ⟨effect, hmem, hplays⟩
    obtain ⟨i, hi, rfl⟩ := Vector.mem_iff_getElem.1 hmem
    exact ⟨⟨i, hi⟩, hplays⟩
  · rintro ⟨i, hplays⟩
    exact ⟨engine.block i, Vector.getElem_mem i.isLt, hplays⟩

theorem needsTick_of_advance {elapsedMs : UInt32}
    (h : (engine.advance elapsedMs).needsTick = true) : engine.needsTick = true := by
  cases hpaused : engine.paused with
  | true =>
      unfold advance at h
      rwa [hpaused, if_pos rfl] at h
  | false =>
      obtain ⟨i, hallocated, hplaying⟩ := needsTick_iff.1 h
      rw [engine.advance_effect hpaused] at hallocated hplaying
      rw [PidEffect.advance_allocated] at hallocated
      exact needsTick_iff.2 ⟨i, hallocated, PidEffect.playing_of_advance hplaying⟩

-- A new block does not play.
theorem needsTick_of_createNewEffect {request : PidCreateNewEffectReport}
    (h : (engine.createNewEffect request).2.needsTick = true) : engine.needsTick = true := by
  obtain ⟨-, heq⟩ | ⟨-, -, heq⟩ | ⟨-, i, -, heq⟩ := engine.createNewEffect_cases request
  · rw [heq] at h
    exact h
  · rw [heq] at h
    exact h
  · rw [heq] at h
    obtain ⟨j, hplays⟩ := needsTick_iff.1 h
    by_cases hj : j = i
    · have hfresh : (PidEffect.fresh request.effectType).Plays :=
        engine.update_same i (fun _ => .fresh request.effectType) ▸ hj ▸ hplays
      cases hfresh.2
    · have hother := engine.update_other hj fun _ => .fresh request.effectType
      exact needsTick_iff.2 ⟨j, hother ▸ hplays⟩

end PidEngine

namespace SlotPid

variable {s : Section} {transfer : Transfer} {pid : SlotPid} {data : SlotData}

theorem publish_engine (pid : SlotPid) (controllerId : UInt32) (data : SlotData) :
    (pid.publish controllerId data).1.engine = pid.engine := by
  unfold publish
  dsimp only
  split <;> rfl

-- Effects are started by reports that are accepted.
theorem needsTick_of_write (h : (pid.write s transfer data).2.1.engine.needsTick = true) :
    pid.engine.needsTick = true ∨ (pid.write s transfer data).1.ok = true := by
  unfold write at h ⊢
  dsimp only at h ⊢
  split at h
  · rename_i haccepts
    rw [if_pos haccepts]
    split at h
    · rename_i hok
      rw [if_pos hok]
      exact .inr hok
    · rename_i hrefused
      have hne : (applyPidOutput transfer pid.engine).1 ≠ .success := by
        intro heq
        exact hrefused (by rw [heq]; rfl)
      rw [(applyPidOutput_settled transfer pid.engine).refused hne] at h
      exact .inl h
  · exact .inl h

theorem needsTick_of_setFeature (h : (pid.setFeature s transfer).2.engine.needsTick = true) :
    pid.engine.needsTick = true := by
  unfold setFeature at h
  split at h
  · exact h
  · split at h
    · exact PidEngine.needsTick_of_createNewEffect h
    · exact h

theorem needsTick_of_tick (h : (pid.tick s data).1.engine.needsTick = true) :
    pid.engine.needsTick = true := by
  unfold tick at h
  split at h
  · rw [publish_engine] at h
    exact PidEngine.needsTick_of_advance h
  · exact h

end SlotPid

namespace PidClock

-- Nothing but the engines and the events of the slots.
structure State.Beside (s s' : State) : Prop where
  threads : s'.world.threads = s.world.threads
  stopping : s'.world.shared.stopping = s.world.shared.stopping
  control : ∀ id, s'.control id = s.control id
  forceFeedback : s'.forceFeedback = s.forceFeedback
  timer : s'.timer = s.timer
  armed : s'.armed = s.armed

namespace State

variable {s : State} {id j : ControllerId} {transfer : Transfer}

theorem Beside.refl (s : State) : s.Beside s := ⟨rfl, rfl, fun _ => rfl, rfl, rfl, rfl⟩

theorem Beside.served {s' : State} (h : s.Beside s') (id : ControllerId) :
    s'.served id = s.served id := by
  unfold State.served
  rw [h.control, h.forceFeedback]

theorem setSlot_beside (id : ControllerId) (after : SlotPid × SlotData) :
    s.Beside (s.setSlot id after) := by
  refine ⟨rfl, rfl, fun j => ?_, rfl, rfl, rfl⟩
  unfold State.control State.setSlot
  by_cases hj : j = id
  · rw [hj, setSlot_controllers_self]
  · rw [setSlot_controllers_of_ne hj]

theorem setSlot_pid (id : ControllerId) (after : SlotPid × SlotData) :
    (s.setSlot id after).pids id = after.1 := by
  simp only [State.setSlot, Function.update_self]

theorem setSlot_pid_of_ne (h : j ≠ id) (after : SlotPid × SlotData) :
    (s.setSlot id after).pids j = s.pids j := by
  simp only [State.setSlot, Function.update_of_ne h]

theorem tick_beside : s.Beside s.tick := ⟨rfl, rfl, fun _ => rfl, rfl, rfl, rfl⟩

theorem callback_beside (id : ControllerId) (step : SlotStep) :
    s.Beside (s.callback id step).1 := by
  unfold State.callback
  split
  · split
    · exact setSlot_beside id _
    · exact .refl s
  · split
    · exact setSlot_beside id _
    · exact .refl s
  · exact .refl s

theorem afterAct_beside (act : Option (Choice × Act)) : s.Beside (s.afterAct act).1 := by
  unfold State.afterAct
  split
  · exact callback_beside _ _
  · exact .refl s

theorem plays_iff : s.plays id = true ↔
    s.served id = true ∧ (s.pids id).engine.needsTick = true := by
  unfold State.plays
  rw [Bool.and_eq_true]

theorem stillPlaying_iff : s.stillPlaying = true ↔ ∃ id, s.plays id = true := by
  unfold State.stillPlaying
  rw [List.any_eq_true]
  constructor
  · rintro ⟨id, -, hplays⟩
    exact ⟨id, hplays⟩
  · rintro ⟨id, hplays⟩
    exact ⟨id, List.mem_finRange id, hplays⟩

-- An engine that plays beside its slot's control plays in the slot.
theorem Beside.plays {s' : State} (h : s.Beside s') (hplays : s'.plays j = true)
    (hengine : (s.pids j).engine.needsTick = true) : s.plays j = true :=
  plays_iff.2 ⟨h.served j ▸ (plays_iff.1 hplays).1, hengine⟩

theorem needsTick_of_setSlot {after : SlotPid × SlotData}
    (hengine : after.1.engine.needsTick = true → (s.pids id).engine.needsTick = true)
    (h : ((s.setSlot id after).pids j).engine.needsTick = true) :
    (s.pids j).engine.needsTick = true := by
  by_cases hj : j = id
  · rw [hj, setSlot_pid] at h
    exact hj ▸ hengine h
  · rwa [setSlot_pid_of_ne hj] at h

-- Where an effect was started the timer is going to be armed.
theorem needsTick_of_write (h : ((s.write id transfer).1.pids j).engine.needsTick = true) :
    (s.pids j).engine.needsTick = true ∨
      j = id ∧ (s.timer = true → (s.write id transfer).2 = [⟨.write id, (), [.arm]⟩]) := by
  unfold State.write at h ⊢
  dsimp only at h ⊢
  by_cases hj : j = id
  · rw [hj, setSlot_pid] at h
    obtain hbefore | hok := SlotPid.needsTick_of_write h
    · exact .inl (hj ▸ hbefore)
    · refine .inr ⟨hj, fun htimer => ?_⟩
      rw [hok, h, htimer]
      rfl
  · rw [setSlot_pid_of_ne hj] at h
    exact .inl h

-- An engine has something to play since before, or since a write callback of its slot.
theorem needsTick_of_afterAct {act : Option (Choice × Act)}
    (h : ((s.afterAct act).1.pids j).engine.needsTick = true) :
    (s.pids j).engine.needsTick = true ∨
      (∃ choice transfer, act = some (choice, .slot j (.write transfer))) ∧
        s.forceFeedback j = true ∧
          (s.timer = true → ∃ t ∈ (s.afterAct act).2, PidAct.arm ∈ t.todo) := by
  unfold State.afterAct at h ⊢
  split at h
  · rename_i choice id step
    cases step with
    | write transfer =>
        simp only [State.callback] at h ⊢
        split at h
        · rename_i hpid
          rw [if_pos hpid]
          obtain hbefore | ⟨rfl, harm⟩ := needsTick_of_write h
          · exact .inl hbefore
          · simp only [Bool.and_eq_true] at hpid
            refine .inr ⟨⟨choice, transfer, rfl⟩, hpid.1.1, fun htimer => ?_⟩
            rw [harm htimer]
            exact ⟨_, List.mem_singleton_self _, List.mem_singleton_self _⟩
        · exact .inl h
    | setFeature transfer =>
        simp only [State.callback] at h
        split at h
        · exact .inl (needsTick_of_setSlot SlotPid.needsTick_of_setFeature h)
        · exact .inl h
    | _ => exact .inl h
  · exact .inl h

theorem plays_of_afterAct {act : Option (Choice × Act)} (htimer : s.timer = true)
    (h : (s.afterAct act).1.plays j = true) :
    s.plays j = true ∨ ∃ t ∈ (s.afterAct act).2, PidAct.arm ∈ t.todo := by
  obtain hbefore | ⟨-, -, harm⟩ := needsTick_of_afterAct (plays_iff.1 h).2
  · exact .inl ((afterAct_beside act).plays h hbefore)
  · exact .inr (harm htimer)

-- No callback but a write leaves anything to be done, and that is to arm the timer.
theorem arm_of_afterAct {act : Option (Choice × Act)} {t : Task} {a : PidAct}
    (ht : t ∈ (s.afterAct act).2) (ha : a ∈ t.todo) : a = .arm := by
  unfold State.afterAct at ht
  split at ht
  · unfold State.callback at ht
    split at ht
    · split at ht
      · unfold State.write at ht
        dsimp only at ht
        split at ht
        · rw [List.mem_singleton.mp ht] at ha
          exact List.mem_singleton.mp ha
        · cases ht
      · cases ht
    · split at ht <;> cases ht
    · cases ht
  · cases ht

theorem afterAct_adopted {world : LibVirtualGamepad.World} {event : Event Choice Stimulus}
    (h : world.adopted event = some id) : s.afterAct (world.actOf event) = (s, []) := by
  unfold LibVirtualGamepad.World.adopted at h
  split at h
  · rename_i hact
    rw [hact]
    rfl
  · cases h

-- A slot that was reset plays nothing.
theorem plays_of_follow {profiles : Profile → Option ProfileDefinition}
    {world : LibVirtualGamepad.World} (h : (s.follow profiles world).plays id = true) :
    (world.shared.controllers id).control.state = .active ∧ s.forceFeedback id = true ∧
      (s.pids id).engine.needsTick = true := by
  obtain ⟨hserved, hneeds⟩ := plays_iff.1 h
  unfold State.served at hserved
  rw [Bool.and_eq_true, beq_iff_eq] at hserved
  obtain ⟨hactive, hforce⟩ := hserved
  unfold State.follow at hactive hforce hneeds
  dsimp only at hactive hforce hneeds
  split at hneeds
  · cases hneeds
  · rename_i hsame
    rw [if_neg hsame] at hforce
    exact ⟨hactive, hforce, hneeds⟩

theorem needsTick_of_tick (h : (s.tick.pids id).engine.needsTick = true) :
    (s.pids id).engine.needsTick = true := by
  unfold State.tick at h
  dsimp only at h
  split at h
  · exact SlotPid.needsTick_of_tick h
  · exact h

theorem plays_of_tick (h : s.tick.plays id = true) : s.plays id = true :=
  tick_beside.plays h (needsTick_of_tick (plays_iff.1 h).2)

end State

end PidClock

end LibVirtualGamepad
