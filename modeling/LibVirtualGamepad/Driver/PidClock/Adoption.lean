import LibVirtualGamepad.Driver.PidClock.Coverage

-- An effect that plays before its slot is adopted was started by a write callback inside
-- VhfStart. The callback sees to the timer, so that the adoption finds it covered unless
-- a callback of the timer has stopped it in between.
namespace LibVirtualGamepad.PidClock

open Interleaving

-- An effect plays in a slot that its creator has not handed over yet.
structure State.Awaits (s : State) (id : ControllerId) : Prop where
  starting : (s.control id).state = .starting
  forceFeedback : s.forceFeedback id = true
  needsTick : (s.pids id).engine.needsTick = true

-- A write callback takes its section before its slot is adopted.
def WritesEarly (w : World) (event : Event Unit PidStimulus) : Prop :=
  ∃ e choice id transfer, event = .env (.driver e) ∧
    w.shared.world.actOf e = some (choice, .slot id (.write transfer)) ∧
      (w.shared.control id).state = .starting ∧ w.shared.forceFeedback id = true

-- A callback of the timer stops it while an effect waits for its slot.
def StopsBehind (w : World) (event : Event Unit PidStimulus) : Prop :=
  ∃ i t stopping rest id, event = .act i () ∧ w.threads[i]? = some t ∧
    t.todo = .stop stopping :: rest ∧ w.shared.Awaits id

-- While an effect waits for its slot the timer is armed, or its callback will arm it.
def Tended (w : World) : Prop :=
  w.shared.timer = true → (∃ id, w.shared.Awaits id) →
    w.shared.armed = true ∨ Waiting w.threads fun _ a => a = .arm

section Driver

variable {profiles : Profile → Option ProfileDefinition} {s : State}
  {world : LibVirtualGamepad.World} {event : Event Choice Stimulus} {id : ControllerId}

-- A callback's section leaves the control of every slot alone.
theorem slot_step {choice : Choice} {j : ControllerId} {step : SlotStep}
    (hact : s.world.actOf event = some (choice, .slot j step))
    (hstep : (driverWith profiles).step s.world event = some world) (id : ControllerId) :
    (world.shared.controllers id).control.state = (s.control id).state ∧
      (world.shared.controllers id).control.generation = (s.control id).generation := by
  cases event with
  | env stimulus => cases hact
  | act i choice' =>
      obtain ⟨t⟩ := System.actStep_of_step hstep
      have hexec : t.act.exec s.world.threads s.world.shared t.thread.kind t.thread.regs choice' =
          some t.outcome := t.exec
      simp only [LibVirtualGamepad.World.actOf, t.at_index, t.todo, Option.bind_some,
        List.head?_cons, Option.map_some, Option.some.injEq, Prod.mk.injEq] at hact
      have hmanages : t.act.manages = false := by rw [hact.2]; rfl
      have hlifecycle := (Act.control_of_not_manages hmanages hexec).lifecycle id
      rw [t.shared_after]
      exact ⟨hlifecycle.state, hlifecycle.generation⟩

-- Where an effect waits after a step of the driver it has waited before, or the step is
-- the write that has started it.
theorem awaits_of_driver (hstep : (driverWith profiles).step s.world event = some world)
    (h : ((s.follow profiles world).afterAct (s.world.actOf event)).1.Awaits id) :
    s.Awaits id ∨
      (∃ choice transfer, s.world.actOf event = some (choice, .slot id (.write transfer))) ∧
        (s.control id).state = .starting ∧ s.forceFeedback id = true ∧
          (s.timer = true → ∃ t ∈ ((s.follow profiles world).afterAct (s.world.actOf event)).2,
            PidAct.arm ∈ t.todo) := by
  have hbeside := State.afterAct_beside (s := s.follow profiles world) (s.world.actOf event)
  have hstarting : (world.shared.controllers id).control.state = .starting :=
    (congrArg SlotControl.state (hbeside.control id)).symm.trans h.starting
  have hforce : (s.follow profiles world).forceFeedback id = true := by
    rw [← hbeside.forceFeedback]
    exact h.forceFeedback
  obtain hbefore | ⟨⟨choice, transfer, hact⟩, -, harm⟩ := State.needsTick_of_afterAct h.needsTick
  · unfold State.follow at hforce hbefore
    dsimp only at hforce hbefore
    split at hbefore
    -- A slot that was reset has nothing to play.
    · cases hbefore
    · rename_i hsame
      rw [if_neg hsame] at hforce
      obtain hwas | hreset := starting_step hstep hstarting
      · exact .inl ⟨hwas, hforce, hbefore⟩
      · exact absurd hreset hsame
  · obtain ⟨hstate, hgeneration⟩ := slot_step hact hstep id
    unfold State.follow at hforce
    dsimp only at hforce
    rw [if_neg (not_not_intro hgeneration)] at hforce
    exact .inr ⟨⟨choice, transfer, hact⟩, hstate.symm.trans hstarting, hforce, harm⟩

theorem starting_of_adopted (h : s.world.adopted event = some id) :
    (s.control id).state = .starting := by
  unfold LibVirtualGamepad.World.adopted at h
  split at h
  · split at h <;> cases h
    rename_i hadopts
    simp only [Device.adopts, Bool.and_eq_true, beq_iff_eq] at hadopts
    exact hadopts.2
  · cases h

end Driver

section Steps

variable {profiles : Profile → Option ProfileDefinition} {w w' : World}
  {event : Event Unit PidStimulus}

theorem awaits_of_exec {s : State} {a : PidAct} {id : ControllerId}
    (h : (exec s a).shared.Awaits id) : s.Awaits id := by
  cases a with
  | pass => exact ⟨h.starting, h.forceFeedback, State.needsTick_of_tick h.needsTick⟩
  | arm | stop stopping | recheck | restart => exact ⟨h.starting, h.forceFeedback, h.needsTick⟩

theorem timer_step (hstep : (pidClock profiles).step w event = some w') :
    w'.shared.timer = w.shared.timer := by
  cases event with
  | act i choice =>
      obtain ⟨s⟩ := System.actStep_of_step hstep
      have hout : exec w.shared s.act = s.outcome := Option.some.inj s.exec
      rw [s.shared_after, ← hout]
      cases s.act <;> rfl
  | env stimulus =>
      obtain ⟨out, hout, rfl⟩ := System.environment_of_step hstep
      cases stimulus with
      | timerFires =>
          simp only [pidClock, environment] at hout
          split at hout <;> cases hout
          rfl
      | driver event =>
          simp only [pidClock, environment, Option.map_eq_some_iff] at hout
          obtain ⟨world, -, rfl⟩ := hout
          exact (State.afterAct_beside (s := w.shared.follow profiles world) _).timer

-- Without an early write nothing comes to wait.
theorem awaits_step (hstep : (pidClock profiles).step w event = some w')
    (hwrites : ¬WritesEarly w event) {id : ControllerId} (h : w'.shared.Awaits id) :
    w.shared.Awaits id := by
  cases event with
  | act i choice =>
      obtain ⟨s⟩ := System.actStep_of_step hstep
      have hout : exec w.shared s.act = s.outcome := Option.some.inj s.exec
      rw [s.shared_after, ← hout] at h
      exact awaits_of_exec h
  | env stimulus =>
      obtain ⟨out, hout, rfl⟩ := System.environment_of_step hstep
      cases stimulus with
      | timerFires =>
          simp only [pidClock, environment] at hout
          split at hout <;> cases hout
          exact h
      | driver event =>
          simp only [pidClock, environment, Option.map_eq_some_iff] at hout
          obtain ⟨world, hworld, rfl⟩ := hout
          obtain hbefore | ⟨⟨choice, transfer, hact⟩, hstarting, hforce, -⟩ :=
            awaits_of_driver hworld h
          · exact hbefore
          · exact absurd ⟨event, choice, id, transfer, rfl, hact, hstarting, hforce⟩ hwrites

theorem Tended.act {i : Nat} {choice : Unit} (h : Tended w)
    (s : System.ActStep (pidClock profiles) w i choice w') (hstops : ¬StopsBehind w (.act i ())) :
    Tended w' := by
  have hout : exec w.shared s.act = s.outcome := Option.some.inj s.exec
  rintro htimer ⟨id, hawaits⟩
  have hshared : w'.shared = (exec w.shared s.act).shared := by rw [s.shared_after, hout]
  rw [hshared] at htimer hawaits
  have hbefore : w.shared.Awaits id := awaits_of_exec hawaits
  have htimer : w.shared.timer = true := by
    rw [← htimer]
    cases s.act <;> rfl
  cases hact : s.act with
  | arm | restart =>
      left
      rw [hshared, hact]
      rfl
  | stop stopping =>
      refine absurd ⟨i, s.thread, stopping, s.rest, id, rfl, s.at_index, ?_, hbefore⟩ hstops
      rw [s.todo, hact]
  | pass | recheck =>
      obtain harmed | ⟨t, ht, a, ha, rfl⟩ := h htimer ⟨id, hbefore⟩
      · left
        rw [hshared, hact]
        exact harmed
      · right
        obtain hself | ⟨u, hu, -, hstill⟩ := s.todo_before ht ha
        · rw [hact] at hself
          cases hself
        · exact ⟨u, hu, .arm, hstill, rfl⟩

theorem Tended.step (h : Tended w) (hstep : (pidClock profiles).step w event = some w')
    (hstops : ¬StopsBehind w event) : Tended w' := by
  cases event with
  | act i choice =>
      obtain ⟨s⟩ := System.actStep_of_step hstep
      exact h.act s hstops
  | env stimulus =>
      have htimer := timer_step hstep
      obtain ⟨out, hout, rfl⟩ := System.environment_of_step hstep
      rintro hthere ⟨id, hawaits⟩
      rw [htimer] at hthere
      have hkept (hbefore : w.shared.Awaits id) (harmed : out.1.armed = w.shared.armed) :
          out.1.armed = true ∨ Waiting (w.threads ++ out.2) fun _ a => a = .arm := by
        obtain hwas | hwaiting := h hthere ⟨id, hbefore⟩
        · exact .inl (harmed.trans hwas)
        · exact .inr (hwaiting.append_left out.2)
      cases stimulus with
      | timerFires =>
          simp only [pidClock, environment] at hout
          split at hout <;> cases hout
          exact hkept hawaits rfl
      | driver event =>
          simp only [pidClock, environment, Option.map_eq_some_iff] at hout
          obtain ⟨world, hworld, rfl⟩ := hout
          obtain hbefore | ⟨-, -, -, harm⟩ := awaits_of_driver hworld hawaits
          · exact hkept hbefore (State.afterAct_beside (s := w.shared.follow profiles world) _).armed
          · obtain ⟨t, ht, harm⟩ := harm hthere
            exact .inr ⟨t, List.mem_append_right _ ht, .arm, harm, rfl⟩

theorem Tended.adoptsCovered (h : Tended w) : AdoptsCovered w event := by
  rintro e id - hadopted htimer hforce hneeds
  obtain harmed | ⟨t, ht, a, ha, rfl⟩ :=
    h htimer ⟨id, starting_of_adopted hadopted, hforce, hneeds⟩
  · exact .inl harmed
  · exact .inr ⟨t, ht, .arm, ha, rfl⟩

end Steps

section Run

variable {profiles : Profile → Option ProfileDefinition} {keepalive timer : Bool}
  (run : (pidClock profiles).Run (World.initial keepalive timer))

theorem awaits_initial (id : ControllerId) : ¬(World.initial keepalive timer).shared.Awaits id := by
  rintro ⟨-, hforce, -⟩
  cases hforce

-- A run keeps to the condition as long as no callback of the timer stops it between a
-- write into a slot that is being created and the slot's adoption.
theorem adoptsCovered_of_no_stop
    (hstops : ∀ n event, run.events[n]? = some event → ¬StopsBehind (run.world n) event)
    {n : Nat} {event : Event Unit PidStimulus} (hevent : run.events[n]? = some event) :
    AdoptsCovered (run.world n) event := by
  have htended : ∀ n, n ≤ run.length → Tended (run.world n) := by
    refine run.induct (fun _ ⟨id, hawaits⟩ => absurd hawaits (awaits_initial id)) fun n event hn h => ?_
    exact h.step (run.step_at hn) (hstops n event hn)
  exact (htended n (List.getElem?_eq_some_iff.1 hevent).1.le).adoptsCovered

-- And as long as no write callback takes its section while its slot is being created.
theorem adoptsCovered_of_no_write
    (hwrites : ∀ n event, run.events[n]? = some event → ¬WritesEarly (run.world n) event)
    {n : Nat} {event : Event Unit PidStimulus} (hevent : run.events[n]? = some event) :
    AdoptsCovered (run.world n) event := by
  have hnone : ∀ n, n ≤ run.length → ∀ id, ¬(run.world n).shared.Awaits id := by
    refine run.induct awaits_initial fun n event hn h id hawaits => ?_
    exact h id (awaits_step (run.step_at hn) (hwrites n event hn) hawaits)
  refine adoptsCovered_of_no_stop run (fun n event hn hstops => ?_) hevent
  obtain ⟨-, -, -, -, id, -, -, -, hawaits⟩ := hstops
  exact hnone n (List.getElem?_eq_some_iff.1 hn).1.le id hawaits

end Run

end LibVirtualGamepad.PidClock
