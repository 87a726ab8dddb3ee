import LibVirtualGamepad.Driver.PidClock.Adoption

-- What the coverage of the timer comes to in a run: the timer runs whenever nothing is
-- under way, if and as long as every slot that plays is adopted under cover.
namespace LibVirtualGamepad.PidClock

open Interleaving

-- The device goes on and so do the callbacks of the timer, and the timer is covered
-- where it must run.
structure Kept (w : World) : Prop where
  undisturbed : Undisturbed w.shared.world
  todo : ∀ t ∈ w.threads, ∀ a ∈ t.todo, a ≠ .stop true
  covered : w.shared.timer = true → (∃ id, w.shared.plays id = true) → Covered w

theorem kept_initial (keepalive timer : Bool) : Kept (World.initial keepalive timer) := by
  refine ⟨undisturbed_initial keepalive, List.forall_mem_nil _, ?_⟩
  rintro - ⟨id, hplays⟩
  have hforce : false = true := (Bool.and_eq_true_iff.1 (State.plays_iff.1 hplays).1).2
  cases hforce

namespace Kept

variable {profiles : Profile → Option ProfileDefinition} {w w' : World}

theorem todo_act {i : Nat} {choice : Unit} (h : Kept w)
    (s : System.ActStep (pidClock profiles) w i choice w')
    (hnext : ∀ a ∈ s.outcome.next, a ≠ .stop true) (hspawn : s.outcome.spawn = []) :
    ∀ t ∈ w'.threads, ∀ a ∈ t.todo, a ≠ .stop true := by
  intro t ht a ha
  obtain hnew | ⟨u, hu, hold⟩ | ⟨u, hu, -⟩ := s.todo_after ht ha
  · exact hnext a hnew
  · exact h.todo u hu a hold
  · rw [hspawn] at hu
    cases hu

-- One act of a callback.
theorem act {i : Nat} {choice : Unit} (h : Kept w)
    (s : System.ActStep (pidClock profiles) w i choice w') : Kept w' := by
  have hout : exec w.shared s.act = s.outcome := Option.some.inj s.exec
  have hshared : w'.shared = (exec w.shared s.act).shared := by rw [s.shared_after, hout]
  have hgoes : s.act ≠ .stop true := by
    apply h.todo s.thread s.mem
    rw [s.todo]
    exact List.mem_cons_self
  have hspawn : s.outcome.spawn = [] := by
    rw [← hout]
    cases s.act <;> rfl
  cases hact : s.act with
  | arm =>
      rw [hact] at hshared hout
      refine ⟨by rw [hshared]; exact h.undisturbed, h.todo_act s ?_ hspawn, fun _ _ => .inl ?_⟩
      · rw [← hout]
        exact List.forall_mem_nil _
      · rw [hshared]
        rfl
  | restart =>
      rw [hact] at hshared hout
      refine ⟨by rw [hshared]; exact h.undisturbed, h.todo_act s ?_ hspawn, fun _ _ => .inl ?_⟩
      · rw [← hout]
        exact List.forall_mem_nil _
      · rw [hshared]
        rfl
  | pass =>
      rw [hact] at hshared hout
      refine ⟨?_, h.todo_act s ?_ hspawn, ?_⟩
      · rw [hshared]
        exact h.undisturbed.of_eq State.tick_beside.threads State.tick_beside.stopping
      · intro a ha
        rw [← hout] at ha
        simp only [exec, State.effect, h.undisturbed.stopping] at ha
        split at ha
        · rw [List.mem_singleton.mp ha]
          decide
        · cases ha
      · rintro htimer ⟨id, hplays⟩
        rw [hshared] at htimer hplays
        obtain harmed | hwaiting := h.covered htimer ⟨id, State.plays_of_tick hplays⟩
        · left
          rw [hshared]
          exact harmed
        · obtain ⟨-, hpass⟩ | hwaiting := s.waiting_before hwaiting
          · rw [hact] at hpass
            cases hpass
          · exact .inr hwaiting
  | stop stopping =>
      rw [hact] at hgoes hshared hout
      have hstopping : stopping = false := by
        cases stopping with
        | false => rfl
        | true => exact absurd rfl hgoes
      rw [hstopping] at hout
      refine ⟨by rw [hshared]; exact h.undisturbed, h.todo_act s ?_ hspawn, fun _ _ => .inr ?_⟩
      · intro a ha
        rw [← hout] at ha
        rw [List.mem_singleton.mp ha]
        decide
      -- What is stopped is looked at again.
      · refine s.waiting_next (b := .recheck) ?_ rfl
        rw [← hout]
        exact List.mem_singleton_self _
  | recheck =>
      rw [hact] at hshared hout
      refine ⟨by rw [hshared]; exact h.undisturbed, h.todo_act s ?_ hspawn, ?_⟩
      · intro a ha
        rw [← hout] at ha
        simp only [exec, State.effect] at ha
        split at ha
        · rw [List.mem_singleton.mp ha]
          decide
        · cases ha
      · rintro - hplaying
        rw [hshared] at hplaying
        have hstill : w.shared.stillPlaying = true := State.stillPlaying_iff.2 hplaying
        refine .inr (s.waiting_next (b := .restart) ?_ rfl)
        rw [← hout]
        simp only [exec, State.effect, hstill, if_true, List.mem_singleton]

-- Something from outside, a step of the driver under the condition among it.
theorem env {stimulus : PidStimulus} (h : Kept w)
    (hstep : (pidClock profiles).step w (.env stimulus) = some w')
    (hadopts : AdoptsCovered w (.env stimulus)) : Kept w' := by
  obtain ⟨out, hout, rfl⟩ := System.environment_of_step hstep
  have hwaiting (hcovered : Covered w) (harmed : out.1.armed = w.shared.armed) :
      Covered ⟨out.1, w.threads ++ out.2⟩ := by
    obtain hbefore | hwaiting := hcovered
    · exact .inl (harmed.trans hbefore)
    · exact .inr (hwaiting.append_left out.2)
  cases stimulus with
  | timerFires =>
      simp only [pidClock, environment] at hout
      split at hout <;> cases hout
      refine ⟨h.undisturbed, fun t ht a ha => ?_, fun htimer hplays =>
        hwaiting (h.covered htimer hplays) rfl⟩
      rcases List.mem_append.mp ht with hold | hnew
      · exact h.todo t hold a ha
      · rw [List.mem_singleton.mp hnew] at ha
        rw [List.mem_singleton.mp ha]
        decide
  | driver event =>
      simp only [pidClock, environment, Option.map_eq_some_iff] at hout
      obtain ⟨world, hworld, rfl⟩ := hout
      have hbeside := State.afterAct_beside (s := w.shared.follow profiles world)
        (w.shared.world.actOf event)
      refine ⟨(h.undisturbed.step hworld).of_eq hbeside.threads hbeside.stopping,
        fun t ht a ha => ?_, ?_⟩
      · rcases List.mem_append.mp ht with hold | hnew
        · exact h.todo t hold a ha
        · rw [State.arm_of_afterAct hnew ha]
          decide
      · rintro htimer ⟨id, hplays⟩
        have htimer : w.shared.timer = true := hbeside.timer.symm.trans htimer
        obtain hplays | ⟨t, ht, harm⟩ :=
          State.plays_of_afterAct (s := w.shared.follow profiles world) htimer hplays
        · obtain ⟨hactive, hforce, hneeds⟩ := State.plays_of_follow hplays
          apply hwaiting ?_ hbeside.armed
          obtain hbefore | hadopted := active_step hworld hactive
          · refine h.covered htimer ⟨id, State.plays_iff.2 ⟨?_, hneeds⟩⟩
            unfold State.served State.control
            rw [hbefore, hforce]
            rfl
          · exact hadopts event id rfl hadopted htimer hforce hneeds
        · exact .inr ⟨t, List.mem_append_right _ ht, .arm, harm, rfl⟩

end Kept

theorem Covered.armed {w : World} (h : Covered w) (hidle : Idle w) : w.shared.armed = true := by
  obtain harmed | ⟨t, ht, a, ha, -⟩ := h
  · exact harmed
  · rw [hidle t ht] at ha
    cases ha

section Alone

variable {profiles : Profile → Option ProfileDefinition} {id : ControllerId}

theorem tick_engine {s : State} (h : s.served id = true) :
    (s.tick.pids id).engine = (s.pids id).engine.advance SlotPid.tickMs := by
  unfold State.served State.control at h
  rw [Bool.and_eq_true, beq_iff_eq] at h
  have hsection : (s.sectionOf id).control.state = .active := h.1
  simp only [State.tick, h.2, if_true, SlotPid.tick, hsection, SlotPid.publish_engine]

theorem ticks_engine (k : Nat) {s : State} (h : s.served id = true) :
    ((State.tick^[k] s).pids id).engine =
      (s.pids id).engine.ticks (List.replicate k SlotPid.tickMs) := by
  induction k generalizing s with
  | zero => rfl
  | succ k ih =>
      have hserved : s.tick.served id = true := (State.tick_beside.served id).trans h
      rw [Function.iterate_succ_apply, ih hserved, tick_engine h, List.replicate_succ]
      rfl

-- The armed timer fires again and again, and each time its callback looks at the slots.
theorem exists_ticks (k : Nat) {w : World} (harmed : w.shared.armed = true) :
    ∃ events w', (∀ event ∈ events, ∀ e, event ≠ .env (.driver e)) ∧
      (pidClock profiles).runAll w events = some w' ∧ w'.shared = State.tick^[k] w.shared := by
  induction k generalizing w with
  | zero => exact ⟨[], w, List.forall_mem_nil _, rfl, rfl⟩
  | succ k ih =>
      let fired : World := ⟨w.shared, w.threads ++ [⟨.tick, (), [.pass]⟩]⟩
      have hfires : (pidClock profiles).step w (.env .timerFires) = some fired := by
        simp only [System.step, pidClock, environment, harmed, if_true, Option.map_some, fired]
      obtain ⟨w₁, hpass, htick⟩ : ∃ w₁,
          (pidClock profiles).step fired (.act w.threads.length ()) = some w₁ ∧
            w₁.shared = w.shared.tick := by
        simp only [System.step, fired, pidClock, List.getElem?_concat_length, Option.map_some]
        exact ⟨_, rfl, rfl⟩
      have harmed₁ : w₁.shared.armed = true := by
        rw [htick]
        exact harmed
      obtain ⟨events, w', halone, hrun, hshared⟩ := ih harmed₁
      refine ⟨.env .timerFires :: .act w.threads.length () :: events, w', ?_, ?_, ?_⟩
      · intro event hevent e
        rcases List.mem_cons.mp hevent with rfl | hevent
        · intro heq
          cases heq
        rcases List.mem_cons.mp hevent with rfl | hevent
        · intro heq
          cases heq
        · exact halone event hevent e
      · simp only [System.runAll, hfires, hpass, Option.bind_some, hrun]
      · rw [hshared, htick, Function.iterate_succ_apply]

theorem endsAlone_of_clockRuns {w : World} (hruns : w.shared.ClockRuns)
    (htimer : w.shared.timer = true) : EndsAlone profiles w := by
  intro id i hserved hpaused hallocated hplaying hd hn
  have hneeds : (w.shared.pids id).engine.needsTick = true :=
    PidEngine.needsTick_iff.2 ⟨i, hallocated, hplaying⟩
  have harmed := hruns htimer ⟨id, State.plays_iff.2 ⟨hserved, hneeds⟩⟩
  have hstops : ∃ k, (((w.shared.pids id).engine.block i).ticks
      (List.replicate k SlotPid.tickMs)).playing = false :=
    PidEffect.exists_stopped ⟨hallocated, hplaying⟩ (by decide) (by decide) hd hn
  obtain ⟨k, hk⟩ := hstops
  obtain ⟨events, w', halone, hrun, hshared⟩ := @exists_ticks profiles k w harmed
  refine ⟨events, w', halone, hrun, ?_⟩
  rw [hshared, ticks_engine k hserved, PidEngine.ticks_effect _ hpaused]
  exact hk

end Alone

section Run

variable {profiles : Profile → Option ProfileDefinition} {keepalive timer : Bool}
  (run : (pidClock profiles).Run (World.initial keepalive timer))

-- By induction on the run.
theorem kept_of_run
    (hadopts : ∀ n event, run.events[n]? = some event → AdoptsCovered (run.world n) event) :
    ∀ n, n ≤ run.length → Kept (run.world n) := by
  refine run.induct (kept_initial keepalive timer) fun n event hevent h => ?_
  have hstep := run.step_at hevent
  cases event with
  | act i choice =>
      obtain ⟨s⟩ := System.actStep_of_step hstep
      exact h.act s
  | env stimulus => exact h.env hstep (hadopts n _ hevent)

-- Where the condition fails with nothing under way, the timer is not armed for the slot
-- that has just got active.
theorem stands_of_adoption {w w' : World} {event : Event Unit PidStimulus}
    (hstep : (pidClock profiles).step w event = some w') (h : ¬AdoptsCovered w event)
    (hidle : Idle w) : Idle w' ∧ ¬w'.shared.ClockRuns := by
  unfold AdoptsCovered at h
  push Not at h
  obtain ⟨e, id, rfl, hadopted, htimer, hforce, hneeds, hcovered⟩ := h
  obtain ⟨out, hout, rfl⟩ := System.environment_of_step hstep
  simp only [pidClock, environment, Option.map_eq_some_iff] at hout
  obtain ⟨world, hworld, rfl⟩ := hout
  obtain ⟨hactive, hsame⟩ := adopted_step hworld hadopted
  rw [State.afterAct_adopted hadopted]
  refine ⟨fun t ht => ?_, fun hruns => ?_⟩
  · rw [List.append_nil] at ht
    exact hidle t ht
  · refine hcovered (.inl (hruns htimer ⟨id, ?_⟩))
    unfold State.plays State.served State.follow State.control
    simp [hactive, hsame, hforce, hneeds]

end Run

-- In a run that adopts no playing slot while the timer is uncovered the timer runs
-- whenever it must, and every finite effect ends. Where such a slot is adopted with
-- nothing else under way, the timer stands at once.
theorem pid_clock_runs (profiles : Profile → Option ProfileDefinition) (keepalive timer : Bool)
    (run : (pidClock profiles).Run (World.initial keepalive timer)) :
    ((∀ n event, run.events[n]? = some event → AdoptsCovered (run.world n) event) →
      ∀ n, n ≤ run.length → Idle (run.world n) → (run.world n).shared.ClockRuns ∧
        ((run.world n).shared.timer = true → EndsAlone profiles (run.world n))) ∧
    ∀ n event, run.events[n]? = some event → ¬AdoptsCovered (run.world n) event →
      Idle (run.world n) →
        Idle (run.world (n + 1)) ∧ ¬(run.world (n + 1)).shared.ClockRuns := by
  constructor
  · intro hadopts n hn hidle
    have hruns : (run.world n).shared.ClockRuns := fun htimer hplays =>
      ((kept_of_run run hadopts n hn).covered htimer hplays).armed hidle
    exact ⟨hruns, endsAlone_of_clockRuns hruns⟩
  · intro n event hevent hcondition hidle
    exact stands_of_adoption (run.step_at hevent) hcondition hidle

-- The profiles with force feedback for the generic one.
def withForceFeedback : Profile → Option ProfileDefinition
  | .genericPid => some ⟨.genericPid, true⟩
  | profile => findProfile profile

def hostReport (callback : Callback) (thread : Nat) : List (Event Choice Stimulus) :=
  .env (.start (.callback ⟨0, Nat.zero_lt_succ _⟩ 0 callback)) :: willingly thread 1

def byDriver (events : List (Event Choice Stimulus)) : List (Event Unit PidStimulus) :=
  events.map fun event => .env (.driver event)

-- While its creator is inside VhfStart the host allocates an effect, gives it 100 ms and
-- starts it, and the timer is armed.
def startedInVhfStart : List (Event Unit PidStimulus) :=
  byDriver (.env (.start .d0Entry) :: willingly 0 3 ++
    .env (.start (.request (some 1) (.create ⟨0, .genericPid, 0⟩))) :: willingly 1 12 ++
    hostReport (.setFeature ⟨0x1B, some [0x1B, 1, 0, 0]⟩) 2 ++
    hostReport (.write
      ⟨0x11, some [0x11, 1, 1, 100, 0, 0, 0, 0, 0, 255, 0, 0, 0, 0, 0, 0]⟩) 3 ++
    hostReport (.write ⟨0x17, some [0x17, 1, 1, 1]⟩) 4) ++ [.act 0 ()]

-- The timer's callback stops it and looks again, and finds no active slot either time.
def stoppedInVhfStart : List (Event Unit PidStimulus) :=
  startedInVhfStart ++ [.env .timerFires, .act 1 (), .act 1 (), .act 1 ()]

def adoption : List (Event Unit PidStimulus) := byDriver (willingly 1 2)

-- Everything has returned, in D0, and the effect plays on an active slot.
theorem stopped_before_adoption :
    ∃ w, (pidClock withForceFeedback).runAll (World.initial true true)
        (stoppedInVhfStart ++ adoption) = some w ∧
      Idle w ∧ (∀ t ∈ w.shared.world.threads, t.todo = []) ∧
      w.shared.world.shared.stopping = false ∧ w.shared.world.shared.powered = true ∧
      w.shared.timer = true ∧ w.shared.plays ⟨0, by decide⟩ = true ∧
      w.shared.armed = false ∧ ¬w.shared.ClockRuns := by
  have hrun : ((pidClock withForceFeedback).runAll (World.initial true true)
      (stoppedInVhfStart ++ adoption)).map (fun w =>
        [w.threads.all (·.todo.isEmpty), w.shared.world.threads.all (·.todo.isEmpty),
          !w.shared.world.shared.stopping, w.shared.world.shared.powered, w.shared.timer,
          w.shared.plays ⟨0, by decide⟩, !w.shared.armed]) =
      some (List.replicate 7 true) := by
    decide +kernel
  obtain ⟨w, hw, hall⟩ := Option.map_eq_some_iff.1 hrun
  simp only [List.replicate, List.cons.injEq, List.all_eq_true, List.isEmpty_iff,
    Bool.not_eq_true', and_true] at hall
  obtain ⟨hidle, hdriver, hstopping, hpowered, htimer, hplays, harmed⟩ := hall
  refine ⟨w, hw, hidle, hdriver, hstopping, hpowered, htimer, hplays, harmed, fun hruns => ?_⟩
  rw [hruns htimer ⟨_, hplays⟩] at harmed
  cases harmed

-- Adopted before the timer fires, the slot has its clock and its effect an end.
theorem pid_clock_runs_started :
    ∃ run : (pidClock withForceFeedback).Run (World.initial true true),
      run.events = startedInVhfStart ++ adoption ∧ run.last.shared.plays ⟨0, by decide⟩ = true ∧
        run.last.shared.ClockRuns ∧ EndsAlone withForceFeedback run.last := by
  let run : (pidClock withForceFeedback).Run (World.initial true true) :=
    ⟨startedInVhfStart ++ adoption, by decide +kernel⟩
  have hgoes : ∀ n ≤ run.length, ∀ t ∈ (run.world n).threads, ∀ a ∈ t.todo,
      a ≠ .stop true ∧ a ≠ .stop false := by decide +kernel
  have hidle : ∀ t ∈ run.last.threads, t.todo = [] := by decide +kernel
  have hadopts : ∀ n event, run.events[n]? = some event → AdoptsCovered (run.world n) event := by
    refine fun n event hevent => adoptsCovered_of_no_stop run (fun m other hm hstops => ?_) hevent
    obtain ⟨i, t, stopping, rest, id, -, ht, htodo, -⟩ := hstops
    have hmem : PidAct.stop stopping ∈ t.todo := htodo ▸ List.mem_cons_self
    have hnot := hgoes m (List.getElem?_eq_some_iff.1 hm).1.le t (List.mem_of_getElem? ht) _ hmem
    cases stopping with
    | true => exact hnot.1 rfl
    | false => exact hnot.2 rfl
  obtain ⟨hruns, hends⟩ :=
    (pid_clock_runs withForceFeedback true true run).1 hadopts run.length (Nat.le_refl _) hidle
  exact ⟨run, rfl, by decide +kernel, hruns, hends (by decide +kernel)⟩

end LibVirtualGamepad.PidClock
