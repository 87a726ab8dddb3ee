import LibVirtualGamepad.Driver.NativePump.Contexts
import LibVirtualGamepad.Driver.Progress.Attended
import LibVirtualGamepad.Interleaving.Progress

-- What an act may have to wait for, and where the acts stand that are waited for.
namespace LibVirtualGamepad

open Interleaving

inductive Act.Waits (threads : List Task) (d : Device) : Act → Prop where
  | gate (held : d.gateHeld = true) : Act.Waits threads d .lockLifetime
  | submits (id : ControllerId) (inFlight : (d.controllers id).control.submitsInFlight ≠ 0) :
    Act.Waits threads d (.waitForSubmits id)
  | callbacks (handle : Handle)
    (called : (unfinished threads (Operation.isCallbackOf handle) || entering threads handle) = true) :
    Act.Waits threads d (.deleteEnd handle)
  | worker (thread : Nat) (kept : d.keepalive.thread = some thread)
    (running : finished threads thread = false) : Act.Waits threads d (.keepalive .join)
  | events (stop : d.keepalive.stop = false) (signalled : d.keepalive.signalled = false) :
    Act.Waits threads d (.keepalive .wait)
  | pump (busy : d.keyboardMouse.pumpActive = true ∨ d.keyboardMouse.submitOwners ≠ 0) :
    Act.Waits threads d (.keyboardMouse .drain)
  | entries (context : Nat) (c : CallbackContext) (known : d.contexts[context]? = some c)
    (entered : c.activeEntries ≠ 0) : Act.Waits threads d (.keyboardMouse (.drainEntries context))

section Waits

variable {threads : List Task} {d : Device} {k : Operation} {regs : Registers} {choice : Choice}
  {a : Act} {o : Effect}

theorem keepalive_waits {act : KeepaliveAct} (hok : choice.status.ok = true)
    (h : act.exec threads d regs choice = none) : (Act.keepalive act).Waits threads d := by
  cases act with
  | join =>
    simp only [KeepaliveAct.exec] at h
    split at h
    · cases h
    · rename_i thread hthread
      split at h
      · cases h
      · rename_i hrunning
        exact .worker thread hthread (by simpa using hrunning)
  | wait =>
    simp only [KeepaliveAct.exec, hok, Bool.not_true, Bool.or_false] at h
    split at h
    · cases h
    split at h
    · cases h
    · rename_i hstop hsignalled
      exact .events (by simpa using hstop) (by simpa using hsignalled)
  | _ =>
    simp only [KeepaliveAct.exec] at h
    repeat' split at h
    all_goals cases h

theorem keyboardMouse_waits {act : KeyboardMouseAct} (h : act.exec d regs choice = none) :
    (Act.keyboardMouse act).Waits threads d := by
  cases act with
  | drain =>
    simp only [KeyboardMouseAct.exec] at h
    split at h
    · rename_i hbusy
      exact .pump (by simpa using hbusy)
    · cases h
  | drainEntries context =>
    simp only [KeyboardMouseAct.exec] at h
    split at h
    · rename_i c hknown
      split at h
      · cases h
      · rename_i hentered
        exact .entries context c hknown hentered
    · cases h
  | _ =>
    simp only [KeyboardMouseAct.exec] at h
    repeat' split at h
    all_goals cases h

-- An act that cannot be done although all goes well outside waits for something here.
theorem waits_of_exec (hok : choice.status.ok = true)
    (h : a.exec threads d k regs choice = none) : a.Waits threads d := by
  cases a with
  | lockLifetime =>
    simp only [Act.exec] at h
    split at h
    · rename_i hheld
      exact .gate hheld
    · cases h
  | waitForSubmits id =>
    simp only [Act.exec] at h
    split at h
    · cases h
    · rename_i hflight
      exact .submits id hflight
  | deleteEnd handle =>
    simp only [Act.exec] at h
    split at h
    · rename_i hcalled
      exact .callbacks handle hcalled
    · cases h
  | keepalive act => exact keepalive_waits hok h
  | keyboardMouse act => exact keyboardMouse_waits h
  | _ => cases h

end Waits

-- The sections and submissions that are all a callback of VHF does.
def Act.sections : Act → Bool
  | .slot _ step => !step.isInput
  | .submitEnter _ _ _ | .submitLeave _ _ _ => true
  | _ => false

-- What may stand in front of a submission on its way: none of it waits but the join of
-- the old worker.
def Act.clears : Act → Bool
  | .slot _ _ | .submitEnter _ _ _ | .submitLeave _ _ _ => true
  | .keepalive .join | .keepalive .publishStart | .keepalive .resetStop | .keepalive .armFirst
  | .keepalive .createWorker | .keepalive .startFailed | .keepalive .cancel => true
  | _ => false

def Act.submits (a : Act) : Bool := a.submission.isSome

-- What announces a stop, which the same thread makes once it has the gate.
def Act.intends : Act → Bool
  | .power .stopIntent | .power .downIntent | .keyboardMouse (.cleanupIntent _) => true
  | _ => false

-- Neither submissions nor announcements.
def Act.tame (a : Act) : Bool := !a.submits && !a.intends

theorem Act.tame_iff {a : Act} : a.tame = true ↔ a.submits = false ∧ a.intends = false := by
  simp [Act.tame]

section Next

variable {threads : List Task} {d : Device} {k : Operation} {regs : Registers} {choice : Choice}
  {a : Act} {o : Effect}

-- What a section leads to.
theorem slot_next {id : ControllerId} {step : SlotStep} :
    ∀ b ∈ (step.exec d regs choice id).next, (step.isInput = true ∧ b ∈ startKeepalive) ∨
      b.submits = true ∨ ∃ next : SlotStep, next.isInput = false ∧ b = .slot id next := by
  intro b hb
  simp only [SlotStep.exec, Device.effect, List.mem_append, List.mem_map] at hb
  obtain (hstart | hsubmit) | ⟨next, hnext, rfl⟩ := hb
  · left
    split at hstart
    · rename_i hstarts
      cases hinput : step.isInput with
      | true => exact ⟨rfl, hstart⟩
      | false =>
        rw [(descends_run hinput).calm] at hstarts
        cases hstarts
    · cases hstart
  · right; left
    split at hsubmit
    · exact isSome_submission id _ b hsubmit
    · cases hsubmit
  · exact .inr (.inr ⟨next, isInput_of_rank hnext, rfl⟩)

theorem clears_of_submits (h : a.submits = true) : a.clears = true := by
  cases a <;> first | rfl | cases h

theorem sections_of_submits (h : a.submits = true) : a.sections = true := by
  cases a <;> first | rfl | cases h

theorem slot_clears {id : ControllerId} {step : SlotStep} :
    ∀ b ∈ (step.exec d regs choice id).next, b.clears = true := by
  intro b hb
  have hclears : ∀ b ∈ startKeepalive, b.clears = true := by decide
  obtain ⟨-, hstart⟩ | hsubmits | ⟨next, -, rfl⟩ := slot_next b hb
  · exact hclears b hstart
  · exact clears_of_submits hsubmits
  · rfl

theorem clears_next (ha : a.clears = true) (h : a.exec threads d k regs choice = some o) :
    ∀ b ∈ o.next, b.clears = true := by
  cases a with
  | slot id step =>
    cases h
    exact slot_clears
  | submitEnter id handle answers | submitLeave id handle answers =>
    cases h
    simp [Device.effect, Act.clears]
  | keepalive act =>
    cases act <;> first
      | cases ha
        done
      | simp only [Act.exec, KeepaliveAct.exec] at h
        repeat' split at h
        all_goals cases h
        all_goals simp [Device.effect, Act.clears]
  | _ => cases ha

theorem create_tame {id : ControllerId} {owner : File} {profile : Profile} (act : CreateAct) :
    ∀ b ∈ (act.exec d regs choice id owner profile).next, b.tame = true := by
  cases act <;> simp only [CreateAct.exec] <;> (repeat' split) <;>
    simp [Device.effect, Act.tame, Act.submits, Act.submission, Act.intends, targetOpen]

theorem destroy_tame {id : ControllerId} {owner : File} (act : DestroyAct) :
    ∀ b ∈ (act.exec d regs id owner).next, b.tame = true := by
  cases act <;> simp only [DestroyAct.exec] <;> (repeat' split) <;>
    simp [Device.effect, Act.tame, Act.submits, Act.submission, Act.intends, deleteAfterSubmits]

theorem deleteCollected_tame (handles : ControllerId → Option Handle)
    {after : ControllerId → List Act} (h : ∀ id, ∀ b ∈ after id, b.tame = true) :
    ∀ b ∈ deleteCollected handles after, b.tame = true := by
  intro b hb
  simp only [deleteCollected, List.mem_flatMap] at hb
  obtain ⟨id, -, hb⟩ := hb
  split at hb
  · obtain hdelete | hafter := List.mem_append.1 hb
    · simp only [deleteAfterSubmits, List.mem_cons, List.not_mem_nil, or_false] at hdelete
      obtain rfl | rfl | rfl := hdelete <;> rfl
    · exact h id b hafter
  · cases hb

theorem power_tame (act : PowerAct) : ∀ b ∈ (act.exec d regs).next, b.tame = true := by
  have hstop : ∀ b ∈ stopKeepalive, b.tame = true := by decide
  cases act with
  | stopCollect forgetTarget =>
    intro b hb
    obtain hdelete | hworker := List.mem_append.1 hb
    · exact deleteCollected_tame _ (by simp [Act.tame, Act.submits, Act.submission, Act.intends]) b hdelete
    · exact hstop b hworker
  | downMark =>
    intro b hb
    simp only [PowerAct.exec, Device.effect, List.mem_append] at hb
    obtain (((hkm | hdetach) | hworker) | hdelete) | hfinish := hb
    · simp only [deleteStoppedKeyboardMouse, List.mem_cons, List.not_mem_nil, or_false] at hkm
      obtain rfl | rfl := hkm <;> rfl
    · rw [List.mem_singleton.1 hdetach]
      rfl
    · exact hstop b hworker
    · exact deleteCollected_tame _ (fun _ => List.forall_mem_nil _) b hdelete
    · rw [List.mem_singleton.1 hfinish]
      rfl
  | _ => simp [PowerAct.exec, Device.effect, deleteStoppedKeyboardMouse, targetOpen, Act.tame, Act.submits,
      Act.submission, Act.intends]

theorem keyboardMouse_tame {act : KeyboardMouseAct} (h : act.exec d regs choice = some o) :
    ∀ b ∈ o.next, b.tame = true := by
  cases act with
  | authorize owner request =>
    simp only [KeyboardMouseAct.exec] at h
    split at h <;> cases h
    · cases request <;> simp [Device.effect, KeyboardMouseRequest.program, Act.tame, Act.submits, Act.submission, Act.intends]
    · exact List.forall_mem_nil _
  | detach retain =>
    simp only [KeyboardMouseAct.exec] at h
    split at h <;> cases h
    · cases d.keyboardMouse.vhf <;> cases d.keyboardMouse.callbackContext <;>
        simp [Device.effect, Act.tame, Act.submits, Act.submission, Act.intends]
    · simp [Device.effect, Act.tame, Act.submits, Act.submission, Act.intends]
  | cleanupStop owner =>
    simp only [KeyboardMouseAct.exec] at h
    split at h <;> cases h
    · simp only [Device.effect]
      split <;> simp [deleteStoppedKeyboardMouse, Act.tame, Act.submits, Act.submission, Act.intends]
    · exact List.forall_mem_nil _
  | pumpTake context =>
    simp only [KeyboardMouseAct.exec] at h
    split at h <;> cases h
    · cases d.keyboardMouse.vhf <;> simp [Device.effect, Act.tame, Act.submits, Act.submission, Act.intends]
    · exact List.forall_mem_nil _
  | _ =>
    simp only [KeyboardMouseAct.exec] at h
    repeat' split at h
    all_goals cases h
    all_goals simp [Device.effect, deleteStoppedKeyboardMouse, targetOpen, Act.tame, Act.submits, Act.submission, Act.intends]

-- A submission comes from a section, from itself or from the worker's tick.
theorem next_tame (hclears : a.clears = false) (htick : a ≠ .keepalive .tick)
    (h : a.exec threads d k regs choice = some o) : ∀ b ∈ o.next, b.tame = true := by
  cases a with
  | slot id step | submitEnter id handle answers | submitLeave id handle answers => cases hclears
  | keepalive act =>
    cases act with
    | tick => exact absurd rfl htick
    | _ =>
      simp only [Act.exec, KeepaliveAct.exec] at h
      repeat' split at h
      all_goals cases h
      all_goals simp [Device.effect, Act.tame, Act.submits, Act.submission, Act.intends]
  | create id owner profile act =>
    cases h
    exact create_tame act
  | destroy id owner act =>
    cases h
    exact destroy_tame act
  | power act =>
    cases h
    exact power_tame act
  | keyboardMouse act => exact keyboardMouse_tame h
  | target act =>
    cases h
    cases act <;> simp only [TargetAct.exec] <;> (repeat' split) <;>
      simp [Device.effect, Act.tame, Act.submits, Act.submission, Act.intends]
  | lockLifetime | waitForSubmits id | deleteEnd handle =>
    simp only [Act.exec] at h
    split at h <;> cases h
    exact List.forall_mem_nil _
  | unlockLifetime | reply status output | deleteBegin handle =>
    cases h
    exact List.forall_mem_nil _

-- After a tick the worker waits again, or ends.
theorem tick_next (h : (Act.keepalive .tick).exec threads d k regs choice = some o) :
    ∃ submissions rest, o.next = submissions ++ rest ∧ (∀ b ∈ submissions, b.submits = true) ∧
      ∀ b ∈ rest, b.tame = true := by
  cases h
  refine ⟨_, _, rfl, fun b hb => ?_, ?_⟩
  · obtain ⟨id, -, hb⟩ := List.mem_flatMap.1 hb
    split at hb
    · exact isSome_submission id false b hb
    · cases hb
  · split <;> simp [Act.tame, Act.submits, Act.submission, Act.intends]

theorem exposed_next (h : a.exec threads d k regs choice = some o) :
    Exposed Act.clears Act.submits o.next := by
  have hnone (acts : List Act) (htame : ∀ b ∈ acts, b.tame = true) : ∀ b ∈ acts, b.submits = false :=
    fun b hb => (Act.tame_iff.1 (htame b hb)).1
  cases hclears : a.clears with
  | true => exact exposed_of_clears (clears_next hclears h)
  | false =>
    by_cases htick : a = .keepalive .tick
    · rw [htick] at h
      obtain ⟨submissions, rest, hnext, hsubmits, htame⟩ := tick_next h
      rw [hnext]
      exact (exposed_of_clears fun b hb => clears_of_submits (hsubmits b hb)).append
        (exposed_of_none (hnone rest htame)) (.inr (hnone rest htame))
    · exact exposed_of_none (hnone o.next (next_tame hclears htick h))

-- Only an operation announces a stop.
theorem intends_next (h : a.exec threads d k regs choice = some o) :
    ∀ b ∈ o.next, b.intends = false := by
  have hclears' (b : Act) (hb : b.clears = true) : b.intends = false := by
    cases b <;> first | rfl | cases hb
  intro b hb
  cases hclears : a.clears with
  | true => exact hclears' b (clears_next hclears h b hb)
  | false =>
    by_cases htick : a = .keepalive .tick
    · rw [htick] at h
      obtain ⟨submissions, rest, hnext, hsubmits, htame⟩ := tick_next h
      rw [hnext] at hb
      obtain hb | hb := List.mem_append.1 hb
      · exact hclears' b (clears_of_submits (hsubmits b hb))
      · exact (Act.tame_iff.1 (htame b hb)).2
    · exact (Act.tame_iff.1 (next_tame hclears htick h b hb)).2

end Next

end LibVirtualGamepad
