import LibVirtualGamepad.Driver.NativePump.Wakeups
import LibVirtualGamepad.Driver.Progress.Deadlock

-- The pump in every world that the driver comes to.
namespace LibVirtualGamepad

open Interleaving

theorem PlaceOk.childrenAt {d : Device} {quiet : ControllerId → Handle → Prop} {p : Place} {φ : Phase}
    (h : PlaceOk d quiet p φ) : ∃ live calls, ChildrenAt d.children p live calls ∧ calls ≤ 1 ∧
      ∀ handle, d.vhfAt p = some handle → live = some handle ∧ calls = 0 := by
  have hstands {s : Standing} (hs : Stands d p s) (hcalls : s.calls ≤ 1)
      (hvhf : ∀ handle, s.vhf = some handle → s.live = some handle ∧ s.calls = 0) :
      ∃ live calls, ChildrenAt d.children p live calls ∧ calls ≤ 1 ∧
        ∀ handle, d.vhfAt p = some handle → live = some handle ∧ calls = 0 :=
    ⟨s.live, s.calls, hs.children, hcalls, fun handle hhandle => hvhf handle (hs.vhf.symm.trans hhandle)⟩
  have hretired (h : Retired d p) : ∃ live calls, ChildrenAt d.children p live calls ∧ calls ≤ 1 ∧
      ∀ handle, d.vhfAt p = some handle → live = some handle ∧ calls = 0 := by
    obtain ⟨state, -, hs⟩ := h
    exact hstands hs (Nat.zero_le 1) fun handle hhandle => by cases hhandle
  cases φ with
  | settled =>
    obtain hidle | ⟨handle, hs⟩ := h
    · exact hretired hidle
    · exact hstands hs (Nat.zero_le 1) fun _ hhandle => ⟨hhandle, rfl⟩
  | retired => exact hretired h
  | busy owner stage =>
    obtain ⟨-, hs, -⟩ := h
    refine hstands hs ?_ fun handle hhandle => ?_
    · cases stage <;> first | exact Nat.zero_le 1 | exact Nat.le_refl 1
    · cases stage <;> first | exact ⟨hhandle, rfl⟩ | cases hhandle

-- A child is deleted once at most, and not before it was taken off its place.
theorem Disciplined.childrenAt {w : World} (h : Disciplined w) (p : Place) :
    ∃ live calls, ChildrenAt w.shared.children p live calls ∧ calls ≤ 1 ∧
      ∀ handle, w.shared.vhfAt p = some handle → live = some handle ∧ calls = 0 := by
  obtain ⟨holder, hlocked⟩ := h
  exact (hlocked.shared.places p).childrenAt

structure Fresh (w : World) : Prop where
  governed : Governed w
  coherent : Coherent w.shared
  awake : Awake w

theorem Fresh.step {w w' : World} {event : Interleaving.Event Choice Stimulus} (h : Fresh w)
    (hstep : driver.step w event = some w') : Fresh w' := by
  have hgoverned := h.governed.step hstep
  cases event with
  | act i choice =>
    obtain ⟨s⟩ := System.actStep_of_step hstep
    have hcoherent := h.coherent.act h.governed.disciplined h.governed.pump h.governed.contexts s
    exact ⟨hgoverned, hcoherent,
      h.awake.act h.governed.disciplined h.governed.pump h.coherent hcoherent s⟩
  | env stimulus => exact ⟨hgoverned, h.coherent.env hstep, h.awake.env hstep⟩

theorem Reaches.fresh {keepalive : Bool} {w : World}
    (h : driver.Reaches (World.initial keepalive) w) : Fresh w :=
  System.Reaches.invariant h (fun _ _ _ hw hstep => hw.step hstep)
    ⟨Reaches.governed (.refl _), .initial keepalive, .initial keepalive⟩

-- What the pump keeps to, whoever runs it and whatever comes in between.
structure PumpsOnce (w : World) : Prop where
  one : looping w.threads ≤ 1
  -- VhfReadReportSubmit is called for the published child and returns from it, and its
  -- deletion has not begun in between.
  inside : ∀ t ∈ w.threads, ∀ a ∈ t.todo, a.submitting = true → ∃ (handle : Handle) (child : Child),
    a.submitHandle = some handle ∧ w.shared.keyboardMouse.vhf = some handle ∧
      w.shared.children[handle]? = some child ∧ child.place = .keyboardMouse ∧ child.deleteCalls = 0
  deleted : ∀ (handle : Handle) (child : Child), w.shared.children[handle]? = some child →
    child.place = .keyboardMouse → child.deleteCalls ≤ 1 ∧ child.deleteReturns ≤ child.deleteCalls
  -- Nobody runs on a context that is freed.
  freed : ∀ (context : Nat) (c : CallbackContext), w.shared.contexts[context]? = some c →
    c.freed = true → ∀ t ∈ w.threads, ∀ a ∈ t.todo, a.activation ≠ some context
  -- While a report could be handed on and no loop runs, somebody is about to start one for
  -- the activation, or to stop it.
  woken : w.shared.pumpAdmitted none = true → w.shared.keyboardMouse.core.credit = true →
    w.shared.keyboardMouse.core.queue ≠ [] → w.shared.keyboardMouse.pumpActive = false →
      ∃ t ∈ w.threads, ∃ a ∈ t.todo, a.rouses w.shared ∨ a.stops w.shared

-- When all is at rest nothing is left that the pump could hand on, and of the children only
-- the published one is alive.
structure PumpRests (w : World) : Prop where
  nothing_owed : w.shared.pumpAdmitted none = true → w.shared.keyboardMouse.core.credit = true →
    w.shared.keyboardMouse.core.queue = []
  deleted : ∀ (handle : Handle) (child : Child), w.shared.children[handle]? = some child →
    child.place = .keyboardMouse → w.shared.keyboardMouse.vhf ≠ some handle →
      child.deleteCalls = 1 ∧ child.deleteReturns = 1

section World

variable {w w' : World} {i : Nat} {choice : Choice}

theorem Calling.holds {context : Nat} {todo : List Act} (h : Calling context todo) {a : Act}
    (ha : a ∈ todo) : a = .keyboardMouse (.readyEnter context) ∨ ∃ b ∈ todo, b.holds context = true := by
  cases h with
  | done => cases ha
  | entering => exact .inl (List.mem_singleton.1 ha)
  | checking | granting | leaving => exact .inr ⟨_, List.mem_cons_self, by simp [Act.holds]⟩
  | looping act _ _ =>
    exact .inr ⟨_, List.mem_cons_of_mem _ List.mem_cons_self, by simp [Act.holds]⟩

theorem Fresh.pumpsOnce (h : Fresh w) : PumpsOnce w where
  one := by
    rw [h.governed.pump.counted.one]
    split <;> omega
  inside t ht a ha hsubmitting := by
    have hcounted := h.governed.pump.counted
    obtain ⟨handle, hhandle⟩ := submitHandle_of_submitting hsubmitting
    have hvhf := hcounted.handle t ht a ha handle hhandle
    obtain ⟨live, calls, hchildren, -, hlive⟩ := h.governed.disciplined.childrenAt .keyboardMouse
    obtain ⟨rfl, rfl⟩ := hlive handle hvhf
    obtain ⟨child, hchild, hplace, hcalls, -⟩ := hchildren.live_at handle rfl
    exact ⟨handle, child, hhandle, hvhf, hchild, hplace, hcalls⟩
  deleted handle child hchild hplace := by
    obtain ⟨live, calls, hchildren, hle, -⟩ := h.governed.disciplined.childrenAt .keyboardMouse
    by_cases hlive : live = some handle
    · obtain ⟨child', hchild', -, hcalls, hreturns⟩ := hchildren.live_at handle hlive
      obtain rfl : child = child' := Option.some.inj (hchild.symm.trans hchild')
      omega
    · obtain ⟨hcalls, hreturns⟩ := hchildren.others handle child hchild hplace hlive
      omega
  freed context c hc hfreed t ht a ha hactivation := by
    obtain ⟨hzero, hgone⟩ := h.governed.contexts.freed context c hc hfreed
    obtain ⟨handle, child, hkind, hchild, hcontext, hreturns⟩ :=
      h.governed.contexts.caller ht ha hactivation
    have hshaped := h.governed.contexts.shaped t ht
    simp only [Shaped, hkind] at hshaped
    obtain rfl | ⟨b, hb, hholds⟩ := hshaped.holds ha
    · have hpos := hgone handle child hchild hcontext
      have hnever := hreturns ha
      omega
    · have hpos := pending_pos (p := fun _ => Act.holds context) ht hb hholds
      have hcount := h.governed.contexts.counted context c hc
      omega
  woken hadmitted hcredit hqueue hidle := by
    obtain ⟨hvhf, hopen, -⟩ := pumpAdmitted_published hadmitted
    exact h.awake.woken ⟨hopen, hvhf, hcredit, hqueue, hidle⟩

theorem Fresh.pumpRests (h : Fresh w) (hrest : Quiescent w) : PumpRests w where
  nothing_owed hadmitted hcredit := by
    by_contra hqueue
    -- Whoever was on the way to hand the report on would not have returned.
    obtain ⟨t, ht, a, ha, howed⟩ := h.pumpsOnce.woken hadmitted hcredit hqueue hrest.pump.1
    obtain ⟨-, htodo, -⟩ := hrest.returned t ht (List.ne_nil_of_mem ha)
    rw [htodo, List.mem_singleton] at ha
    subst ha
    obtain howed | howed := howed <;> exact howed
  deleted handle child hchild hplace hvhf := by
    obtain ⟨state, -, hs⟩ | ⟨handle', hs⟩ := hrest.settled .keyboardMouse
    · exact hs.children.others handle child hchild hplace (by simp [Standing.idle])
    · refine hs.children.others handle child hchild hplace fun heq => hvhf ?_
      have hpublished : w.shared.keyboardMouse.vhf = some handle' := hs.vhf
      exact hpublished.trans heq

theorem refused_of_retired {d : Device} {context : Nat} (h : d.contextRetired context = true) :
    d.pumpAdmitted (some context) = false := by
  simp [Device.pumpAdmitted, Device.callbackIsCurrent, h]

-- A callback that its activation's end has overtaken changes nothing of the endpoint, and
-- nothing of an activation that has come since.
theorem Fresh.retired (h : Fresh w) (s : System.ActStep driver w i choice w') {handle : Handle}
    {context : Nat} (hkind : s.thread.kind = .keyboardMouseReady handle context)
    (hretired : w.shared.contextRetired context = true) :
    w'.shared.keyboardMouse.core = w.shared.keyboardMouse.core ∧
      (w.shared.keyboardMouse.callbackContext ≠ some context →
        w'.shared.keyboardMouse = w.shared.keyboardMouse) := by
  have hshaped := h.governed.contexts.shaped s.thread s.mem
  simp only [Shaped, hkind] at hshaped
  have hactivation := hshaped.activation s.act (act_mem s)
  obtain ⟨act, hact⟩ := keyboardMouse_of_isKeyboardMouse (isKeyboardMouse_of_activation hactivation)
  have hexec := keyboardMouse_exec s hact
  have hrefused := refused_of_retired hretired
  have hcurrent (hloop : act.loopContext = some context) :
      w.shared.keyboardMouse.callbackContext = some context :=
    h.governed.pump.counted.current s.thread s.mem _ (act_mem s) context (by rw [hact]; exact hloop)
  rw [hact] at hactivation
  rw [s.shared_after]
  cases act with
  | readyEnter c | readyExit c =>
    rw [← Option.some.inj hexec]
    exact ⟨rfl, fun _ => rfl⟩
  | readyCheck c =>
    simp only [KeyboardMouseAct.exec] at hexec
    split at hexec <;> rw [← Option.some.inj hexec] <;> exact ⟨rfl, fun _ => rfl⟩
  | readyGrant c =>
    obtain rfl := Option.some.inj hactivation
    simp only [KeyboardMouseAct.exec, hrefused, Bool.false_and, Bool.false_eq_true, if_false] at hexec
    rw [← Option.some.inj hexec]
    exact ⟨rfl, fun _ => rfl⟩
  | pumpEnter c =>
    obtain rfl : c = some context := hactivation
    simp only [KeyboardMouseAct.exec, hrefused, Bool.not_false, Bool.true_or, if_true] at hexec
    rw [← Option.some.inj hexec]
    exact ⟨rfl, fun _ => rfl⟩
  | pumpTake c =>
    obtain rfl : c = some context := hactivation
    simp only [KeyboardMouseAct.exec, hrefused, Bool.false_eq_true, if_false] at hexec
    rw [← Option.some.inj hexec]
    exact ⟨rfl, fun hne => absurd (hcurrent rfl) hne⟩
  | submitEnter handle' c =>
    rw [← Option.some.inj hexec]
    exact ⟨rfl, fun _ => rfl⟩
  | submitLeave handle c =>
    obtain rfl : c = some context := hactivation
    simp only [KeyboardMouseAct.exec, Option.any_some, hretired, if_true] at hexec
    rw [← Option.some.inj hexec]
    exact ⟨rfl, fun hne => absurd (hcurrent rfl) hne⟩
  | _ => cases hactivation

-- One loop at a time, no submission beside or behind the deletion of its child, no context
-- freed under a callback, nothing granted by a callback of the past, and no wakeup lost.
theorem native_pump {keepalive : Bool} (h : driver.Reaches (World.initial keepalive) w) :
    PumpsOnce w ∧ (Quiescent w → PumpRests w) ∧
      ∀ i choice w' t handle context, driver.step w (.act i choice) = some w' →
        w.threads[i]? = some t → t.kind = .keyboardMouseReady handle context →
          w.shared.contextRetired context = true →
            w'.shared.keyboardMouse.core = w.shared.keyboardMouse.core ∧
              (w.shared.keyboardMouse.callbackContext ≠ some context →
                w'.shared.keyboardMouse = w.shared.keyboardMouse) := by
  have hfresh := Reaches.fresh h
  refine ⟨hfresh.pumpsOnce, hfresh.pumpRests, ?_⟩
  intro i choice w' t handle context hstep ht hkind hretired
  obtain ⟨s⟩ := System.actStep_of_step hstep
  obtain rfl : s.thread = t := Option.some.inj (s.at_index.symm.trans ht)
  exact hfresh.retired s hkind hretired

-- The source is open and ready, and a button's report is on its way.
def buttonSubmitted : List (Interleaving.Event Choice Stimulus) :=
  .env (.start .d0Entry) :: willingly 0 3 ++
    .env (.start (.request (some 1) (.keyboardMouse .openSource))) :: willingly 1 16 ++
    .env (.start (.keyboardMouseReady 0 0)) :: willingly 2 6 ++
    .env (.start (.request (some 1) (.keyboardMouse
      (.submit (.button ⟨⟨12, KeyboardMouse.abiVersion, 0⟩, 1, 1, 0⟩))))) :: willingly 3 7

theorem native_pump_button : ∃ run : driver.Run (World.initial true),
    insideVhf run.last.threads = 1 ∧ PumpsOnce run.last := by
  let run : driver.Run (World.initial true) := ⟨buttonSubmitted, by decide +kernel⟩
  exact ⟨run, by decide +kernel, (native_pump (run.reaches _ (Nat.le_refl _))).1⟩

end World

end LibVirtualGamepad
