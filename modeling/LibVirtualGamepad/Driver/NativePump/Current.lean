import LibVirtualGamepad.Driver.NativePump.Contexts
import LibVirtualGamepad.KeyboardMouse.Delivery

-- The slot in itself: what an activation starts from, and that while it is open its
-- callbacks' context is the current one.
namespace LibVirtualGamepad

open Interleaving

namespace KeyboardMouse.Endpoint

-- Credit that reports wait for can be used.
def Fed (endpoint : Endpoint) : Prop :=
  endpoint.credit = true → endpoint.queue ≠ [] → endpoint.state = .active ∨ endpoint.state = .closing

theorem fed_of_no_credit {endpoint : Endpoint} (h : endpoint.credit = false) : endpoint.Fed := by
  intro hcredit
  rw [h] at hcredit
  simp at hcredit

theorem fed_openBy {endpoint : Endpoint} (h : endpoint.Fed) (owner : OwnerToken) (generation : UInt32) :
    (endpoint.openBy owner generation).2.Fed := by
  rcases openBy_cases endpoint owner generation with ⟨-, hsame⟩ | ⟨-, hopen⟩
  · rw [hsame]
    exact h
  · rw [hopen]
    exact fed_of_no_credit rfl

theorem fed_submit {endpoint : Endpoint} (h : endpoint.Fed) (owner : OwnerToken) (request : Request) :
    (endpoint.submit owner request).2.Fed := by
  rcases submit_settles endpoint owner request with ⟨-, hsame⟩ | ⟨-, haccepted⟩
  · rw [hsame]
    exact h
  · have hactive := (admission_of_accepted (by rw [haccepted])).1
    rw [haccepted]
    exact fun _ _ => .inl (by simpa using hactive)

theorem fed_close {endpoint : Endpoint} (h : endpoint.Fed) (owner : OwnerToken) :
    (endpoint.close owner).2.Fed := by
  rcases close_cases endpoint owner with ⟨-, hsame⟩ | ⟨-, hclose⟩
  · rw [hsame]
    exact h
  · rw [hclose]
    exact fun _ _ => .inr rfl

theorem fed_readyForReport {endpoint : Endpoint} (h : endpoint.Fed) : endpoint.readyForReport.Fed := by
  rcases readyForReport_cases endpoint with ⟨-, -, hsame⟩ | ⟨-, -, hdrained⟩ | ⟨hopen, hcredit⟩
  · rw [hsame]
    exact h
  · rw [hdrained]
    exact fed_of_no_credit rfl
  · rw [hcredit]
    rcases hopen with hactive | ⟨hclosing, -⟩
    · exact fun _ _ => .inl hactive
    · exact fun _ _ => .inr hclosing

theorem fed_submissionFailed {endpoint : Endpoint} (h : endpoint.Fed) : endpoint.submissionFailed.Fed := by
  unfold submissionFailed
  split
  · exact h
  · exact fed_of_no_credit rfl

theorem submissionFailed_queue {endpoint : Endpoint} (h : endpoint.queue = []) :
    endpoint.submissionFailed.queue = [] := by
  unfold submissionFailed
  split
  · exact h
  · rfl

theorem readyForReport_queue (endpoint : Endpoint) : endpoint.readyForReport.queue = endpoint.queue := by
  rcases readyForReport_cases endpoint with ⟨-, -, h⟩ | ⟨-, -, h⟩ | ⟨-, h⟩ <;> rw [h]

end KeyboardMouse.Endpoint

open KeyboardMouse (Endpoint)

namespace KeyboardMouseSlot

-- Nothing is kept of an activation that is over but who had it.
def vacated (slot : KeyboardMouseSlot) : KeyboardMouseSlot :=
  { zero with generation := slot.generation, owner := slot.owner, state := slot.state }

theorem vacated_generation {slot : KeyboardMouseSlot} (h : slot = slot.vacated) (generation : UInt64) :
    { slot with generation := generation } = { slot with generation := generation }.vacated := by
  rw [h]
  rfl

def isOpen (slot : KeyboardMouseSlot) : Prop := slot.state = .starting ∨ slot.state = .active

def isVacant (slot : KeyboardMouseSlot) : Prop := slot.state = .empty ∨ slot.state = .lost

end KeyboardMouseSlot

structure Coherent (d : Device) : Prop where
  vacant : d.keyboardMouse.isVacant → d.keyboardMouse = d.keyboardMouse.vacated
  starting : d.keyboardMouse.state = .starting → d.keyboardMouse.core.queue = []
  fed : d.keyboardMouse.core.Fed
  running : d.keyboardMouse.isOpen → d.keyboardMouse.rundownStopping = false
  current : ∀ c : Nat, d.keyboardMouse.callbackContext = some c → ∃ x, d.contexts[c]? = some x ∧
    (x.retired = false → x.generation = d.keyboardMouse.generation) ∧
      (d.keyboardMouse.isOpen → x.retired = false)

namespace Coherent

variable {d d' : Device} {regs : Registers} {choice : Choice} {o : Effect}

-- The callbacks of an open activation speak for it.
theorem callbackIsCurrent (h : Coherent d) (hopen : d.keyboardMouse.isOpen) {c : Nat}
    (hc : d.keyboardMouse.callbackContext = some c) : d.callbackIsCurrent c = true := by
  obtain ⟨x, hx, hgeneration, hretired⟩ := h.current c hc
  have hlive := hretired hopen
  simp [Device.callbackIsCurrent, Device.contextRetired, hc, hx, hgeneration hlive, hlive]

-- An act that leaves the activation what it is.
theorem keeps (h : Coherent d) (hsame : SameActivation d d')
    (hvacant : d.keyboardMouse.isVacant → d'.keyboardMouse = d.keyboardMouse)
    (hstarting : d.keyboardMouse.state = .starting → d'.keyboardMouse.core.queue = [])
    (hfed : d'.keyboardMouse.core.Fed) : Coherent d' where
  vacant hv := by
    have hv' : d.keyboardMouse.isVacant := by
      rw [KeyboardMouseSlot.isVacant, hsame.state] at hv
      exact hv
    rw [hvacant hv']
    exact h.vacant hv'
  starting hs := hstarting (hsame.state.symm.trans hs)
  fed := hfed
  running ho := by
    rw [KeyboardMouseSlot.isOpen, hsame.state] at ho
    exact hsame.rundownStopping.trans (h.running ho)
  current c hc := by
    rw [hsame.callbackContext] at hc
    obtain ⟨x, hx, hgeneration, hretired⟩ := h.current c hc
    obtain ⟨x', hx', hidentity⟩ := Contexts.identity_after hsame hx
    simp only [CallbackContext.identity, Prod.mk.injEq] at hidentity
    refine ⟨x', hx', fun hr => ?_, fun ho => ?_⟩
    · rw [hsame.generation, hidentity.1]
      exact hgeneration (hidentity.2.1.symm.trans hr)
    · rw [KeyboardMouseSlot.isOpen, hsame.state] at ho
      exact hidentity.2.1.trans (hretired ho)

theorem of_slot (h : Coherent d) (hslot : d'.keyboardMouse = d.keyboardMouse)
    (hcontexts : d'.contexts = d.contexts) : Coherent d' := by
  refine h.keeps (.of_eq hslot hcontexts) (fun _ => hslot) (fun hs => ?_) ?_
  · rw [hslot]
    exact h.starting hs
  · rw [hslot]
    exact h.fed

-- The slot after a reset.
theorem of_vacated (hslot : d.keyboardMouse = d.keyboardMouse.vacated) : Coherent d where
  vacant _ := hslot
  starting _ := by
    rw [hslot]
    rfl
  fed := by
    rw [hslot]
    exact Endpoint.fed_of_no_credit rfl
  running _ := by
    rw [hslot]
    rfl
  current c hc := by
    rw [hslot] at hc
    simp [KeyboardMouseSlot.vacated, KeyboardMouseSlot.zero] at hc

theorem stopped (h : Coherent d) : Coherent d.stopKeyboardMouseAdmission := by
  unfold Device.stopKeyboardMouseAdmission
  dsimp only
  split
  · rename_i hempty
    exact of_vacated (KeyboardMouseSlot.vacated_generation (h.vacant (.inl hempty)) _)
  · refine ⟨fun hv => ?_, fun hs => ?_, h.fed, fun ho => ?_, fun c hc => ?_⟩
    · rcases hv with hv | hv <;> simp [Device.setKeyboardMouse] at hv
    · simp [Device.setKeyboardMouse] at hs
    · rcases ho with ho | ho <;> simp [Device.setKeyboardMouse] at ho
    · have hbefore : d.keyboardMouse.callbackContext = some c := hc
      obtain ⟨x, hx, -⟩ := h.current c hbefore
      refine ⟨{ x with retired := true }, ?_, by simp, fun ho => ?_⟩
      · simp [Device.setKeyboardMouse, Device.retireContext, hbefore, hx]
      · rcases ho with ho | ho <;> simp [Device.setKeyboardMouse] at ho

theorem not_vacant (hopen : d.keyboardMouse.isOpen) : ¬ d.keyboardMouse.isVacant := by
  rintro (hv | hv) <;> rcases hopen with ho | ho <;> rw [hv] at ho <;> simp at ho

theorem pumping_not_vacant (h : Coherent d) (hactive : d.keyboardMouse.pumpActive = true) :
    ¬ d.keyboardMouse.isVacant := by
  intro hv
  rw [h.vacant hv] at hactive
  simp [KeyboardMouseSlot.vacated, KeyboardMouseSlot.zero] at hactive

-- A take changes nothing but where it finds a report for an open activation.
theorem take_cases (d : Device) (context : Option Nat) :
    ((if d.pumpAdmitted context then d.keyboardMouse.core.takeReport else (none, d.keyboardMouse.core)) =
      (none, d.keyboardMouse.core)) ∨
      (d.pumpAdmitted context = true ∧ ∃ report rest, d.keyboardMouse.core.queue = report :: rest ∧
        d.keyboardMouse.core.credit = true ∧
        (if d.pumpAdmitted context then d.keyboardMouse.core.takeReport
          else (none, d.keyboardMouse.core)) = (some report, { d.keyboardMouse.core with
            retained := report, queue := rest, credit := false })) := by
  cases hadmitted : d.pumpAdmitted context with
  | false => exact .inl rfl
  | true =>
      rcases KeyboardMouse.takeReport_cases d.keyboardMouse.core with h | ⟨report, rest, hqueue, hcredit, -, h⟩
      · exact .inl h
      · exact .inr ⟨rfl, report, rest, hqueue, hcredit, h⟩

theorem pumpTake (h : Coherent d) (hactive : d.keyboardMouse.pumpActive = true) {context : Option Nat}
    (hexec : (KeyboardMouseAct.pumpTake context).exec d regs choice = some o) : Coherent o.shared := by
  have hsame := @keyboardMouse_sameActivation d regs choice o (.pumpTake context) rfl hexec
  have hno := h.pumping_not_vacant hactive
  simp only [KeyboardMouseAct.exec] at hexec
  rcases take_cases d context with hnone | ⟨-, report, rest, hqueue, -, htake⟩
  · rw [hnone] at hexec
    obtain rfl := Option.some.inj hexec
    exact h.keeps hsame (fun hv => (hno hv).elim) h.starting h.fed
  · rw [htake] at hexec
    obtain rfl := Option.some.inj hexec
    refine h.keeps hsame (fun hv => (hno hv).elim) (fun hs => ?_) (Endpoint.fed_of_no_credit rfl)
    rw [h.starting hs] at hqueue
    simp at hqueue

theorem submitLeave (h : Coherent d) (hactive : d.keyboardMouse.pumpActive = true) {handle : Handle}
    {context : Option Nat}
    (hexec : (KeyboardMouseAct.submitLeave handle context).exec d regs choice = some o) :
    Coherent o.shared := by
  have hsame := @keyboardMouse_sameActivation d regs choice o (.submitLeave handle context) rfl hexec
  have hno := h.pumping_not_vacant hactive
  simp only [KeyboardMouseAct.exec] at hexec
  split at hexec
  · obtain rfl := Option.some.inj hexec
    exact h.keeps hsame (fun hv => (hno hv).elim) h.starting h.fed
  · split at hexec <;> obtain rfl := Option.some.inj hexec
    · exact h.keeps hsame (fun hv => (hno hv).elim) h.starting h.fed
    · exact h.keeps hsame (fun hv => (hno hv).elim)
        (fun hs => Endpoint.submissionFailed_queue (h.starting hs)) (Endpoint.fed_submissionFailed h.fed)

theorem submit (h : Coherent d) {owner : File} {request : KeyboardMouse.Request}
    (hexec : (KeyboardMouseAct.submit owner request).exec d regs choice = some o) :
    Coherent o.shared := by
  have hsame := @keyboardMouse_sameActivation d regs choice o (.submit owner request) rfl hexec
  simp only [KeyboardMouseAct.exec] at hexec
  split at hexec
  · obtain rfl := Option.some.inj hexec
    exact h
  · split at hexec
    · obtain rfl := Option.some.inj hexec
      exact h
    · split at hexec <;> obtain rfl := Option.some.inj hexec
      · exact h
      · rename_i hactive
        simp only [Bool.or_eq_true, bne_iff_ne, ne_eq, not_or, Decidable.not_not] at hactive
        refine h.keeps hsame (fun hv => (not_vacant (.inr hactive.2) hv).elim) (fun hs => ?_)
          (Endpoint.fed_submit h.fed _ _)
        rw [hs] at hactive
        simp at hactive

theorem close (h : Coherent d) {owner : File}
    (hexec : (KeyboardMouseAct.close owner).exec d regs choice = some o) : Coherent o.shared := by
  simp only [KeyboardMouseAct.exec] at hexec
  split at hexec
  · obtain rfl := Option.some.inj hexec
    exact h
  · split at hexec
    · obtain rfl := Option.some.inj hexec
      exact h
    · split at hexec
      · obtain rfl := Option.some.inj hexec
        exact h
      · rename_i hactive
        simp only [Bool.or_eq_true, bne_iff_ne, ne_eq, not_or, Decidable.not_not] at hactive
        split at hexec <;> obtain rfl := Option.some.inj hexec
        · exact h.stopped
        · refine h.keeps ⟨rfl, rfl, rfl, rfl, rfl, rfl, fun _ => rfl⟩
            (fun hv => (not_vacant (.inr hactive.2) hv).elim) (fun hs => ?_) (Endpoint.fed_close h.fed _)
          rw [hs] at hactive
          simp at hactive

theorem readyGrant (h : Coherent d) {context : Nat}
    (hexec : (KeyboardMouseAct.readyGrant context).exec d regs choice = some o) : Coherent o.shared := by
  have hsame := @keyboardMouse_sameActivation d regs choice o (.readyGrant context) rfl hexec
  simp only [KeyboardMouseAct.exec] at hexec
  split at hexec <;> obtain rfl := Option.some.inj hexec
  · rename_i hadmitted
    simp only [Bool.and_eq_true] at hadmitted
    have hopen := (pumpAdmitted_published hadmitted.1).2.1
    exact h.keeps hsame (fun hv => (not_vacant hopen hv).elim)
      (fun hs => (Endpoint.readyForReport_queue _).trans (h.starting hs)) (Endpoint.fed_readyForReport h.fed)
  · exact h

theorem pumpEnter (h : Coherent d) {context : Option Nat}
    (hexec : (KeyboardMouseAct.pumpEnter context).exec d regs choice = some o) : Coherent o.shared := by
  have hsame := @keyboardMouse_sameActivation d regs choice o (.pumpEnter context) rfl hexec
  simp only [KeyboardMouseAct.exec] at hexec
  split at hexec <;> obtain rfl := Option.some.inj hexec
  · exact h
  · rename_i hfree
    simp only [Bool.or_eq_true, Bool.not_eq_true', not_or, Bool.not_eq_false] at hfree
    have hopen := (pumpAdmitted_published hfree.1).2.1
    exact h.keeps hsame (fun hv => (not_vacant hopen hv).elim) h.starting h.fed

theorem openBegin (h : Coherent d) {owner : File} {generation : UInt64} {childPresent : Bool}
    (hexec : (KeyboardMouseAct.openBegin owner generation childPresent).exec d regs choice = some o) :
    Coherent o.shared := by
  simp only [KeyboardMouseAct.exec] at hexec
  split at hexec
  · obtain rfl := Option.some.inj hexec
    exact h
  · split at hexec
    · obtain rfl := Option.some.inj hexec
      exact h
    · rename_i havailable
      have hvacant : d.keyboardMouse.isVacant := by
        simp only [Bool.or_eq_true, Bool.not_eq_true', not_or, Bool.not_eq_false,
          KeyboardMouseSlot.available, Bool.and_eq_true, beq_iff_eq] at havailable
        rcases havailable.2 with hempty | ⟨hlost, -⟩
        · exact .inl hempty
        · exact .inr hlost
      have hqueue : (d.keyboardMouse.core.openBy (some owner)
          KeyboardMouse.primaryAbsoluteGeneration).2.queue = [] := by
        rw [h.vacant hvacant]
        rfl
      have hbegun : Coherent (d.beginKeyboardMouse owner (d.keyboardMouse.core.openBy (some owner)
          KeyboardMouse.primaryAbsoluteGeneration).2) := by
        refine ⟨fun hv => ?_, fun _ => hqueue, Endpoint.fed_openBy h.fed _ _, fun _ => rfl, fun c hc => ?_⟩
        · exact (not_vacant (d := d.beginKeyboardMouse owner _) (.inl rfl) hv).elim
        · simp [Device.beginKeyboardMouse, Device.setKeyboardMouse] at hc
      split at hexec <;> obtain rfl := Option.some.inj hexec <;> exact hbegun

theorem publish (h : Coherent d) {owner : File} {c : Nat} {handle : Handle}
    (hstarting : d.keyboardMouse.state = .starting)
    (hcontext : ∃ x, d.contexts[c]? = some x ∧ x.retired = false ∧ x.generation = d.keyboardMouse.generation)
    (hexec : (KeyboardMouseAct.publish owner c handle).exec d regs choice = some o) :
    Coherent o.shared := by
  have hpublished : Coherent (d.setKeyboardMouse
      { d.keyboardMouse with callbackContext := some c, vhf := some handle }) := by
    refine ⟨fun hv => (not_vacant (.inl hstarting) hv).elim, h.starting, h.fed,
      fun _ => h.running (.inl hstarting), fun c' hc => ?_⟩
    obtain rfl := Option.some.inj hc
    obtain ⟨x, hx, hretired, hgeneration⟩ := hcontext
    exact ⟨x, hx, fun _ => hgeneration, fun _ => hretired⟩
  simp only [KeyboardMouseAct.exec] at hexec
  split at hexec <;> obtain rfl := Option.some.inj hexec
  · exact hpublished
  · exact hpublished.stopped

theorem adopt (h : Coherent d) {owner : File} {c : Nat}
    (hexec : (KeyboardMouseAct.adopt owner c).exec d regs choice = some o) : Coherent o.shared := by
  simp only [KeyboardMouseAct.exec] at hexec
  split at hexec <;> obtain rfl := Option.some.inj hexec
  · rename_i hadopted
    simp only [Bool.and_eq_true, beq_iff_eq] at hadopted
    have hopen : d.keyboardMouse.isOpen := .inl hadopted.1.2
    refine ⟨fun hv => ?_, fun hs => ?_, h.fed, fun _ => h.running hopen, fun c' hc => ?_⟩
    · rcases hv with hv | hv <;> simp [Device.effect, Device.setKeyboardMouse] at hv
    · simp [Device.effect, Device.setKeyboardMouse] at hs
    · obtain ⟨x, hx, hgeneration, hretired⟩ := h.current c' hc
      exact ⟨x, hx, hgeneration, fun _ => hretired hopen⟩
  · exact h.stopped

theorem detach (h : Coherent d) {retain : Bool}
    (hexec : (KeyboardMouseAct.detach retain).exec d regs choice = some o) : Coherent o.shared := by
  simp only [KeyboardMouseAct.exec] at hexec
  split at hexec <;> obtain rfl := Option.some.inj hexec
  · rename_i hstopping
    refine ⟨fun hv => ?_, fun hs => ?_, Endpoint.fed_submissionFailed h.fed, fun ho => ?_, fun c hc => ?_⟩
    · have hv' : d.keyboardMouse.isVacant := hv
      rcases hv' with hv' | hv' <;> rw [hstopping] at hv' <;> simp at hv'
    · have hs' : d.keyboardMouse.state = .starting := hs
      rw [hstopping] at hs'
      simp at hs'
    · exact h.running ho
    · exact h.current c hc
  · exact h

theorem release (h : Coherent d) {lostOwner : Option File} {context : Option Nat}
    (hexec : (KeyboardMouseAct.release lostOwner context).exec d regs choice = some o) :
    Coherent o.shared := by
  obtain rfl := Option.some.inj hexec
  have hfree : ∀ d' : Device, Coherent d' → Coherent (d'.freeContext context) := by
    intro d' h'
    cases context with
    | none => exact h'
    | some c =>
        refine ⟨h'.vacant, h'.starting, h'.fed, h'.running, fun c' hc => ?_⟩
        obtain ⟨x, hx, hgeneration, hretired⟩ := h'.current c' hc
        refine ⟨_, context_modify hx c _, ?_⟩
        split <;> exact ⟨hgeneration, hretired⟩
  refine hfree _ ?_
  split
  · refine of_vacated ?_
    simp only [Device.setKeyboardMouse, KeyboardMouseSlot.released]
    repeat' split
    all_goals rfl
  · exact h

theorem keyboardMouse (h : Coherent d) {act : KeyboardMouseAct}
    (hexec : act.exec d regs choice = some o)
    (hpump : act.pumping = true → d.keyboardMouse.pumpActive = true)
    (hpublish : ∀ owner c handle, act = .publish owner c handle → d.keyboardMouse.state = .starting ∧
      ∃ x, d.contexts[c]? = some x ∧ x.retired = false ∧ x.generation = d.keyboardMouse.generation) :
    Coherent o.shared := by
  cases act with
  | submit owner request => exact h.submit hexec
  | close owner => exact h.close hexec
  | readyGrant context => exact h.readyGrant hexec
  | pumpEnter context => exact h.pumpEnter hexec
  | pumpTake context => exact h.pumpTake (hpump rfl) hexec
  | submitLeave handle context => exact h.submitLeave (hpump rfl) hexec
  | openBegin owner generation childPresent => exact h.openBegin hexec
  | publish owner c handle =>
      obtain ⟨hstarting, hcontext⟩ := hpublish owner c handle rfl
      exact h.publish hstarting hcontext hexec
  | adopt owner c => exact h.adopt hexec
  | detach retain => exact h.detach hexec
  | release lostOwner context => exact h.release hexec
  | reset =>
      obtain rfl := Option.some.inj hexec
      exact of_vacated rfl
  | readyEnter c | readyExit c =>
      have hsame := keyboardMouse_sameActivation rfl hexec
      obtain rfl := Option.some.inj hexec
      exact h.keeps hsame (fun _ => rfl) h.starting h.fed
  | allocate owner =>
      simp only [KeyboardMouseAct.exec] at hexec
      split at hexec <;> obtain rfl := Option.some.inj hexec
      · refine ⟨h.vacant, h.starting, h.fed, h.running, fun c hc => ?_⟩
        obtain ⟨x, hx, hrest⟩ := h.current c hc
        refine ⟨x, ?_, hrest⟩
        rw [← hx]
        exact List.getElem?_append_left (List.getElem?_eq_some_iff.mp hx).1
      · exact h
  | vhfCreate owner c =>
      simp only [KeyboardMouseAct.exec] at hexec
      split at hexec <;> obtain rfl := Option.some.inj hexec
      · exact ⟨h.vacant, h.starting, h.fed, h.running, h.current⟩
      · refine ⟨h.vacant, h.starting, h.fed, h.running, fun c' hc => ?_⟩
        obtain ⟨x, hx, hgeneration, hretired⟩ := h.current c' hc
        refine ⟨_, context_modify hx c _, ?_⟩
        split <;> exact ⟨hgeneration, hretired⟩
  | _ =>
      simp only [KeyboardMouseAct.exec] at hexec
      repeat' split at hexec
      all_goals cases hexec
      all_goals first
        | exact h
        | exact h.stopped
        | exact h.of_slot rfl rfl

section World

variable {w w' : World} {i : Nat}

theorem act (h : Coherent w.shared) (hd : Disciplined w) (hl : PumpLoop w) (hc : Contexts w)
    (s : System.ActStep driver w i choice w') : Coherent w'.shared := by
  rw [s.shared_after]
  cases hkm : s.act.isKeyboardMouse with
  | true =>
      obtain ⟨act, hact⟩ := keyboardMouse_of_isKeyboardMouse hkm
      have htodo := s.todo
      rw [hact] at htodo
      refine h.keyboardMouse (keyboardMouse_exec s hact) (fun hp => ?_) fun owner c handle heq => ?_
      · exact hl.counted.active s.mem (act_mem s) (by rw [hact]; exact hp)
      · subst heq
        obtain ⟨m, m₁, ⟨rfl, -⟩, hst⟩ := hd.at_head s.at_index htodo
        have hp := standings_some hst .keyboardMouse
        rw [Mode.busyAt_same] at hp
        exact ⟨hp.2.1.state, hc.publishing i s.thread owner c handle s.rest s.at_index htodo⟩
  | false =>
      cases hover : s.act.takesOver with
      | false =>
          obtain ⟨hslot, hcontexts, -⟩ := other_slot hkm hover (Contexts.exec_of s)
          exact h.of_slot hslot hcontexts
      | true =>
          have hexec := Contexts.exec_of s
          cases hact : s.act with
          | power act =>
              rw [hact] at hexec hover
              rw [← Option.some.inj hexec]
              have htimer : Coherent w.shared.stopTimer.stopKeyboardMouseAdmission :=
                Coherent.stopped (d := w.shared.stopTimer) (h.of_slot rfl rfl)
              cases act with
              | stopMark forgetTarget | downMark => exact htimer.of_slot rfl rfl
              | _ => simp [Act.takesOver] at hover
          | _ => simp [hact, Act.takesOver] at hover

theorem env {stimulus : Stimulus} (h : Coherent w.shared)
    (hstep : driver.step w (.env stimulus) = some w') : Coherent w'.shared := by
  rcases environment_cases hstep with ⟨keepalive, hshared, -⟩ | ⟨operation, -, hshared, -⟩
  · rw [hshared]
    exact h.of_slot rfl rfl
  · rw [hshared]
    exact h

theorem initial (keepalive : Bool) : Coherent (World.initial keepalive).shared := of_vacated rfl

end World

end Coherent

end LibVirtualGamepad
