import LibVirtualGamepad.Driver.NativePump.Current
import LibVirtualGamepad.Driver.Progress.Waits

-- No wakeup is lost: while a report could be handed on and no loop runs, somebody is on the
-- way to start one, or to stop the activation.
namespace LibVirtualGamepad

open Interleaving

-- What an announced stop still has to do.
def Act.Promise : Act → List Act → Prop
  | .power .stopIntent, rest => ∃ forgetTarget, .power (.stopMark forgetTarget) ∈ rest
  | .power .downIntent, rest => .power .downMark ∈ rest
  | .keyboardMouse (.cleanupIntent owner), rest => .keyboardMouse (.cleanupStop owner) ∈ rest
  | _, _ => True

def Promised : List Act → Prop
  | [] => True
  | a :: rest => a.Promise rest ∧ Promised rest

section Promises

variable {a : Act} {xs ys : List Act}

theorem promise_of_not_intends (h : a.intends = false) (rest : List Act) : a.Promise rest := by
  unfold Act.Promise
  split
  · cases h
  · cases h
  · cases h
  · exact trivial

theorem Act.Promise.append (h : a.Promise xs) (ys : List Act) : a.Promise (xs ++ ys) := by
  unfold Act.Promise at h ⊢
  split at h
  · obtain ⟨forgetTarget, hmem⟩ := h
    exact ⟨forgetTarget, List.mem_append_left _ hmem⟩
  · exact List.mem_append_left _ h
  · exact List.mem_append_left _ h
  · exact trivial

theorem Promised.append (hx : Promised xs) (hy : Promised ys) : Promised (xs ++ ys) := by
  induction xs with
  | nil => exact hy
  | cons a rest ih => exact ⟨hx.1.append ys, ih hx.2⟩

theorem promised_of_not_intends (h : ∀ a ∈ xs, a.intends = false) : Promised xs := by
  induction xs with
  | nil => exact trivial
  | cons a rest ih =>
    exact ⟨promise_of_not_intends (h a List.mem_cons_self) rest,
      ih fun b hb => h b (List.mem_cons_of_mem _ hb)⟩

theorem promised_program (operation : Operation) : Promised operation.program := by
  have hcleanup (owner : File) : Promised (keyboardMouseFileCleanup owner) := by
    refine ⟨?_, promised_of_not_intends (by simp [gated, Act.intends])⟩
    simp [Act.Promise, gated]
  have hstop (forgetTarget : Bool) : Promised (stopOwnedControllers forgetTarget) := by
    refine ⟨⟨forgetTarget, ?_⟩, promised_of_not_intends (by simp [gated, Act.intends])⟩
    simp [gated]
  cases operation with
  | request owner request =>
    refine promised_of_not_intends fun a ha => ?_
    cases program_starts a ha with
    | power _ act hk => cases hk
    | cleanupIntent _ owner hk => cases hk
    | _ => rfl
  | fileCleanup owner => exact hcleanup owner
  | fileClose owner =>
    refine (hcleanup owner).append (promised_of_not_intends fun a ha => ?_)
    obtain ⟨id, -, ha⟩ := List.mem_flatMap.1 ha
    simp only [gated, List.cons_append, List.nil_append, List.mem_cons, List.not_mem_nil, or_false] at ha
    obtain rfl | rfl | rfl := ha <;> rfl
  | d0Exit =>
    refine Promised.append ⟨?_, promised_of_not_intends (by simp [gated, Act.intends])⟩
      (promised_of_not_intends (by simp [Act.intends]))
    simp [Act.Promise, gated]
  | releaseHardware =>
    exact (hstop false).append (promised_of_not_intends (by simp [closeTarget, gated, Act.intends]))
  | targetCleanup => exact hstop true
  | callback id handle callback | keyboardMouseReady handle context | keepaliveWorker | d0Entry
  | prepareHardware =>
    exact promised_of_not_intends (by simp [Operation.program, gated, Act.intends])

end Promises

-- The flags that a pump of the slot's owner is let in by.
def Device.admits (d : Device) : Bool :=
  !d.stopping && d.powered && !d.keyboardMouse.owner.any d.cleanupStarted

-- The acts that will stop the open activation, and those that will start a loop for it.
def Act.stops (d : Device) : Act → Prop
  | .power (.stopMark _) | .power .downMark => True
  | .keyboardMouse (.cleanupStop owner) => d.keyboardMouse.owner = some owner
  | _ => False

def Act.rouses (d : Device) : Act → Prop
  | .keyboardMouse (.pumpEnter context) =>
    ∀ c, context = some c → d.keyboardMouse.callbackContext = some c
  | _ => False

-- A report could be handed on, and no loop runs that would.
structure Device.Owes (d : Device) : Prop where
  isOpen : d.keyboardMouse.isOpen
  vhf : d.keyboardMouse.vhf.isSome = true
  credit : d.keyboardMouse.core.credit = true
  queue : d.keyboardMouse.core.queue ≠ []
  idle : d.keyboardMouse.pumpActive = false

structure Awake (w : World) : Prop where
  promised : ∀ t ∈ w.threads, Promised t.todo
  stopping : w.shared.keyboardMouse.isOpen → w.shared.admits = false →
    Waiting w.threads fun _ a => a.stops w.shared
  woken : w.shared.Owes → Waiting w.threads fun _ a => a.rouses w.shared ∨ a.stops w.shared

section Exec

variable {d : Device} {regs : Registers} {choice : Choice} {threads : List Task} {k : Operation}
  {o : Effect} {a : Act}

theorem not_open_stopAdmission : ¬d.stopKeyboardMouseAdmission.keyboardMouse.isOpen := by
  unfold Device.stopKeyboardMouseAdmission
  dsimp only
  split
  · rename_i hempty
    rintro (ho | ho) <;> simp [Device.setKeyboardMouse, hempty] at ho
  · rintro (ho | ho) <;> simp [Device.setKeyboardMouse] at ho

-- An activation that is open after the act was open before, for the same owner.
structure Stays (d d' : Device) : Prop where
  isOpen : d'.keyboardMouse.isOpen → d.keyboardMouse.isOpen
  owner : d'.keyboardMouse.isOpen → d'.keyboardMouse.owner = d.keyboardMouse.owner

theorem Stays.of_not_open {d' : Device} (h : ¬d'.keyboardMouse.isOpen) : Stays d d' :=
  ⟨fun ho => absurd ho h, fun ho => absurd ho h⟩

theorem Stays.of_eq {d' : Device} (hstate : d'.keyboardMouse.state = d.keyboardMouse.state)
    (howner : d'.keyboardMouse.owner = d.keyboardMouse.owner) : Stays d d' :=
  ⟨fun ho => by rwa [KeyboardMouseSlot.isOpen, hstate] at ho, fun _ => howner⟩

theorem keyboardMouse_stays {act : KeyboardMouseAct} (h : act.exec d regs choice = some o)
    (hopens : ∀ owner generation childPresent, act ≠ .openBegin owner generation childPresent) :
    Stays d o.shared := by
  cases hchanges : act.changes with
  | false =>
    have hsame := keyboardMouse_sameActivation hchanges h
    exact .of_eq hsame.state hsame.owner
  | true =>
    cases act with
    | openBegin owner generation childPresent => exact absurd rfl (hopens _ _ _)
    | adopt owner context =>
      simp only [KeyboardMouseAct.exec] at h
      split at h <;> cases h
      · rename_i hadopted
        simp only [Bool.and_eq_true, beq_iff_eq] at hadopted
        exact ⟨fun _ => .inl hadopted.1.2, fun _ => rfl⟩
      · exact .of_not_open not_open_stopAdmission
    | reset =>
      cases h
      refine .of_not_open ?_
      rintro (ho | ho) <;> cases ho
    | release lostOwner context =>
      cases h
      have hfree (d' : Device) : (d'.freeContext context).keyboardMouse = d'.keyboardMouse := by
        cases context <;> rfl
      simp only [Device.effect]
      split
      · refine .of_not_open ?_
        rw [hfree]
        simp only [Device.setKeyboardMouse, KeyboardMouseSlot.released]
        repeat' split
        all_goals rintro (ho | ho) <;> cases ho
      · exact .of_eq (by rw [hfree]) (by rw [hfree])
    | vhfCreate owner context =>
      simp only [KeyboardMouseAct.exec] at h
      split at h <;> cases h <;> exact .of_eq rfl rfl
    | _ =>
      simp only [KeyboardMouseAct.exec, KeyboardMouseAct.changes, Bool.false_eq_true] at h hchanges
      repeat' split at h
      all_goals cases h
      all_goals first
        | exact .of_eq rfl rfl
        | exact .of_not_open not_open_stopAdmission

theorem keyboardMouse_cleanupStarted {act : KeyboardMouseAct} (h : act.exec d regs choice = some o)
    (hintends : (Act.keyboardMouse act).intends = false) :
    o.shared.cleanupStarted = d.cleanupStarted := by
  have hstop (d : Device) : d.stopKeyboardMouseAdmission.cleanupStarted = d.cleanupStarted := by
    unfold Device.stopKeyboardMouseAdmission Device.retireContext
    dsimp only
    repeat' split
    all_goals rfl
  have hfree (d : Device) (context : Option Nat) :
      (d.freeContext context).cleanupStarted = d.cleanupStarted := by
    cases context <;> rfl
  cases act <;> simp only [KeyboardMouseAct.exec] at h <;> (repeat' split at h) <;> cases h <;>
    first
      | rfl
      | exact hstop _
      | exact hfree _ _
      | cases hintends

-- Whoever stops an activation leaves none open.
theorem stops_closes (hstops : a.stops d) (h : a.exec threads d k regs choice = some o) :
    ¬o.shared.keyboardMouse.isOpen := by
  unfold Act.stops at hstops
  split at hstops
  · cases h
    exact not_open_stopAdmission (d := d.stopTimer)
  · cases h
    exact not_open_stopAdmission (d := d.stopTimer)
  · simp only [Act.exec, KeyboardMouseAct.exec, hstops, if_true] at h
    cases h
    exact not_open_stopAdmission
  · cases hstops

end Exec

section Owed

variable {d : Device} {regs : Registers} {choice : Choice} {o : Effect}

theorem Device.Owes.of_slot {d' : Device} (h : d'.Owes) (hslot : d'.keyboardMouse = d.keyboardMouse) :
    d.Owes := by
  obtain ⟨hopen, hvhf, hcredit, hqueue, hidle⟩ := h
  rw [hslot] at hopen hvhf hcredit hqueue hidle
  exact ⟨hopen, hvhf, hcredit, hqueue, hidle⟩

-- Only the flags keep the pump of an open activation out.
theorem admits_of_refused (hc : Coherent d) (hopen : d.keyboardMouse.isOpen)
    (hvhf : d.keyboardMouse.vhf.isSome = true) {context : Option Nat}
    (hcurrent : ∀ c, context = some c → d.keyboardMouse.callbackContext = some c)
    (hrefused : d.pumpAdmitted context = false) : d.admits = false := by
  have hrundown := hc.running hopen
  have hcontext : context.all d.callbackIsCurrent = true := by
    cases context with
    | none => rfl
    | some c => exact hc.callbackIsCurrent hopen (hcurrent c rfl)
  have hstate : (d.keyboardMouse.state == .starting || d.keyboardMouse.state == .active) = true := by
    obtain hstate | hstate := hopen <;> simp [hstate]
  simp only [Device.pumpAdmitted, hrundown, hvhf, hcontext, hstate, Bool.not_false, Bool.true_and,
    Bool.and_true] at hrefused
  exact hrefused

-- What is owed after an act of the keyboard and mouse: the act has put a pump on its way,
-- or found nobody let in, or it was owed before.
inductive Owed (act : KeyboardMouseAct) (d : Device) (o : Effect) : Prop where
  | rouses (b : Act) (hmem : b ∈ o.next) (hb : b.rouses o.shared) : Owed act d o
  | refused (hopen : d.keyboardMouse.isOpen) (hadmits : d.admits = false)
    (howner : o.shared.keyboardMouse.owner = d.keyboardMouse.owner) : Owed act d o
  | before (howes : d.Owes) (hrouses : ¬(Act.keyboardMouse act).rouses d)
    (howner : o.shared.keyboardMouse.owner = d.keyboardMouse.owner)
    (hcontext : o.shared.keyboardMouse.callbackContext = d.keyboardMouse.callbackContext) :
    Owed act d o

theorem Owed.of_slot {act : KeyboardMouseAct} (hrouses : ¬(Act.keyboardMouse act).rouses d)
    (hslot : o.shared.keyboardMouse = d.keyboardMouse) (howes : o.shared.Owes) : Owed act d o :=
  .before (howes.of_slot hslot) hrouses (by rw [hslot]) (by rw [hslot])

theorem owed_submit (owner : File) (request : KeyboardMouse.Request)
    (h : (KeyboardMouseAct.submit owner request).exec d regs choice = some o)
    (howes : o.shared.Owes) : Owed (.submit owner request) d o := by
  simp only [KeyboardMouseAct.exec] at h
  split at h
  · cases h
    exact .of_slot id rfl howes
  split at h
  · cases h
    exact .of_slot id rfl howes
  split at h
  · cases h
    exact .of_slot id rfl howes
  · cases h
    cases hok : (d.keyboardMouse.core.submit (some owner) request).1.toStatus.ok with
    | true =>
      refine .rouses (.keyboardMouse (.pumpEnter none)) ?_ (fun c hc => by cases hc)
      simp [Device.effect]
    | false =>
      obtain ⟨-, hsame⟩ | ⟨-, haccepted⟩ :=
        KeyboardMouse.submit_settles d.keyboardMouse.core (some owner) request
      · refine .of_slot id ?_ howes
        simp only [Device.effect, Device.setCore, Device.setKeyboardMouse, hsame]
      · rw [haccepted] at hok
        cases hok

theorem owed_close (owner : File)
    (h : (KeyboardMouseAct.close owner).exec d regs choice = some o) (howes : o.shared.Owes) :
    Owed (.close owner) d o := by
  simp only [KeyboardMouseAct.exec] at h
  split at h
  · cases h
    exact .of_slot id rfl howes
  split at h
  · cases h
    exact .of_slot id rfl howes
  split at h
  · cases h
    exact .of_slot id rfl howes
  split at h
  · cases h
    exact absurd howes.isOpen not_open_stopAdmission
  · cases h
    cases hok : (d.keyboardMouse.core.close (some owner)).1.toStatus.ok with
    | true =>
      refine .rouses (.keyboardMouse (.pumpEnter none)) ?_ (fun c hc => by cases hc)
      simp [Device.effect]
    | false =>
      obtain ⟨-, hsame⟩ | ⟨-, haccepted⟩ :=
        KeyboardMouse.close_cases d.keyboardMouse.core (some owner)
      · refine .of_slot id ?_ howes
        simp only [Device.effect, Device.setCore, Device.setKeyboardMouse, hsame]
      · rw [haccepted] at hok
        cases hok

theorem owed_pumpEnter (hc : Coherent d) (context : Option Nat)
    (h : (KeyboardMouseAct.pumpEnter context).exec d regs choice = some o)
    (howes : o.shared.Owes) : Owed (.pumpEnter context) d o := by
  simp only [KeyboardMouseAct.exec] at h
  split at h
  · rename_i hrefused
    cases h
    have hbefore : d.Owes := howes
    simp only [hbefore.idle, Bool.or_false, Bool.not_eq_true'] at hrefused
    by_cases hcurrent : ∀ c, context = some c → d.keyboardMouse.callbackContext = some c
    · exact .refused hbefore.isOpen
        (admits_of_refused hc hbefore.isOpen hbefore.vhf hcurrent hrefused) rfl
    · exact .before hbefore hcurrent rfl rfl
  · cases h
    cases howes.idle

-- A take that leaves a report behind was refused.
theorem owed_pumpTake (hc : Coherent d) (context : Option Nat)
    (hcontext : ∀ c, context = some c → d.keyboardMouse.callbackContext = some c)
    (h : (KeyboardMouseAct.pumpTake context).exec d regs choice = some o)
    (howes : o.shared.Owes) : Owed (.pumpTake context) d o := by
  simp only [KeyboardMouseAct.exec] at h
  cases hadmitted : d.pumpAdmitted context with
  | true =>
    simp only [hadmitted, if_true] at h
    obtain hnone | ⟨report, rest, -, -, -, htake⟩ := KeyboardMouse.takeReport_cases d.keyboardMouse.core
    · rw [hnone] at h
      cases h
      have hqueue : d.keyboardMouse.core.queue ≠ [] := howes.queue
      have hcredit : d.keyboardMouse.core.credit = true := howes.credit
      obtain ⟨report, rest, hcons⟩ := List.exists_cons_of_ne_nil hqueue
      have hstate := hc.fed hcredit hqueue
      simp only [KeyboardMouse.Endpoint.takeReport, hcons, hcredit] at hnone
      obtain hstate | hstate := hstate <;> simp [hstate] at hnone
    · rw [htake] at h
      cases h
      cases howes.credit
  | false =>
    simp only [hadmitted, Bool.false_eq_true, if_false] at h
    cases h
    exact .refused howes.isOpen (admits_of_refused hc howes.isOpen howes.vhf hcontext hadmitted) rfl

theorem not_owed_submitLeave (hc : Coherent d) (hc' : Coherent o.shared)
    (hactive : d.keyboardMouse.pumpActive = true) (handle : Handle) (context : Option Nat)
    (hcontext : ∀ c, context = some c → d.keyboardMouse.callbackContext = some c)
    (h : (KeyboardMouseAct.submitLeave handle context).exec d regs choice = some o) : ¬o.shared.Owes := by
  intro howes
  simp only [KeyboardMouseAct.exec] at h
  split at h
  · rename_i hretired
    cases h
    obtain ⟨c, rfl, hgone⟩ := (Option.any_eq_true _ _).1 hretired
    have hcurrent := hc.callbackIsCurrent howes.isOpen (hcontext c rfl)
    simp [Device.callbackIsCurrent, hgone] at hcurrent
  split at h
  · cases h
    have hidle : d.keyboardMouse.pumpActive = false := howes.idle
    rw [hactive] at hidle
    cases hidle
  · cases h
    have hstate := hc'.fed howes.credit howes.queue
    have hcredit := howes.credit
    simp only [Device.effect, Device.clearPumpActive, Device.dropSubmitOwner, Device.setCore,
      Device.setKeyboardMouse, KeyboardMouse.Endpoint.submissionFailed] at hstate hcredit
    split at hcredit
    · rename_i hclosed
      simp [hclosed] at hstate
    · cases hcredit

theorem owes_next {act : KeyboardMouseAct} (hc : Coherent d) (hc' : Coherent o.shared)
    (h : act.exec d regs choice = some o)
    (hactive : act.pumping = true → d.keyboardMouse.pumpActive = true)
    (hcontext : ∀ c, act.loopContext = some c → d.keyboardMouse.callbackContext = some c)
    (hpublish : ∀ owner c handle, act = .publish owner c handle → d.keyboardMouse.state = .starting)
    (howes : o.shared.Owes) : Owed act d o := by
  cases act with
  | submit owner request => exact owed_submit owner request h howes
  | close owner => exact owed_close owner h howes
  | pumpEnter context => exact owed_pumpEnter hc context h howes
  | pumpTake context => exact owed_pumpTake hc context hcontext h howes
  | submitLeave handle context =>
    exact absurd howes (not_owed_submitLeave hc hc' (hactive rfl) handle context hcontext h)
  | readyGrant context =>
    simp only [KeyboardMouseAct.exec] at h
    split at h
    · rename_i hadmitted
      cases h
      rw [Bool.and_eq_true] at hadmitted
      have hcurrent := (pumpAdmitted_published hadmitted.1).2.2 context rfl
      refine .rouses (.keyboardMouse (.pumpEnter (some context))) List.mem_cons_self fun c hcontext => ?_
      obtain rfl := Option.some.inj hcontext
      exact callbackContext_of_current hcurrent
    · cases h
      exact .of_slot id rfl howes
  | openBegin owner generation childPresent =>
    simp only [KeyboardMouseAct.exec] at h
    split at h
    · cases h
      exact .of_slot id rfl howes
    split at h
    · cases h
      exact .of_slot id rfl howes
    · split at h <;> cases h <;> exact absurd (hc'.starting rfl) howes.queue
  | publish owner c handle =>
    have hstarting := hpublish owner c handle rfl
    simp only [KeyboardMouseAct.exec] at h
    split at h <;> cases h
    · exact absurd (hc'.starting hstarting) howes.queue
    · exact absurd howes.isOpen not_open_stopAdmission
  | adopt owner c =>
    simp only [KeyboardMouseAct.exec] at h
    split at h
    · rename_i hadopted
      cases h
      simp only [Bool.and_eq_true, beq_iff_eq] at hadopted
      exact absurd (hc.starting hadopted.1.2) howes.queue
    · cases h
      exact absurd howes.isOpen not_open_stopAdmission
  | reset =>
    cases h
    obtain ho | ho := howes.isOpen <;> cases ho
  | detach retain =>
    simp only [KeyboardMouseAct.exec] at h
    split at h
    · rename_i hstopping
      cases h
      obtain ho | ho := howes.isOpen <;> rw [show _ = SlotState.stopping from hstopping] at ho <;> cases ho
    · cases h
      exact .of_slot id rfl howes
  | release lostOwner context =>
    cases h
    have hfree (d' : Device) : (d'.freeContext context).keyboardMouse = d'.keyboardMouse := by
      cases context <;> rfl
    refine .of_slot id ?_ howes
    have hopen := howes.isOpen
    simp only [Device.effect, hfree] at hopen ⊢
    split
    · rename_i hstopping
      simp only [hstopping, if_true, Device.setKeyboardMouse, KeyboardMouseSlot.released] at hopen
      exfalso
      repeat' split at hopen
      all_goals obtain ho | ho := hopen <;> cases ho
    · rfl
  | vhfCreate owner context =>
    simp only [KeyboardMouseAct.exec] at h
    split at h <;> cases h <;> exact .of_slot id rfl howes
  | _ =>
    simp only [KeyboardMouseAct.exec] at h
    repeat' split at h
    all_goals cases h
    all_goals first
      | exact .of_slot id rfl howes
      | exact absurd howes.isOpen not_open_stopAdmission

end Owed

section World

variable {w w' : World} {i : Nat} {choice : Choice}

-- What was waited for is still to come, unless it was this act.
theorem waiting_kept (s : System.ActStep driver w i choice w') {p q : Act → Prop}
    (h : Waiting w.threads fun _ a => p a) (hact : ¬p s.act) (hpq : ∀ a, p a → q a) :
    Waiting w'.threads fun _ a => q a := by
  obtain ⟨-, hthis⟩ | hafter := s.waiting_before h
  · exact absurd hthis hact
  · exact hafter.mono fun _ a ha => hpq a ha

theorem stops_congr {d d' : Device} (howner : d'.keyboardMouse.owner = d.keyboardMouse.owner) {a : Act}
    (h : a.stops d) : a.stops d' := by
  unfold Act.stops at h ⊢
  split at h
  · exact trivial
  · exact trivial
  · exact howner.trans h
  · cases h

theorem rouses_congr {d d' : Device}
    (hcontext : d'.keyboardMouse.callbackContext = d.keyboardMouse.callbackContext) {a : Act}
    (h : a.rouses d) : a.rouses d' := by
  unfold Act.rouses at h ⊢
  split at h
  · exact fun c hc => hcontext.trans (h c hc)
  · cases h

-- Outside the keyboard and mouse only an announcement takes an admission back.
theorem other_admits {d : Device} {regs : Registers} {threads : List Task} {k : Operation} {o : Effect}
    {a : Act} (ha : a.isKeyboardMouse = false) (hover : a.takesOver = false)
    (hintends : a.intends = false) (h : a.exec threads d k regs choice = some o)
    (hadmits : d.admits = true) : o.shared.admits = true := by
  obtain ⟨hslot, -, hcleanup⟩ := other_slot ha hover h
  simp only [Device.admits, Bool.and_eq_true, Bool.not_eq_true'] at hadmits ⊢
  rw [hslot, hcleanup]
  refine ⟨?_, hadmits.2⟩
  cases a with
  | power act =>
    cases h
    cases act with
    | stopIntent | downIntent => cases hintends
    | stopMark forgetTarget | downMark => cases hover
    | prepare => exact ⟨rfl, hadmits.1.2⟩
    | d0Entry => exact ⟨hadmits.1.1, rfl⟩
    | _ => exact hadmits.1
  | create id owner profile act =>
    cases h
    rw [(create_only act).stopping, (create_only act).powered]
    exact hadmits.1
  | destroy id owner act =>
    cases h
    rw [(destroy_only act).stopping, (destroy_only act).powered]
    exact hadmits.1
  | keyboardMouse act => cases ha
  | _ =>
    have hsame := Act.control_of_not_manages rfl h
    rw [hsame.stopping, hsame.powered]
    exact hadmits.1

namespace Awake

theorem promised_after (h : Awake w) (s : System.ActStep driver w i choice w') :
    ∀ t ∈ w'.threads, Promised t.todo := by
  intro t ht
  obtain rfl | hold | hnew := s.mem_after t ht
  · have hbefore := h.promised s.thread s.mem
    rw [s.todo] at hbefore
    exact (promised_of_not_intends (intends_next (k := s.thread.kind) s.exec)).append hbefore.2
  · exact h.promised t hold
  · rw [spawn_worker (k := s.thread.kind) s.exec t hnew]
    exact promised_of_not_intends (by simp [Act.intends])

-- What an announcement has promised is still to be done by its thread.
theorem promise_kept (h : Awake w) (s : System.ActStep driver w i choice w') {a : Act}
    (hact : s.act = a) : a.Promise s.rest ∧ ∀ b ∈ s.rest, ∀ p : Act → Prop, p b →
      Waiting w'.threads fun _ a => p a := by
  have hbefore := h.promised s.thread s.mem
  rw [s.todo, hact] at hbefore
  exact ⟨hbefore.1, fun b hb p hp =>
    ⟨_, List.mem_of_getElem? s.at_index_after, b, List.mem_append_right _ hb, hp⟩⟩

theorem stopping_after (h : Awake w) (s : System.ActStep driver w i choice w')
    (hopen : w'.shared.keyboardMouse.isOpen) (hadmits : w'.shared.admits = false) :
    Waiting w'.threads fun _ a => a.stops w'.shared := by
  have hexec := Contexts.exec_of s
  have hnot : ¬s.act.stops w.shared := by
    intro hstops
    rw [s.shared_after] at hopen
    exact stops_closes hstops hexec hopen
  -- The activation was open before, and its owner was let in no more than now.
  have hkept (hstays : Stays w.shared w'.shared)
      (hbefore : w.shared.admits = true → w'.shared.admits = true) :
      Waiting w'.threads fun _ a => a.stops w'.shared := by
    have hrefused : w.shared.admits = false := by
      by_contra hyes
      rw [hbefore (Bool.eq_true_of_not_eq_false hyes)] at hadmits
      cases hadmits
    exact waiting_kept s (h.stopping (hstays.isOpen hopen) hrefused) hnot fun a =>
      stops_congr (hstays.owner hopen)
  cases hkm : s.act.isKeyboardMouse with
  | false =>
    cases hover : s.act.takesOver with
    | true =>
      exfalso
      refine hnot ?_
      cases hact : s.act with
      | power act => cases act <;> first | exact trivial | (rw [hact] at hover; cases hover)
      | _ => rw [hact] at hover; cases hover
    | false =>
      obtain ⟨hslot, -, -⟩ := other_slot hkm hover hexec
      rw [← s.shared_after] at hslot
      have hstays : Stays w.shared w'.shared := .of_eq (by rw [hslot]) (by rw [hslot])
      cases hintends : s.act.intends with
      | false =>
        refine hkept hstays fun hyes => ?_
        rw [s.shared_after]
        exact other_admits hkm hover hintends hexec hyes
      | true =>
        cases hact : s.act with
        | power act =>
          cases act with
          | stopIntent =>
            obtain ⟨⟨forgetTarget, hmem⟩, hwaits⟩ := h.promise_kept s hact
            exact hwaits _ hmem _ trivial
          | downIntent =>
            obtain ⟨hmem, hwaits⟩ := h.promise_kept s hact
            exact hwaits _ hmem _ trivial
          | _ => rw [hact] at hintends; cases hintends
        | keyboardMouse act => rw [hact] at hkm; cases hkm
        | _ => rw [hact] at hintends; cases hintends
  | true =>
    obtain ⟨act, hact⟩ := keyboardMouse_of_isKeyboardMouse hkm
    have hkmexec := keyboardMouse_exec s hact
    obtain ⟨honly, -⟩ := keyboardMouse_only hkmexec
    rw [← s.shared_after] at honly
    by_cases hopens : ∃ owner generation childPresent, act = .openBegin owner generation childPresent
    · obtain ⟨owner, generation, childPresent, rfl⟩ := hopens
      have hsame (heq : w'.shared = w.shared) : Waiting w'.threads fun _ a => a.stops w'.shared :=
        hkept (.of_eq (by rw [heq]) (by rw [heq])) (by rw [heq]; exact id)
      simp only [KeyboardMouseAct.exec] at hkmexec
      split at hkmexec
      · exact hsame (by rw [s.shared_after, ← Option.some.inj hkmexec]; rfl)
      · rename_i hlive
        split at hkmexec
        · exact hsame (by rw [s.shared_after, ← Option.some.inj hkmexec]; rfl)
        · -- Whoever opens is let in.
          have hyes : w'.shared.admits = true := by
            rw [s.shared_after]
            simp only [Device.keyboardMouseLive, Bool.not_eq_true', Bool.not_eq_false] at hlive
            split at hkmexec <;> rw [← Option.some.inj hkmexec] <;>
              simpa [Device.admits, Device.effect, Device.beginKeyboardMouse,
                Device.setKeyboardMouse] using hlive
          rw [hyes] at hadmits
          cases hadmits
    · have hstays : Stays w.shared w'.shared := by
        rw [s.shared_after]
        exact keyboardMouse_stays hkmexec fun owner generation childPresent heq =>
          hopens ⟨owner, generation, childPresent, heq⟩
      cases hintends : (Act.keyboardMouse act).intends with
      | false =>
        refine hkept hstays fun hyes => ?_
        have hcleanup := keyboardMouse_cleanupStarted hkmexec hintends
        rw [← s.shared_after] at hcleanup
        rw [← hyes]
        simp only [Device.admits, honly.stopping, honly.powered, hcleanup, hstays.owner hopen]
      | true =>
        cases act with
        | cleanupIntent owner =>
          have hshared : w'.shared = { w.shared with
              cleanupStarted := Function.update w.shared.cleanupStarted owner true } := by
            rw [s.shared_after, ← Option.some.inj hkmexec]
            rfl
          by_cases howner : w.shared.keyboardMouse.owner = some owner
          · obtain ⟨hmem, hwaits⟩ := h.promise_kept s hact
            refine hwaits _ hmem (fun a => a.stops w'.shared) ?_
            rw [hshared]
            exact howner
          · refine hkept hstays fun hyes => ?_
            rw [← hyes, hshared]
            cases hother : w.shared.keyboardMouse.owner with
            | none => simp [Device.admits, hother]
            | some other =>
              have hne : other ≠ owner := fun heq => howner (by rw [hother, heq])
              simp [Device.admits, hother, hne]
        | _ => cases hintends

theorem woken_after (h : Awake w) (hd : Disciplined w) (hl : PumpLoop w) (hc : Coherent w.shared)
    (hc' : Coherent w'.shared) (s : System.ActStep driver w i choice w') (howes : w'.shared.Owes) :
    Waiting w'.threads fun _ a => a.rouses w'.shared ∨ a.stops w'.shared := by
  have hexec := Contexts.exec_of s
  have hnot : ¬s.act.stops w.shared := by
    intro hstops
    have hopen := howes.isOpen
    rw [s.shared_after] at hopen
    exact stops_closes hstops hexec hopen
  have hkept (hbefore : w.shared.Owes) (hrouses : ¬s.act.rouses w.shared)
      (howner : w'.shared.keyboardMouse.owner = w.shared.keyboardMouse.owner)
      (hcontext : w'.shared.keyboardMouse.callbackContext = w.shared.keyboardMouse.callbackContext) :
      Waiting w'.threads fun _ a => a.rouses w'.shared ∨ a.stops w'.shared :=
    waiting_kept s (h.woken hbefore) (not_or.2 ⟨hrouses, hnot⟩) fun a =>
      Or.imp (rouses_congr hcontext) (stops_congr howner)
  cases hkm : s.act.isKeyboardMouse with
  | false =>
    cases hover : s.act.takesOver with
    | true =>
      exfalso
      refine hnot ?_
      cases hact : s.act with
      | power act => cases act <;> first | exact trivial | (rw [hact] at hover; cases hover)
      | _ => rw [hact] at hover; cases hover
    | false =>
      obtain ⟨hslot, -, -⟩ := other_slot hkm hover hexec
      rw [← s.shared_after] at hslot
      refine hkept (howes.of_slot hslot) ?_ (by rw [hslot]) (by rw [hslot])
      intro hrouses
      cases hact : s.act <;> rw [hact] at hrouses hkm <;> first | cases hrouses | cases hkm
  | true =>
    obtain ⟨act, hact⟩ := keyboardMouse_of_isKeyboardMouse hkm
    have hkmexec := keyboardMouse_exec s hact
    have htodo := s.todo
    rw [hact] at htodo
    have hmem : Act.keyboardMouse act ∈ s.thread.todo := by
      rw [htodo]
      exact List.mem_cons_self
    rw [s.shared_after] at hc' howes
    have howed := owes_next hc hc' hkmexec (fun hpumping => hl.counted.active s.mem hmem hpumping)
      (fun c hloop => hl.counted.current s.thread s.mem _ hmem c hloop)
      (fun owner c handle hpublish => by
        subst hpublish
        obtain ⟨m, m₁, ⟨rfl, -⟩, hst⟩ := hd.at_head s.at_index htodo
        have hp := standings_some hst .keyboardMouse
        rw [Mode.busyAt_same] at hp
        exact hp.2.1.state) howes
    rw [← s.shared_after] at howes
    cases howed with
    | rouses b hb hrouses =>
      rw [← s.shared_after] at hrouses
      exact s.waiting_next hb (.inl hrouses)
    | refused hopen hadmits howner =>
      rw [← s.shared_after] at howner
      exact (waiting_kept s (h.stopping hopen hadmits) hnot fun a => stops_congr howner).mono
        fun _ _ => .inr
    | before hbefore hrouses howner hcontext =>
      rw [← s.shared_after] at howner hcontext
      rw [← hact] at hrouses
      exact hkept hbefore hrouses howner hcontext

theorem act (h : Awake w) (hd : Disciplined w) (hl : PumpLoop w) (hc : Coherent w.shared)
    (hc' : Coherent w'.shared) (s : System.ActStep driver w i choice w') : Awake w' :=
  ⟨h.promised_after s, h.stopping_after s, h.woken_after hd hl hc hc' s⟩

theorem env {stimulus : Stimulus} (h : Awake w) (hstep : driver.step w (.env stimulus) = some w') :
    Awake w' := by
  obtain ⟨keepalive, hshared, hthreads⟩ | ⟨operation, -, hshared, hthreads⟩ := environment_cases hstep
  · obtain ⟨shared, threads⟩ := w'
    obtain rfl : threads = w.threads := hthreads
    obtain rfl : shared = _ := hshared
    exact ⟨h.promised, h.stopping, fun howes => h.woken (howes.of_slot rfl)⟩
  · refine ⟨fun t ht => ?_, fun hopen hadmits => ?_, fun howes => ?_⟩
    · rw [hthreads] at ht
      obtain ht | ht := List.mem_append.1 ht
      · exact h.promised t ht
      · rw [List.mem_singleton.1 ht]
        exact promised_program operation
    · rw [hshared] at hopen hadmits ⊢
      rw [hthreads]
      exact (h.stopping hopen hadmits).append_left _
    · rw [hshared] at howes ⊢
      rw [hthreads]
      exact (h.woken howes).append_left _

theorem initial (keepalive : Bool) : Awake (World.initial keepalive) := by
  refine ⟨fun t ht => absurd ht List.not_mem_nil, fun hopen => ?_, fun howes => ?_⟩
  · obtain ho | ho := hopen <;> cases ho
  · obtain ho | ho := howes.isOpen <;> cases ho

end Awake

end World

end LibVirtualGamepad
