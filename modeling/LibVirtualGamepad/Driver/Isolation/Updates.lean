import LibVirtualGamepad.Driver.Isolation.Foreign

-- A request that goes on after its check works on a slot of its own: it holds the gate,
-- and the slot changes hands under the gate only.
namespace LibVirtualGamepad

open Interleaving

def KeepaliveAct.starts : KeepaliveAct → Bool
  | .join | .publishStart | .resetStop | .armFirst | .createWorker | .startFailed | .cancel => true
  | _ => false

namespace Act

-- What a request does to its slot behind the check, and the start of the worker.
def worksOn (id : ControllerId) : Act → Bool
  | .slot i step => i == id && step.follows
  | .submitEnter i _ _ | .submitLeave i _ _ => i == id
  | .keepalive act => act.starts
  | _ => false

theorem worksOn_not_manages {id : ControllerId} {a : Act} (h : a.worksOn id = true) :
    a.manages = false := by
  cases a with
  | slot | submitEnter | submitLeave | keepalive => rfl
  | _ => cases h

end Act

section Acts

variable {d : Device} {id : ControllerId} {file : File} {threads : List Task} {k : Operation}
  {regs : Registers} {choice : Choice} {a : Act} {o : Effect}

theorem worksOn_startKeepalive : ∀ b ∈ startKeepalive, b.worksOn id = true := by
  simp [startKeepalive, Act.worksOn, KeepaliveAct.starts]

theorem worksOn_section {step : SlotStep}
    (h : ∀ next ∈ (step.run (d.sectionOf id choice.now) (d.controllers id).data).next,
      next.follows = true) :
    ∀ b ∈ (step.exec d regs choice id).next, b.worksOn id = true := by
  intro b hb
  simp only [SlotStep.exec, Device.effect, List.mem_append, List.mem_map] at hb
  obtain (hstart | hsubmit) | ⟨next, hnext, rfl⟩ := hb
  · split at hstart
    · exact worksOn_startKeepalive b hstart
    · cases hstart
  · split at hsubmit
    · obtain ⟨handle, -, rfl⟩ := submission_handle hsubmit
      simp [Act.worksOn]
    · cases hsubmit
  · simp [Act.worksOn, h next hnext]

theorem worksOn_next (ha : a.worksOn id = true) (hexec : a.exec threads d k regs choice = some o) :
    ∀ b ∈ o.next, b.worksOn id = true := by
  cases a with
  | slot i step =>
    cases hexec
    simp only [Act.worksOn, Bool.and_eq_true, beq_iff_eq] at ha
    obtain ⟨rfl, hstep⟩ := ha
    exact worksOn_section (plain_of_follows hstep).next
  | submitEnter i handle answers =>
    cases hexec
    simpa [Device.effect, Act.worksOn] using ha
  | submitLeave i handle answers =>
    cases hexec
    exact List.forall_mem_nil _
  | keepalive act =>
    cases act with
    | signalStop | wait | tick | workerExit => cases ha
    | _ =>
      simp only [Act.exec, KeepaliveAct.exec] at hexec
      repeat' split at hexec
      all_goals cases hexec
      all_goals simp [Device.effect, Act.worksOn, KeepaliveAct.starts]
  | _ => cases ha

-- Of the other slots it leaves all.
theorem worksOn_other {i : ControllerId} (ha : a.worksOn id = true) (hi : i ≠ id)
    (hexec : a.exec threads d k regs choice = some o) :
    o.shared.controllers i = d.controllers i := by
  cases a with
  | slot i step =>
    cases hexec
    simp only [Act.worksOn, Bool.and_eq_true, beq_iff_eq] at ha
    rw [ha.1]
    exact controllers_slot hi
  | submitEnter i handle answers =>
    cases hexec
    rfl
  | submitLeave i handle answers =>
    cases hexec
    simp only [Act.worksOn, beq_iff_eq] at ha
    rw [ha]
    exact setSlot_controllers_of_ne hi
  | keepalive act =>
    cases act with
    | signalStop | wait | tick | workerExit => cases ha
    | _ =>
      simp only [Act.exec, KeepaliveAct.exec] at hexec
      repeat' split at hexec
      all_goals cases hexec
      all_goals rfl
  | _ => cases ha

-- The two checks that a request goes on from.
def SlotStep.updates (file : File) : SlotStep → Bool
  | .input owner _ | .beginUpdate owner _ => owner == file
  | _ => false

theorem checks_of_updates {step : SlotStep} (h : step.updates file = true) :
    step.checks file = true := by
  cases step with
  | input owner request | beginUpdate owner update => exact h
  | _ => cases h

-- Such a check refuses, with nothing to do any more, or has found the caller to be the owner.
theorem updates_exec {step : SlotStep} (hstep : step.updates file = true) :
    ((step.exec d regs choice id).next = [] ∨ (d.controllers id).control.owner = some file) ∧
      ∀ b ∈ (step.exec d regs choice id).next, b.worksOn id = true := by
  constructor
  · cases howned : (d.controllers id).control.isOwnedBy file with
    | true => exact .inr (beq_iff_eq.mp howned)
    | false =>
      have hslot : ∃ status, step.exec d regs choice id = d.effect ⟨status, regs.output⟩ [] ∧
          status.ok = false := refused_slot (checks_of_updates hstep) howned
      obtain ⟨status, hrefused, -⟩ := hslot
      rw [hrefused]
      exact .inl rfl
  · cases step with
    | input owner input => exact worksOn_section (checked_input input).next
    | beginUpdate owner update =>
      have hchecked : CheckedSection (.poll 0) owner (d.sectionOf id choice.now).control
          ((d.sectionOf id choice.now).beginUpdate owner update (d.controllers id).data) :=
        checked_update rfl rfl update
      exact worksOn_section hchecked.next
    | _ => cases hstep

-- A request that updates a slot, at every stage of its way.
inductive Updating (file : File) (id : ControllerId) (d : Device) : List Act → Prop where
  | replying (status : NtStatus) (output : Output) : Updating file id d [.reply status output]
  | asking (step : SlotStep) (updates : step.updates file = true) :
    Updating file id d (gated [.slot id step])
  | asked (step : SlotStep) (updates : step.updates file = true) :
    Updating file id d [.slot id step, .unlockLifetime]
  | working (front : List Act) (owned : (d.controllers id).control.owner = some file)
      (works : ∀ b ∈ front, b.worksOn id = true) : Updating file id d (front ++ [.unlockLifetime])
  | leaving : Updating file id d [.unlockLifetime]
  | done : Updating file id d []

theorem owner_same {d' : Device} (h : d'.leaseOf id = d.leaseOf id) :
    (d'.controllers id).control.owner = (d.controllers id).control.owner :=
  congrArg Lease.owner h

theorem Updating.exec {rest : List Act} (h : Updating file id d (a :: rest))
    (hexec : a.exec threads d k regs choice = some o) :
    Updating file id o.shared (o.next ++ rest) := by
  generalize htodo : a :: rest = todo at h
  cases h with
  | replying status output =>
    obtain ⟨rfl, rfl⟩ := List.cons_eq_cons.mp htodo
    cases hexec
    exact .done
  | asking step updates =>
    obtain ⟨rfl, rfl⟩ := List.cons_eq_cons.mp htodo
    simp only [Act.exec] at hexec
    split at hexec <;> cases hexec
    exact .asked step updates
  | asked step updates =>
    obtain ⟨rfl, rfl⟩ := List.cons_eq_cons.mp htodo
    have hsame := leaseOf_same (Act.control_of_not_manages rfl hexec) id
    cases hexec
    obtain ⟨hends | howned, hworks⟩ := @updates_exec d id file regs choice step updates
    · rw [hends]
      exact .leaving
    · exact .working _ ((owner_same hsame).trans howned) hworks
  | working front owned works =>
    cases front with
    | nil =>
      obtain ⟨rfl, rfl⟩ := List.cons_eq_cons.mp htodo
      cases hexec
      exact .done
    | cons b front =>
      obtain ⟨rfl, rfl⟩ := List.cons_eq_cons.mp htodo
      have hworks := works a List.mem_cons_self
      have hcontrol := Act.control_of_not_manages (Act.worksOn_not_manages hworks) hexec
      have hsame := leaseOf_same hcontrol id
      show Updating file id o.shared (o.next ++ (front ++ [.unlockLifetime]))
      rw [← List.append_assoc]
      refine .working _ ((owner_same hsame).trans owned) fun b hb => ?_
      obtain hb | hb := List.mem_append.mp hb
      · exact worksOn_next hworks hexec b hb
      · exact works b (List.mem_cons_of_mem _ hb)
  | leaving =>
    obtain ⟨rfl, rfl⟩ := List.cons_eq_cons.mp htodo
    cases hexec
    exact .done
  | done => cases htodo

-- Of another file's slots it leaves all.
theorem Updating.foreign {rest : List Act} {i : ControllerId} (h : Updating file id d (a :: rest))
    (hexec : a.exec threads d k regs choice = some o) (hforeign : (d.controllers i).Foreign file) :
    o.shared.controllers i = d.controllers i := by
  have hchecked (ha : a.checks file = true) : o.shared.controllers i = d.controllers i :=
    foreign_checked ha hexec hforeign
  generalize htodo : a :: rest = todo at h
  cases h with
  | replying | asking | leaving =>
    obtain ⟨rfl, -⟩ := List.cons_eq_cons.mp htodo
    exact hchecked rfl
  | asked step updates =>
    obtain ⟨rfl, -⟩ := List.cons_eq_cons.mp htodo
    exact hchecked (checks_of_updates updates)
  | working front owned works =>
    cases front with
    | nil =>
      obtain ⟨rfl, -⟩ := List.cons_eq_cons.mp htodo
      exact hchecked rfl
    | cons b front =>
      obtain ⟨rfl, -⟩ := List.cons_eq_cons.mp htodo
      refine worksOn_other (works a List.mem_cons_self) ?_ hexec
      rintro rfl
      exact hforeign.2 owned
  | done => cases htodo

-- Whoever works on a slot holds the gate.
theorem works_holds {front : List Act} {m : Option Mode}
    (hworks : ∀ b ∈ front, b.worksOn id = true)
    (h : Chain (Act.spec k) (front ++ [.unlockLifetime]) m none) : m.isSome := by
  induction front generalizing m with
  | nil =>
    obtain ⟨m₁, ⟨⟨M, hheld, -⟩, -⟩, -⟩ := h
    rw [hheld]
    rfl
  | cons b front ih =>
    obtain ⟨m₁, hspec, hrest⟩ := h
    have hheld : m₁.isSome := ih (fun c hc => hworks c (List.mem_cons_of_mem _ hc)) hrest
    have hsame : m₁ = m := by
      have hb := hworks b List.mem_cons_self
      cases b with
      | slot i step => exact hspec.1
      | submitEnter i handle answers | submitLeave i handle answers => exact hspec
      | keepalive act =>
        cases act with
        | signalStop | wait | tick | workerExit => cases hb
        | _ => exact hspec
      | _ => cases hb
    rw [← hsame]
    exact hheld

end Acts

section Runs

variable {keepalive : Bool} {w w' : World} {file : File} {id : ControllerId}

def Request.isUpdate : Request → Bool
  | .input _ | .touch _ | .motion _ | .battery _ => true
  | _ => false

theorem updating_program {request : Request} (d : Device) (hupdate : request.isUpdate = true)
    (hnames : request.names = some id) : Updating file id d (request.program file) := by
  cases request with
  | input input =>
    simp only [Request.names, Request.controllerId, Option.bind_some] at hnames
    simp only [Request.program, withSlot, hnames]
    split
    · exact .replying _ _
    · exact .asking (.input file input) (beq_self_eq_true file)
  | touch update | motion update | battery update =>
    simp only [Request.names, Request.controllerId, Option.bind_some] at hnames
    simp only [Request.program, stateUpdate, withSlot, hnames]
    split
    · exact .replying _ _
    · exact .asking (.beginUpdate file _) (beq_self_eq_true file)
  | _ => cases hupdate

-- Every thread of a file keeps to what its kind may do to slots.
structure Tidy (w : World) : Prop where
  updating : ∀ (j : Nat) (t : Task) (file : File) (request : Request) (id : ControllerId),
    w.threads[j]? = some t → t.kind = .request (some file) request → request.isUpdate = true →
      request.names = some id → Updating file id w.shared t.todo
  checks : ∀ t ∈ w.threads, ∀ file : File, (∀ a ∈ t.kind.program, a.onlyChecks file = true) →
    ∀ b ∈ t.todo, b.onlyChecks file = true

theorem Updating.keep {d d' : Device} {todo : List Act} (h : Updating file id d todo)
    (hsame : (∃ front, todo = front ++ [.unlockLifetime] ∧ ∀ b ∈ front, b.worksOn id = true) →
      d'.leaseOf id = d.leaseOf id) : Updating file id d' todo := by
  cases h with
  | replying status output => exact .replying status output
  | asking step updates => exact .asking step updates
  | asked step updates => exact .asked step updates
  | working front owned works =>
    exact .working front ((owner_same (hsame ⟨front, rfl, works⟩)).trans owned) works
  | leaving => exact .leaving
  | done => exact .done

theorem Tidy.act (h : Tidy w) (hdisciplined : Disciplined w) {i : Nat} {choice : Choice}
    (s : System.ActStep driver w i choice w') : Tidy w' where
  updating j t file request id ht hkind hupdate hnames := by
    have hexec : s.act.exec w.threads w.shared s.thread.kind s.thread.regs choice = some s.outcome :=
      s.exec
    rw [s.shared_after]
    obtain ⟨rfl, rfl⟩ | ⟨hj, hold⟩ | ⟨-, hnew⟩ := s.cases_after j t ht
    · have hthis := h.updating j s.thread file request id s.at_index hkind hupdate hnames
      rw [s.todo] at hthis
      exact hthis.exec hexec
    · refine (h.updating j t file request id hold hkind hupdate hnames).keep ?_
      rintro ⟨front, htodo, hworks⟩
      obtain ⟨holder, hd⟩ := hdisciplined
      have hown := hd.chains j t hold
      rw [htodo] at hown
      have hother := hd.chains i s.thread s.at_index
      rw [s.todo] at hother
      obtain ⟨m₁, hspec, -⟩ := hother
      have hungated : modeOf holder i = none := by
        refine Option.not_isSome_iff_eq_none.mp fun hheld => ?_
        exact hj (same_holder (works_holds hworks hown) hheld)
      rw [hungated] at hspec
      exact lease_ungated hspec hexec id
    · have hworker := spawn_worker (k := s.thread.kind) s.exec t hnew
      rw [hworker] at hkind
      cases hkind
  checks t ht file hprogram b hb := by
    obtain rfl | hold | hnew := s.mem_after t ht
    · have hthis := h.checks s.thread s.mem file hprogram
      rw [s.todo] at hthis
      obtain hb | hb := List.mem_append.mp hb
      · exact onlyChecks_next (k := s.thread.kind) (hthis s.act List.mem_cons_self) s.exec b hb
      · exact hthis b (List.mem_cons_of_mem _ hb)
    · exact h.checks t hold file hprogram b hb
    · rw [spawn_worker (k := s.thread.kind) s.exec t hnew] at hprogram
      have hwait := hprogram (.keepalive .wait) (List.mem_singleton_self _)
      cases hwait

theorem Tidy.env (h : Tidy w) {stimulus : Stimulus}
    (hstep : driver.step w (.env stimulus) = some w') : Tidy w' where
  updating j t file request id ht hkind hupdate hnames := by
    obtain hold | ⟨-, hbegins⟩ := environment_at hstep ht
    · refine (h.updating j t file request id hold hkind hupdate hnames).keep fun _ => ?_
      obtain ⟨_, hshared, -⟩ | ⟨_, -, hshared, -⟩ := environment_cases hstep
      · rw [hshared]
        rfl
      · rw [hshared]
    · rw [hbegins, hkind]
      exact updating_program w'.shared hupdate hnames
  checks t ht file hprogram b hb := by
    obtain ⟨j, hj⟩ := List.mem_iff_getElem?.mp ht
    obtain hold | ⟨-, hbegins⟩ := environment_at hstep hj
    · exact h.checks t (List.mem_of_getElem? hold) file hprogram b hb
    · rw [hbegins] at hb
      exact hprogram b hb

theorem Reaches.tidy (h : driver.Reaches (World.initial keepalive) w) : Tidy w := by
  induction h with
  | refl =>
    constructor
    · intro j t file request id ht
      cases ht
    · intro t ht
      cases ht
  | step event before _ hstep ih =>
    cases event with
    | act i choice =>
      obtain ⟨s⟩ := System.actStep_of_step hstep
      exact ih.act (Reaches.disciplined before) s
    | env stimulus => exact ih.env hstep

end Runs

end LibVirtualGamepad
