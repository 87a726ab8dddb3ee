import LibVirtualGamepad.Driver.Progress.Deadlock
import LibVirtualGamepad.KeyboardMouse.Delivery

-- Without the outside the threads come to rest: every act has a price, and what it leads to
-- costs less.
namespace LibVirtualGamepad

open Interleaving

def SlotStep.cost (step : SlotStep) : Nat := 3 * (step.rank + 1) + if step.isInput then 8 else 0

def TargetAct.cost : TargetAct → Nat
  | .check => 3
  | .openByFile => 2
  | .store _ => 1

def CreateAct.cost : CreateAct → Nat
  | .check => 17
  | .enumerate _ => 16
  | .begin _ _ => 13
  | .targetOpened => 9
  | .readFile => 8
  | .vhfCreate => 7
  | .publish _ => 6
  | .start _ => 5
  | .adopt _ => 4
  | .release => 1

def DestroyAct.cost : DestroyAct → Nat
  | .check => 8
  | .detach => 5
  | .finish => 1

def PowerAct.cost : PowerAct → Nat
  | .stopMark _ => 75
  | .stopCollect _ => 68
  | .downMark => 60
  | .prepare => 4
  | _ => 1

-- A tick hands at most one report of each slot to VHF.
def KeepaliveAct.cost : KeepaliveAct → Nat
  | .tick => 36
  | .armFirst => 5
  | .createWorker => 4
  | .wait => 3
  | _ => 1

def KeyboardMouseAct.cost : KeyboardMouseAct → Nat
  | .authorize _ _ => 22
  | .openCheck _ => 21
  | .openEnumerate _ _ => 20
  | .openBegin _ _ _ => 17
  | .targetOpened _ => 13
  | .readTarget _ => 12
  | .allocate _ => 11
  | .vhfCreate _ _ => 10
  | .publish _ _ _ => 9
  | .start _ _ _ | .close _ => 8
  | .adopt _ _ | .abort _ | .cleanupStop _ => 7
  | .detach _ | .submit _ _ => 5
  | .readyEnter _ => 9
  | .readyCheck _ => 8
  | .readyGrant _ => 7
  | .submitEnter _ _ => 3
  | .submitLeave _ _ | .pumpEnter _ => 2
  | _ => 1

def Act.cost : Act → Nat
  | .slot _ step => step.cost
  | .submitEnter _ _ _ => 2
  | .target act => act.cost
  | .create _ _ _ act => act.cost
  | .destroy _ _ act => act.cost
  | .power act => act.cost
  | .keepalive act => act.cost
  | .keyboardMouse act => act.cost
  | _ => 1

-- A timer that has fired pays for a tick, and a report's credit for its way to VHF.
def Device.fuel (d : Device) : Nat :=
  (if d.keepalive.signalled then 34 else 0) + if d.keyboardMouse.core.credit then 3 else 0

section Fuel

variable {d d' : Device}

-- Nothing new is paid for.
structure Saves (d d' : Device) : Prop where
  signalled : d'.keepalive.signalled = true → d.keepalive.signalled = true
  credit : d'.keyboardMouse.core.credit = true → d.keyboardMouse.core.credit = true

theorem Saves.fuel (h : Saves d d') : d'.fuel ≤ d.fuel := by
  have hsignalled := h.signalled
  have hcredit := h.credit
  unfold Device.fuel
  refine Nat.add_le_add ?_ ?_
  · cases hs : d'.keepalive.signalled with
    | false => simp
    | true => simp [hsignalled hs]
  · cases hc : d'.keyboardMouse.core.credit with
    | false => simp
    | true => simp [hcredit hc]

theorem fuel_signalled (h : d.keepalive.signalled = true) :
    ({ d with keepalive := { d.keepalive with signalled := false } } : Device).fuel + 34 = d.fuel := by
  simp only [Device.fuel, h, if_true, Bool.false_eq_true, if_false]
  omega

theorem fuel_credit_le (core : KeyboardMouse.Endpoint) : (d.setCore core).fuel ≤ d.fuel + 3 := by
  have hcredit : (if core.credit then 3 else 0) ≤ 3 := by split <;> omega
  exact Nat.le_trans (Nat.add_le_add_left hcredit _) (Nat.add_le_add_right (Nat.le_add_right _ _) 3)

theorem fuel_used (hkeepalive : d'.keepalive = d.keepalive)
    (hbefore : d.keyboardMouse.core.credit = true) (hafter : d'.keyboardMouse.core.credit = false) :
    d'.fuel + 3 = d.fuel := by
  simp only [Device.fuel, hkeepalive, hbefore, hafter, if_true, Bool.false_eq_true, if_false]

theorem Saves.refl (d : Device) : Saves d d := ⟨id, id⟩

theorem Saves.of_eq (hkeepalive : d'.keepalive = d.keepalive)
    (hcore : d'.keyboardMouse.core = d.keyboardMouse.core) : Saves d d' := by
  constructor
  · rw [hkeepalive]
    exact id
  · rw [hcore]
    exact id

theorem saves_stopAdmission : Saves d d.stopKeyboardMouseAdmission := by
  unfold Device.stopKeyboardMouseAdmission Device.retireContext
  dsimp only
  repeat' split
  all_goals exact .of_eq rfl rfl

theorem saves_arm (d : Device) (now : UInt64) : Saves d (d.arm now) := by
  unfold Device.arm
  split
  · exact .refl d
  · exact ⟨fun h => (Bool.false_ne_true h).elim, id⟩

theorem Saves.trans {d'' : Device} (h : Saves d d') (h' : Saves d' d'') : Saves d d'' :=
  ⟨h.signalled ∘ h'.signalled, h.credit ∘ h'.credit⟩

end Fuel

section Core

open KeyboardMouse

variable {endpoint : Endpoint}

theorem credit_submit (owner : OwnerToken) (request : KeyboardMouse.Request) :
    (endpoint.submit owner request).2.credit = endpoint.credit := by
  unfold Endpoint.submit
  split
  · rfl
  split
  · rfl
  cases request with
  | keyboard request =>
    simp only [Endpoint.submitKeyboard]
    repeat' split
    all_goals rfl
  | consumer request =>
    simp only [Endpoint.submitConsumer]
    repeat' split
    all_goals rfl
  | button request =>
    simp only [Endpoint.submitButton]
    repeat' split
    all_goals rfl
  | relative request =>
    simp only [Endpoint.submitRelative]
    repeat' split
    all_goals rfl
  | absolute request =>
    simp only [Endpoint.submitAbsolute]
    repeat' split
    all_goals rfl

theorem credit_close (owner : OwnerToken) : (endpoint.close owner).2.credit = endpoint.credit := by
  unfold Endpoint.close
  repeat' split
  all_goals rfl

theorem credit_openBy (owner : OwnerToken) (generation : UInt32)
    (h : (endpoint.openBy owner generation).2.credit = true) : endpoint.credit = true := by
  revert h
  unfold Endpoint.openBy
  repeat' split
  all_goals simp [Endpoint.reset]

theorem credit_submissionFailed (h : endpoint.submissionFailed.credit = true) :
    endpoint.credit = true := by
  revert h
  unfold Endpoint.submissionFailed
  split <;> simp

-- A report that is taken uses the credit up.
theorem credit_take {report : Report} {core : Endpoint} (h : endpoint.takeReport = (some report, core)) :
    endpoint.credit = true ∧ core.credit = false := by
  obtain heq | ⟨report', rest, -, hcredit, -, heq⟩ := takeReport_cases endpoint
  · rw [heq] at h
    cases h
  · rw [heq] at h
    cases h
    exact ⟨hcredit, rfl⟩

theorem take_none {core : Endpoint} (h : endpoint.takeReport = (none, core)) : core = endpoint := by
  obtain heq | ⟨report', rest, -, -, -, heq⟩ := takeReport_cases endpoint
  · rw [heq] at h
    cases h
    rfl
  · rw [heq] at h
    cases h

end Core

section Acts

variable {threads : List Task} {d : Device} {k : Operation} {regs : Registers} {choice : Choice}
  {o : Effect}

-- The act leaves less to be done than there was.
def Act.Pays (d : Device) (a : Act) (o : Effect) : Prop :=
  o.shared.fuel + load Act.cost o.next + loads Act.cost o.spawn < d.fuel + a.cost

theorem pays_of_saves {a : Act} (hsaves : Saves d o.shared) (hnext : load Act.cost o.next < a.cost)
    (hspawn : o.spawn = []) : a.Pays d o := by
  have hfuel := hsaves.fuel
  unfold Act.Pays
  rw [hspawn, show loads Act.cost ([] : List Task) = 0 from rfl]
  omega

theorem load_submission (id : ControllerId) (answers : Bool) :
    load Act.cost (d.submission id answers) ≤ 2 := by
  unfold Device.submission
  split <;> simp [Act.cost]

theorem load_sections (id : ControllerId) (step : SlotStep) (s : Section) (data : SlotData) :
    load Act.cost ((step.run s data).next.map (.slot id)) ≤ 3 * step.rank := by
  have hone := @next_one s data step
  have hrank := @next_rank s data step
  have hinput := @isInput_of_rank s data step
  match hnext : (step.run s data).next with
  | [] => exact Nat.zero_le _
  | [next] =>
    have hless := hrank next (by rw [hnext]; exact List.mem_cons_self)
    have hcalm := hinput (by rw [hnext]; exact List.mem_cons_self)
    simp only [List.map_cons, List.map_nil, load_cons, load_nil, Act.cost, SlotStep.cost, hcalm]
    simp
    omega
  | _ :: _ :: _ =>
    rw [hnext] at hone
    simp at hone

theorem load_stopKeepalive : load Act.cost stopKeepalive = 3 := rfl

theorem load_deleteStopped (retain : Bool) : load Act.cost (deleteStoppedKeyboardMouse retain) = 6 :=
  rfl

theorem pays_slot (id : ControllerId) (step : SlotStep) :
    (Act.slot id step).Pays d (step.exec d regs choice id) := by
  have hsaves : Saves d (step.exec d regs choice id).shared := by
    have hsection (r : StepResult) : Saves d (d.applySection id r) := .of_eq rfl rfl
    have hrunning (d' : Device) (running : Bool) : Saves d' (d'.setRunning running) := ⟨fun h => h, fun h => h⟩
    simp only [SlotStep.exec, Device.effect]
    repeat' split
    all_goals first
      | exact hsection _
      | exact (hsection _).trans (saves_arm _ _)
      | exact (hsection _).trans (hrunning _ _)
      | exact ((hsection _).trans (hrunning _ _)).trans (saves_arm _ _)
  refine pays_of_saves hsaves ?_ rfl
  have hsections := load_sections id step (d.sectionOf id choice.now) (d.controllers id).data
  simp only [SlotStep.exec, Device.effect, load_append, Act.cost, SlotStep.cost]
  generalize hr : step.run (d.sectionOf id choice.now) (d.controllers id).data = r at hsections
  have hsubmission : load Act.cost (if r.submit then
      (d.submission id r.status.isSome) else []) ≤ 2 := by
    split
    · exact load_submission id _
    · exact Nat.zero_le 2
  have hstart : load Act.cost (if r.startKeepalive then startKeepalive else []) ≤
      if step.isInput then 8 else 0 := by
    cases hinput : step.isInput with
    | true =>
      split
      · exact Nat.le_refl 8
      · exact Nat.zero_le 8
    | false =>
      rw [← hr, (descends_run hinput).calm]
      exact Nat.le_refl 0
  omega

theorem pays_create {id : ControllerId} {owner : File} {profile : Profile} (act : CreateAct) :
    (Act.create id owner profile act).Pays d (act.exec d regs choice id owner profile) := by
  have honly : OnlyControllers d (act.exec d regs choice id owner profile).shared := create_only act
  refine pays_of_saves (.of_eq honly.keepalive (by rw [honly.keyboardMouse.slot])) ?_
    (by cases act <;> simp only [CreateAct.exec] <;> (repeat' split) <;> rfl)
  cases act <;> simp only [CreateAct.exec] <;> (repeat' split) <;>
    simp [Device.effect, Act.cost, CreateAct.cost, TargetAct.cost, targetOpen]

theorem pays_destroy {id : ControllerId} {owner : File} (act : DestroyAct) :
    (Act.destroy id owner act).Pays d (act.exec d regs id owner) := by
  have honly : OnlyControllers d (act.exec d regs id owner).shared := destroy_only act
  refine pays_of_saves (.of_eq honly.keepalive (by rw [honly.keyboardMouse.slot])) ?_
    (by cases act <;> simp only [DestroyAct.exec] <;> (repeat' split) <;> rfl)
  cases act <;> simp only [DestroyAct.exec] <;> (repeat' split) <;>
    simp [Device.effect, Act.cost, DestroyAct.cost, deleteAfterSubmits]

theorem pays_target (act : TargetAct) : (Act.target act).Pays d (act.exec d regs choice) := by
  have hsaves : Saves d (act.exec d regs choice).shared := by
    cases act <;> simp only [TargetAct.exec] <;> (repeat' split) <;> exact .of_eq rfl rfl
  refine pays_of_saves hsaves ?_
    (by cases act <;> simp only [TargetAct.exec] <;> (repeat' split) <;> rfl)
  cases act <;> simp only [TargetAct.exec] <;> (repeat' split) <;>
    simp [Device.effect, Act.cost, TargetAct.cost]

theorem load_deleteCollected (handles : ControllerId → Option Handle) {after : ControllerId → List Act}
    {n : Nat} (h : ∀ id, load Act.cost (after id) ≤ n) :
    load Act.cost (deleteCollected handles after) ≤ maxControllers * (3 + n) := by
  have hlength : (List.finRange maxControllers).length = maxControllers := List.length_finRange
  rw [← hlength]
  refine load_flatMap_le fun id _ => ?_
  split
  · rw [load_append]
    exact Nat.add_le_add (Nat.le_refl 3) (h id)
  · exact Nat.zero_le _

theorem pays_power (act : PowerAct) : (Act.power act).Pays d (act.exec d regs) := by
  have hsaves : Saves d (act.exec d regs).shared := by
    have htaken (f : ControllerId → Slot → Slot) :
        Saves d (d.stopTimer.stopKeyboardMouseAdmission.mapSlots f) :=
      (⟨id, id⟩ : Saves d d.stopTimer).trans (saves_stopAdmission.trans (.of_eq rfl rfl))
    cases act with
    | stopMark forgetTarget | downMark => exact htaken _
    | _ => exact .of_eq rfl rfl
  refine pays_of_saves hsaves ?_ (by cases act <;> rfl)
  cases act with
  | stopCollect forgetTarget =>
    have hdelete : load Act.cost (deleteCollected (fun id => (d.controllers id).collected)
        fun id => [.power (.stopRelease id)]) ≤ maxControllers * (3 + 1) :=
      load_deleteCollected _ fun id => Nat.le_refl 1
    simp only [PowerAct.exec, Device.effect, load_append, load_stopKeepalive, Act.cost, PowerAct.cost]
    simp only [maxControllers] at hdelete
    omega
  | downMark =>
    have hdelete : load Act.cost (deleteCollected (fun id => (d.controllers id).poweredDown)
        fun _ => []) ≤ maxControllers * (3 + 0) :=
      load_deleteCollected _ fun id => Nat.le_refl 0
    simp only [PowerAct.exec, Device.effect, load_append, load_stopKeepalive, load_deleteStopped,
      load_cons, load_nil, Act.cost, PowerAct.cost]
    simp only [maxControllers] at hdelete
    omega
  | _ => simp [PowerAct.exec, Device.effect, Act.cost, PowerAct.cost, load_deleteStopped, targetOpen,
      TargetAct.cost]

theorem load_tickSubmissions (now : UInt64) :
    load Act.cost ((List.finRange maxControllers).flatMap fun id =>
      if (d.keepaliveResult now id).submit then d.submission id false else []) ≤ 32 := by
  have hlength : (List.finRange maxControllers).length * 2 = 32 := by rw [List.length_finRange]; rfl
  rw [← hlength]
  refine load_flatMap_le fun id _ => ?_
  split
  · exact load_submission id false
  · exact Nat.zero_le 2

theorem saves_tick (now : UInt64) : Saves d (d.keepaliveTick now) := by
  have hslots : Saves d (d.keepaliveSlots now) := .of_eq rfl rfl
  unfold Device.keepaliveTick
  dsimp only
  split
  · exact ⟨hslots.signalled, hslots.credit⟩
  split
  · exact hslots.trans (saves_arm _ _)
  · exact ⟨hslots.signalled, hslots.credit⟩

theorem pays_keepalive {act : KeepaliveAct} (h : act.exec threads d regs choice = some o) :
    (Act.keepalive act).Pays d o := by
  cases act with
  | tick =>
    cases h
    refine pays_of_saves (saves_tick _) ?_ rfl
    have hsubmissions := load_tickSubmissions (d := d) choice.now
    simp only [Device.effect, load_append, Act.cost, KeepaliveAct.cost]
    split <;> simp only [load_cons, load_nil, Act.cost, KeepaliveAct.cost] <;> omega
  | wait =>
    simp only [KeepaliveAct.exec] at h
    split at h
    · cases h
      exact pays_of_saves (.refl d) (Nat.lt_succ_self 2) rfl
    · split at h <;> cases h
      rename_i hsignalled
      -- The timer's signal is used up for the tick.
      unfold Act.Pays
      rw [← fuel_signalled hsignalled]
      exact Nat.lt_succ_self _
  | createWorker =>
    simp only [KeepaliveAct.exec] at h
    split at h <;> cases h
    · exact Nat.add_lt_add_left (Nat.lt_succ_self 3) d.fuel
    · exact pays_of_saves (.refl d) (by simp [Device.effect, Act.cost, KeepaliveAct.cost]) rfl
  | _ =>
    simp only [KeepaliveAct.exec] at h
    repeat' split at h
    all_goals cases h
    all_goals refine pays_of_saves ?_ (by simp [Device.effect, Act.cost, KeepaliveAct.cost]) rfl
    all_goals first
      | exact .refl d
      | exact ⟨id, id⟩
      | exact ⟨fun h => (Bool.false_ne_true h).elim, id⟩

theorem pays_keyboardMouse {act : KeyboardMouseAct} (h : act.exec d regs choice = some o) :
    (Act.keyboardMouse act).Pays d o := by
  obtain ⟨honly, hspawn⟩ := keyboardMouse_only h
  have hpays (hcredit : o.shared.keyboardMouse.core.credit = true →
      d.keyboardMouse.core.credit = true)
      (hnext : load Act.cost o.next < (Act.keyboardMouse act).cost) :
      (Act.keyboardMouse act).Pays d o :=
    pays_of_saves ⟨by rw [honly.keepalive]; exact id, hcredit⟩ hnext hspawn
  cases act with
  | authorize owner request =>
    simp only [KeyboardMouseAct.exec] at h
    split at h <;> cases h
    · refine hpays id ?_
      cases request <;>
        simp [Device.effect, KeyboardMouseRequest.program, Act.cost, KeyboardMouseAct.cost]
    · exact hpays id (Nat.zero_lt_succ 21)
  | openBegin owner generation childPresent =>
    simp only [KeyboardMouseAct.exec] at h
    repeat' split at h
    all_goals cases h
    · exact hpays id (Nat.zero_lt_succ 16)
    · exact hpays id (Nat.zero_lt_succ 16)
    · refine hpays (credit_openBy _ _) ?_
      simp [Device.effect, Act.cost, KeyboardMouseAct.cost, targetOpen, TargetAct.cost]
    · refine hpays (credit_openBy _ _) ?_
      simp [Device.effect, Act.cost, KeyboardMouseAct.cost]
  | publish owner context handle =>
    simp only [KeyboardMouseAct.exec] at h
    split at h <;> cases h
    · exact hpays id (by simp [Device.effect, Act.cost, KeyboardMouseAct.cost])
    · exact hpays saves_stopAdmission.credit
        (by simp [Device.effect, load_deleteStopped, Act.cost, KeyboardMouseAct.cost])
  | adopt owner context | close owner =>
    simp only [KeyboardMouseAct.exec] at h
    repeat' split at h
    all_goals cases h
    all_goals first
      | exact hpays id (by simp [Device.effect, Act.cost, KeyboardMouseAct.cost])
      | exact hpays saves_stopAdmission.credit
          (by simp [Device.effect, load_deleteStopped, Act.cost, KeyboardMouseAct.cost])
      | exact hpays (credit_close (some owner)).le
          (by simp [Device.effect, Act.cost, KeyboardMouseAct.cost])
  | submit owner request =>
    simp only [KeyboardMouseAct.exec] at h
    repeat' split at h
    all_goals cases h
    all_goals first
      | exact hpays id (by simp [Device.effect, Act.cost, KeyboardMouseAct.cost])
      | exact hpays (credit_submit (some owner) request).le
          (by simp [Device.effect, Act.cost, KeyboardMouseAct.cost])
  | reset =>
    cases h
    exact hpays (fun hcredit => (Bool.false_ne_true hcredit).elim) Nat.one_pos
  | detach retain =>
    simp only [KeyboardMouseAct.exec] at h
    split at h <;> cases h
    · refine hpays credit_submissionFailed ?_
      cases d.keyboardMouse.vhf <;> cases d.keyboardMouse.callbackContext <;>
        simp [Device.effect, Act.cost, KeyboardMouseAct.cost]
    · exact hpays id (by simp [Device.effect, Act.cost, KeyboardMouseAct.cost])
  | release lostOwner context =>
    cases h
    refine hpays ?_ Nat.one_pos
    have hfree (d' : Device) : (d'.freeContext context).keyboardMouse = d'.keyboardMouse := by
      cases context <;> rfl
    simp only [Device.effect, hfree]
    split
    · intro hcredit
      simp only [Device.setKeyboardMouse, KeyboardMouseSlot.released] at hcredit
      repeat' split at hcredit
      all_goals exact (Bool.false_ne_true hcredit).elim
    · exact id
  | abort owner =>
    simp only [KeyboardMouseAct.exec] at h
    repeat' split at h
    all_goals cases h
    · exact hpays id (Nat.zero_lt_succ 6)
    · exact hpays id (Nat.zero_lt_succ 6)
    · exact hpays saves_stopAdmission.credit (Nat.lt_succ_self 6)
  | cleanupStop owner =>
    simp only [KeyboardMouseAct.exec] at h
    split at h <;> cases h
    · refine hpays saves_stopAdmission.credit ?_
      simp only [Device.effect]
      split
      · exact Nat.lt_succ_self 6
      · exact Nat.zero_lt_succ 6
    · exact hpays id (Nat.zero_lt_succ 6)
  | vhfCreate owner context =>
    simp only [KeyboardMouseAct.exec] at h
    split at h <;> cases h
    · exact hpays id (by simp [Device.effect, Act.cost, KeyboardMouseAct.cost])
    · exact hpays id (by simp [Device.effect, Act.cost, KeyboardMouseAct.cost])
  | readyGrant context =>
    simp only [KeyboardMouseAct.exec] at h
    split at h <;> cases h
    · -- The credit is paid for here.
      have hfuel := fuel_credit_le (d := d) d.keyboardMouse.core.readyForReport
      exact Nat.lt_of_le_of_lt (Nat.add_le_add_right hfuel 3) (Nat.lt_succ_self _)
    · exact hpays id (by simp [Device.effect, Act.cost, KeyboardMouseAct.cost])
  | pumpTake context =>
    simp only [KeyboardMouseAct.exec] at h
    split at h <;> cases h
    · rename_i report core htake
      -- The credit was paid for when it was granted.
      have hcredit : d.keyboardMouse.core.credit = true ∧ core.credit = false := by
        split at htake
        · exact credit_take htake
        · cases htake
      rw [Act.Pays, ← fuel_used honly.keepalive hcredit.1 hcredit.2]
      cases d.keyboardMouse.vhf with
      | some handle => exact Nat.lt_succ_of_le (Nat.add_le_add_left (Nat.le_refl 3) _)
      | none => exact Nat.lt_succ_of_le (Nat.add_le_add_left (Nat.zero_le 3) _)
    · rename_i core htake
      refine hpays ?_ Nat.one_pos
      have hcore : core = d.keyboardMouse.core := by
        split at htake
        · exact take_none htake
        · exact (Prod.mk.inj htake).2.symm
      rw [hcore]
      exact id
  | submitLeave handle context =>
    simp only [KeyboardMouseAct.exec] at h
    repeat' split at h
    all_goals cases h
    all_goals first
      | exact hpays id (by simp [Device.effect, Act.cost, KeyboardMouseAct.cost])
      | exact hpays credit_submissionFailed (by simp [Device.effect, Act.cost, KeyboardMouseAct.cost])
  | _ =>
    simp only [KeyboardMouseAct.exec] at h
    repeat' split at h
    all_goals cases h
    all_goals exact hpays id (by simp [Device.effect, Act.cost, KeyboardMouseAct.cost])

theorem spends : System.Spends driver Act.cost Device.fuel := by
  intro threads d k regs choice a o h
  change a.exec threads d k regs choice = some o at h
  change a.Pays d o
  cases a with
  | slot id step =>
    cases h
    exact pays_slot id step
  | target act =>
    cases h
    exact pays_target act
  | create id owner profile act =>
    cases h
    exact pays_create act
  | destroy id owner act =>
    cases h
    exact pays_destroy act
  | power act =>
    cases h
    exact pays_power act
  | keepalive act => exact pays_keepalive h
  | keyboardMouse act => exact pays_keyboardMouse h
  | lockLifetime | waitForSubmits id | deleteEnd handle =>
    simp only [Act.exec] at h
    split at h <;> cases h
    exact pays_of_saves (.of_eq rfl rfl) Nat.one_pos rfl
  | submitEnter id handle answers =>
    cases h
    exact pays_of_saves (.refl d) (Nat.lt_succ_self 1) rfl
  | unlockLifetime | reply status output | submitLeave id handle answers | deleteBegin handle =>
    cases h
    exact pays_of_saves (.of_eq rfl rfl) Nat.one_pos rfl

end Acts

section Rest

variable {keepalive : Bool} {w : World} {choice : Choice}

theorem Quiescent.stuck (h : Quiescent w) (hok : choice.status.ok = true) :
    driver.Stuck (· = choice) w := by
  rintro i c rfl
  simp only [System.step]
  cases ht : w.threads[i]? with
  | none => rfl
  | some t =>
    dsimp only
    cases htodo : t.todo with
    | nil => rfl
    | cons a rest =>
      obtain ⟨-, hwait, hstop, hsignalled⟩ := h.returned t (List.mem_of_getElem? ht) (by simp [htodo])
      rw [htodo] at hwait
      obtain ⟨rfl, -⟩ := List.cons_eq_cons.1 hwait
      simp [driver, Act.exec, KeepaliveAct.exec, hstop, hsignalled, hok]

-- The driver never deadlocks: as long as calls out of it succeed, no thread can go on
-- exactly when there is nothing left to do.
theorem stuck_iff_quiescent (h : driver.Reaches (World.initial keepalive) w)
    (hok : choice.status.ok = true) : driver.Stuck (· = choice) w ↔ Quiescent w :=
  ⟨fun hstuck => Halted.quiescent ⟨hok, hstuck⟩ (Reaches.governed h), fun hquiescent =>
    hquiescent.stuck hok⟩

theorem stuck_iff_quiescent_created : ∃ run : driver.Run (World.initial true),
    run.last.shared.vhfAt (.controller ⟨0, by decide⟩) = some 0 ∧
      (driver.Stuck (· = .willing) run.last ↔ Quiescent run.last) := by
  let run : driver.Run (World.initial true) :=
    ⟨creation ⟨0, .xboxOne, 0⟩ 1, by decide +kernel⟩
  exact ⟨run, by decide +kernel, stuck_iff_quiescent (run.reaches _ (Nat.le_refl _)) rfl⟩

-- Whatever the threads do by themselves ends after boundedly many acts, and they can go on
-- to where every one has returned.
theorem comes_to_rest (h : driver.Reaches (World.initial keepalive) w)
    (hok : choice.status.ok = true) :
    (∀ events w', (∀ event ∈ events, ∃ i c, event = .act i c) → driver.runAll w events = some w' →
      events.length ≤ System.budget Act.cost Device.fuel w) ∧
    ∃ events, (∀ event ∈ events, ∃ i, event = .act i choice) ∧
      ∃ w', driver.runAll w events = some w' ∧ Quiescent w' := by
  refine ⟨fun events w' hacts hruns => ?_, ?_⟩
  · have hle := spends.acts_le hacts hruns
    omega
  · obtain ⟨events, hacts, w', hruns, hstuck⟩ := spends.reaches_stuck (· = choice) w
    refine ⟨events, fun event hevent => ?_, w', hruns, ?_⟩
    · obtain ⟨i, c, rfl, hact⟩ := hacts event hevent
      exact ⟨i, hact⟩
    · have hreaches := h.trans (System.reaches_of_runAll hruns)
      exact Halted.quiescent ⟨hok, hstuck⟩ (Reaches.governed hreaches)

-- A creation that has the gate comes to its end.
theorem comes_to_rest_creating : ∃ run : driver.Run (World.initial true),
    run.last.shared.gateHeld = true ∧
      ∃ events, (∀ event ∈ events, ∃ i, event = .act i .willing) ∧
        ∃ w', driver.runAll run.last events = some w' ∧ Quiescent w' := by
  let run : driver.Run (World.initial true) :=
    ⟨(creation ⟨0, .xboxOne, 0⟩ 1).take 10, by decide +kernel⟩
  exact ⟨run, by decide +kernel, (comes_to_rest (run.reaches _ (Nat.le_refl _)) rfl).2⟩

end Rest

end LibVirtualGamepad
