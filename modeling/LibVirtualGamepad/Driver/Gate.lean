import LibVirtualGamepad.Driver.Standing

-- What each act does with the lifetime gate and with the phases of the places: the
-- mode it needs and the mode in which it, and all it leads to, leaves the thread.
namespace LibVirtualGamepad

open Interleaving

def Phase.atRest : Phase → Prop
  | .settled | .retired => True
  | .busy _ _ => False

namespace Mode

def set (M : Mode) (p : Place) (φ : Phase) : Mode := Function.update M p φ

-- One place in the middle of a transition, the others settled.
def busyAt (p : Place) (owner : File) (stage : Stage) : Mode :=
  Mode.settled.set p (.busy (some owner) stage)

-- The slots a transition has taken, the others retired.
def taken (owners : ControllerId → Option File) (handles : ControllerId → Option Handle)
    (stage : Handle → Stage) (km : Phase) : Mode
  | .controller id =>
    match handles id with
    | some handle => .busy (owners id) (stage handle)
    | none => .retired
  | .keyboardMouse => km

@[simp] theorem set_same (M : Mode) (p : Place) (φ : Phase) : M.set p φ p = φ := by
  simp [set]

@[simp] theorem set_of_ne {p q : Place} (h : q ≠ p) (M : Mode) (φ : Phase) : M.set p φ q = M q := by
  simp [set, h]

@[simp] theorem set_set (M : Mode) (p : Place) (φ ψ : Phase) : (M.set p φ).set p ψ = M.set p ψ := by
  simp [set]

theorem set_eq_self {M : Mode} {p : Place} {φ : Phase} (h : M p = φ) : M.set p φ = M := by
  rw [← h]
  exact Function.update_eq_self p M

@[simp] theorem settled_set (p : Place) : Mode.settled.set p .settled = Mode.settled :=
  set_eq_self rfl

@[simp] theorem busyAt_same (p : Place) (owner : File) (stage : Stage) :
    busyAt p owner stage p = .busy (some owner) stage := by
  simp [busyAt]

theorem busyAt_of_ne {p q : Place} (h : q ≠ p) (owner : File) (stage : Stage) :
    busyAt p owner stage q = .settled := by
  simp [busyAt, h, Mode.settled]

@[simp] theorem busyAt_set (p : Place) (owner : File) (stage stage' : Stage) :
    (busyAt p owner stage).set p (.busy (some owner) stage') = busyAt p owner stage' := by
  simp [busyAt]

@[simp] theorem busyAt_set_settled (p : Place) (owner : File) (stage : Stage) :
    (busyAt p owner stage).set p .settled = Mode.settled := by
  simp only [busyAt, set_set, settled_set]

end Mode

-- The sections that never hand a report to VHF; they run without the gate.
def SlotStep.silent : SlotStep → Bool
  | .query _ | .attributes _ _ | .poll _ => true
  | _ => false

def CreateAct.spec (p : Place) (owner : File) (act : CreateAct) (m m' : Option Mode) : Prop :=
  match act with
  | .check | .enumerate _ => m = none ∧ m' = none
  | .begin _ _ => m = some .settled ∧ m' = some .settled
  | .targetOpened | .readFile | .vhfCreate =>
    m = some (.busyAt p owner .starting) ∧ m' = some .settled
  | .publish handle => m = some (.busyAt p owner (.created handle)) ∧ m' = some .settled
  | .start handle | .adopt handle =>
    m = some (.busyAt p owner (.published handle)) ∧ m' = some .settled
  | .release =>
    (m = some (.busyAt p owner .starting) ∨ m = some (.busyAt p owner .gone)) ∧ m' = some .settled

def DestroyAct.spec (p : Place) (owner : File) (act : DestroyAct) (m m' : Option Mode) : Prop :=
  match act with
  | .check => m = none ∧ m' = none
  | .detach => m = some .settled ∧ m' = some .settled
  | .finish => m = some (.busyAt p owner .gone) ∧ m' = some .settled

def PowerAct.spec (act : PowerAct) (m m' : Option Mode) : Prop :=
  match act with
  | .stopIntent | .downIntent | .prepare | .d0Entry | .releaseTarget => m' = m
  | .stopMark _ | .downMark => m = some .settled ∧ m' = some .retired
  | .stopCollect _ =>
    ∃ owners handles, m = some (.taken owners handles .stopped .retired) ∧ m' = some .retired
  | .stopRelease id =>
    ∃ M owner, m = some M ∧ M (.controller id) = .busy owner .gone ∧
      m' = some (M.set (.controller id) .retired)
  | .downDetach handles =>
    ∃ owners, m = some (.taken owners handles .stopped .retired) ∧
      m' = some (.taken owners handles .detached .retired)
  | .downFinish handles =>
    ∃ owners, m = some (.taken owners handles (fun _ => .gone) .retired) ∧ m' = some .retired

-- The worker's own acts hand reports to VHF, so no callback of VHF runs them.
def KeepaliveAct.spec (k : Operation) (act : KeepaliveAct) (m m' : Option Mode) : Prop :=
  match act with
  | .wait | .tick => m' = m ∧ k.isCallback = false
  | _ => m' = m

-- The keyboard and mouse is in the phase that a stop finds or leaves.
def Phase.stopped : Phase → Prop
  | .retired => True
  | .busy _ (.stopped _) | .busy _ .gone => True
  | _ => False

def KeyboardMouseAct.spec (act : KeyboardMouseAct) (m m' : Option Mode) : Prop :=
  let p := Place.keyboardMouse
  match act with
  | .authorize _ _ | .openCheck _ | .openEnumerate _ _ => m = none ∧ m' = none
  | .openBegin _ _ _ | .abort _ | .cleanupStop _ => m = some .settled ∧ m' = some .settled
  | .targetOpened owner | .readTarget owner | .allocate owner | .vhfCreate owner _ =>
    m = some (.busyAt p owner .starting) ∧ m' = some .settled
  | .publish owner _ handle => m = some (.busyAt p owner (.created handle)) ∧ m' = some .settled
  | .start owner _ handle => m = some (.busyAt p owner (.published handle)) ∧ m' = some .settled
  | .adopt owner _ =>
    ∃ handle, m = some (.busyAt p owner (.published handle)) ∧ m' = some .settled
  | .reset => ∃ owner, m = some (.busyAt p owner .starting) ∧ m' = some .settled
  | .detach _ =>
    ∃ M φ, m = some M ∧ (M p).stopped ∧ φ.atRest ∧ m' = some (M.set p φ)
  | .release _ _ =>
    ∃ M φ, m = some M ∧ (M p = .retired ∨ ∃ owner, M p = .busy owner .gone) ∧ φ.atRest ∧
      m' = some (M.set p φ)
  | .submit _ _ | .close _ => m = some .settled ∧ m' = none
  | _ => m' = m

def Act.spec (k : Operation) (act : Act) (m m' : Option Mode) : Prop :=
  match act with
  | .lockLifetime => m = none ∧ m' = some .settled
  | .unlockLifetime => (∃ M, m = some M ∧ ∀ p, (M p).atRest) ∧ m' = none
  | .reply _ _ | .submitEnter _ _ _ | .submitLeave _ _ _ | .target _ => m' = m
  | .slot id step =>
    m' = m ∧ (∀ M, m = some M → (M (.controller id)).atRest) ∧
      (m = none → k.isCallback = false → step.silent = true) ∧
      ∀ id' handle c, k = .callback id' handle c → id' = id
  | .waitForSubmits id =>
    ∃ M owner handle, m = some M ∧ M (.controller id) = .busy owner (.detached handle) ∧
      m' = some (M.set (.controller id) (.busy owner (.drained handle)))
  | .deleteBegin handle =>
    ∃ M p owner, m = some M ∧ M p = .busy owner (.drained handle) ∧
      m' = some (M.set p (.busy owner (.deleting handle)))
  | .deleteEnd handle =>
    ∃ M p owner, m = some M ∧ M p = .busy owner (.deleting handle) ∧
      m' = some (M.set p (.busy owner .gone))
  | .create id owner _ act => act.spec (.controller id) owner m m'
  | .destroy id owner act => act.spec (.controller id) owner m m'
  | .power act => act.spec m m'
  | .keepalive act => act.spec k m m'
  | .keyboardMouse act => act.spec m m'

-- A list of acts that leaves the mode as it is.
theorem chain_same {k : Operation} {acts : List Act} {m : Option Mode}
    (h : ∀ a ∈ acts, a.spec k m m) : Chain (Act.spec k) acts m m := by
  induction acts with
  | nil => rfl
  | cons a rest ih =>
      exact ⟨m, h a (by simp), ih fun b hb => h b (by simp [hb])⟩

theorem chain_flatMap {k : Operation} {α : Type} {f : α → List Act} {m : Option Mode}
    {xs : List α} (h : ∀ x ∈ xs, Chain (Act.spec k) (f x) m m) :
    Chain (Act.spec k) (xs.flatMap f) m m := by
  induction xs with
  | nil => rfl
  | cons x rest ih =>
      rw [List.flatMap_cons]
      exact (h x (by simp)).append (ih fun y hy => h y (by simp [hy]))

theorem chain_gated {k : Operation} {acts : List Act} {M : Mode}
    (h : Chain (Act.spec k) acts (some .settled) (some M)) (hM : ∀ p, (M p).atRest) :
    Chain (Act.spec k) (gated acts) none none := by
  have hlock : Chain (Act.spec k) [.lockLifetime] none (some .settled) := .single ⟨rfl, rfl⟩
  have hunlock : Chain (Act.spec k) [.unlockLifetime] (some M) none := .single ⟨⟨M, rfl, hM⟩, rfl⟩
  exact (hlock.append h).append hunlock

theorem atRest_settled (p : Place) : (Mode.settled p).atRest := trivial
theorem atRest_retired (p : Place) : (Mode.retired p).atRest := trivial

section Program

variable {k : Operation}

theorem chain_withSlot {m : Option Mode} {id : UInt32} {program : ControllerId → List Act}
    (h : ∀ id, Chain (Act.spec k) (program id) m m) :
    Chain (Act.spec k) (withSlot id program) m m := by
  unfold withSlot
  cases ControllerId.ofRequest id with
  | none => exact .single rfl
  | some id => exact h id

theorem chain_silent (hk : k.isCallback = false) (id : ControllerId) {step : SlotStep}
    (hstep : step.silent = true) : Chain (Act.spec k) [.slot id step] none none := by
  refine .single ⟨rfl, fun M h => by simp at h, fun _ _ => hstep, fun id' handle c h => ?_⟩
  rw [h] at hk
  simp [Operation.isCallback] at hk

-- A section of a request, under the gate.
theorem chain_section (hk : k.isCallback = false) (id : ControllerId) (step : SlotStep) :
    Chain (Act.spec k) [.slot id step] (some .settled) (some .settled) := by
  refine .single ⟨rfl, fun M h => ?_, fun h => by simp at h, fun id' handle c h => ?_⟩
  · rw [← Option.some.inj h]
    exact trivial
  · rw [h] at hk
    simp [Operation.isCallback] at hk

theorem chain_stateUpdate (hk : k.isCallback = false) (owner : File) (id : UInt32)
    (update : StateUpdate) : Chain (Act.spec k) (stateUpdate owner id update) none none :=
  chain_gated (chain_withSlot fun id => chain_section hk id _) atRest_settled

theorem chain_request (hk : k.isCallback = false) (owner : File) (request : Request) :
    Chain (Act.spec k) (request.program owner) none none := by
  have hreply : ∀ status output, Chain (Act.spec k) [.reply status output] none none :=
    fun _ _ => .single rfl
  cases request with
  | query id =>
      cases id with
      | none => exact hreply _ _
      | some id => exact chain_withSlot fun id => chain_silent hk id rfl
  | create request =>
      refine chain_withSlot fun id => ?_
      split
      · exact hreply _ _
      · split
        · exact hreply _ _
        · exact .single ⟨rfl, rfl⟩
  | destroy id => exact chain_withSlot fun id => .single ⟨rfl, rfl⟩
  | input request =>
      refine chain_withSlot fun id => ?_
      split
      · exact hreply _ _
      · exact chain_gated (chain_section hk id _) atRest_settled
  | touch request =>
      simp only [Request.program]
      split
      · exact hreply _ _
      · exact chain_stateUpdate hk _ _ _
  | motion request =>
      simp only [Request.program]
      split
      · exact hreply _ _
      · exact chain_stateUpdate hk _ _ _
  | battery request =>
      simp only [Request.program]
      split
      · exact hreply _ _
      · exact chain_stateUpdate hk _ _ _
  | attributes request => exact chain_withSlot fun id => chain_silent hk id rfl
  | poll id => exact chain_withSlot fun id => chain_silent hk id rfl
  | keyboardMouse request => exact .single ⟨rfl, rfl⟩

theorem chain_keyboardMouseFileCleanup (owner : File) :
    Chain (Act.spec k) (keyboardMouseFileCleanup owner) none none := by
  have hintent : Chain (Act.spec k) [.keyboardMouse (.cleanupIntent owner)] none none := .single rfl
  exact hintent.append (chain_gated (.single ⟨rfl, rfl⟩) atRest_settled)

theorem chain_stopOwnedControllers (forgetTarget : Bool) :
    Chain (Act.spec k) (stopOwnedControllers forgetTarget) none none := by
  have hintent : Chain (Act.spec k) [.power .stopIntent] none none := .single rfl
  exact hintent.append (chain_gated (.single ⟨rfl, rfl⟩) atRest_retired)

theorem chain_powerDownControllers : Chain (Act.spec k) powerDownControllers none none := by
  have hintent : Chain (Act.spec k) [.power .downIntent] none none := .single rfl
  exact hintent.append (chain_gated (.single ⟨rfl, rfl⟩) atRest_retired)

-- Every thread starts and ends without the gate.
theorem chain_program (k : Operation) : Chain (Act.spec k) k.program none none := by
  cases k with
  | request owner request =>
      cases owner with
      | none => exact .single rfl
      | some owner => exact chain_request rfl owner request
  | fileCleanup owner => exact chain_keyboardMouseFileCleanup owner
  | fileClose owner =>
      refine (chain_keyboardMouseFileCleanup owner).append (chain_flatMap fun id _ => ?_)
      exact chain_gated (.single ⟨rfl, rfl⟩) atRest_settled
  | callback id handle c =>
      refine .single ⟨rfl, fun M h => by simp at h, fun _ h => ?_, fun id' _ _ h => ?_⟩
      · simp [Operation.isCallback] at h
      · injection h with h₁
        exact h₁.symm
  | keyboardMouseReady handle context => exact .single rfl
  | keepaliveWorker => exact .single ⟨rfl, rfl⟩
  | d0Entry => exact chain_gated (.single rfl) atRest_settled
  | d0Exit => exact chain_powerDownControllers.append (.single rfl)
  | prepareHardware =>
      have hprepare : Chain (Act.spec .prepareHardware) [.power .prepare] (some .settled)
          (some .settled) := .single rfl
      exact (chain_gated hprepare atRest_settled).append (.single rfl)
  | releaseHardware =>
      exact (chain_stopOwnedControllers false).append (chain_gated (.single rfl) atRest_settled)
  | targetCleanup => exact chain_stopOwnedControllers true

end Program

end LibVirtualGamepad
