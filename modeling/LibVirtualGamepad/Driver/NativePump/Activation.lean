import LibVirtualGamepad.Driver.NativePump.Exclusion

-- What becomes of an activation: the slot's fields that name it, its callbacks' context
-- and its child.
namespace LibVirtualGamepad

open Interleaving

-- All of a context but who is inside.
def CallbackContext.identity (c : CallbackContext) : UInt64 × Bool × Bool :=
  (c.generation, c.retired, c.freed)

-- Nothing that tells one activation from another or from its end.
structure SameActivation (d d' : Device) : Prop where
  vhf : d'.keyboardMouse.vhf = d.keyboardMouse.vhf
  callbackContext : d'.keyboardMouse.callbackContext = d.keyboardMouse.callbackContext
  generation : d'.keyboardMouse.generation = d.keyboardMouse.generation
  owner : d'.keyboardMouse.owner = d.keyboardMouse.owner
  state : d'.keyboardMouse.state = d.keyboardMouse.state
  rundownStopping : d'.keyboardMouse.rundownStopping = d.keyboardMouse.rundownStopping
  contexts : ∀ c : Nat, (d'.contexts[c]?).map CallbackContext.identity =
    (d.contexts[c]?).map CallbackContext.identity

def KeyboardMouseAct.changes : KeyboardMouseAct → Bool
  | .openBegin _ _ _ | .allocate _ | .vhfCreate _ _ | .publish _ _ _ | .adopt _ _ | .reset
  | .detach _ | .release _ _ | .close _ | .abort _ | .cleanupStop _ => true
  | _ => false

-- The acts that open an activation or bring it nearer to its end.
def Act.changes : Act → Bool
  | .keyboardMouse act => act.changes
  | a => a.takesOver

section Exec

variable {d : Device} {regs : Registers} {choice : Choice} {threads : List Task} {k : Operation}
  {o : Effect} {a : Act}

theorem SameActivation.of_eq {d' : Device} (hslot : d'.keyboardMouse = d.keyboardMouse)
    (hcontexts : d'.contexts = d.contexts) : SameActivation d d' := by
  constructor <;> first | rw [hslot] | (intro c; rw [hcontexts])

theorem sameActivation_mapContext (context : Nat) {f : CallbackContext → CallbackContext}
    (hf : ∀ c, (f c).identity = c.identity) : SameActivation d (d.mapContext context f) := by
  refine ⟨rfl, rfl, rfl, rfl, rfl, rfl, fun c => ?_⟩
  simp only [Device.mapContext, List.getElem?_modify]
  cases hc : d.contexts[c]? with
  | none => rfl
  | some x =>
      by_cases hcontext : context = c
      · simp [hcontext, hf]
      · simp [hcontext]

theorem keyboardMouse_sameActivation {act : KeyboardMouseAct} (hact : act.changes = false)
    (h : act.exec d regs choice = some o) : SameActivation d o.shared := by
  cases act with
  | readyEnter context | readyExit context =>
      cases h
      exact sameActivation_mapContext context fun c => rfl
  | openBegin | allocate | vhfCreate | publish | adopt | reset | detach | release | close | abort
  | cleanupStop => simp [KeyboardMouseAct.changes] at hact
  | _ =>
      simp only [KeyboardMouseAct.exec] at h
      repeat' split at h
      all_goals cases h
      all_goals exact ⟨rfl, rfl, rfl, rfl, rfl, rfl, fun _ => rfl⟩

-- The act is no step of the keyboard and mouse's and takes nothing over.
theorem other_slot (ha : a.isKeyboardMouse = false) (hover : a.takesOver = false)
    (h : a.exec threads d k regs choice = some o) :
    o.shared.keyboardMouse = d.keyboardMouse ∧ o.shared.contexts = d.contexts ∧
      o.shared.cleanupStarted = d.cleanupStarted := by
  by_cases hmanages : a.manages = true
  · cases a with
    | create id owner profile act =>
        cases h
        exact ⟨(create_only act).keyboardMouse.slot, (create_only act).keyboardMouse.contexts,
          (create_only act).keyboardMouse.cleanupStarted⟩
    | destroy id owner act =>
        cases h
        exact ⟨(destroy_only act).keyboardMouse.slot, (destroy_only act).keyboardMouse.contexts,
          (destroy_only act).keyboardMouse.cleanupStarted⟩
    | power act =>
        cases h
        cases act <;> first | exact ⟨rfl, rfl, rfl⟩ | simp [Act.takesOver] at hover
    | keyboardMouse act => simp [Act.isKeyboardMouse] at ha
    | _ => simp [Act.manages] at hmanages
  · have hsame := (Act.control_of_not_manages (Bool.not_eq_true _ ▸ hmanages) h).keyboardMouse
    exact ⟨hsame.slot, hsame.contexts, hsame.cleanupStarted⟩

theorem sameActivation_of_not_changes (ha : a.changes = false)
    (h : a.exec threads d k regs choice = some o) : SameActivation d o.shared := by
  cases hkm : a.isKeyboardMouse with
  | true =>
      obtain ⟨act, rfl⟩ := keyboardMouse_of_isKeyboardMouse hkm
      exact keyboardMouse_sameActivation ha h
  | false =>
      have hover : a.takesOver = false := by
        cases a <;> first | exact ha | simp [Act.isKeyboardMouse] at hkm
      obtain ⟨hslot, hcontexts, -⟩ := other_slot hkm hover h
      exact .of_eq hslot hcontexts

-- Without the gate no activation is changed and no child is touched.
theorem not_changes_of_ungated {m₁ : Option Mode} (h : a.spec k none m₁) : a.changes = false := by
  cases a with
  | keyboardMouse act =>
      cases act with
      | openBegin | allocate | vhfCreate | publish | abort | cleanupStop | close =>
          exact absurd h.1 (by simp)
      | adopt | reset =>
          refine absurd h fun h => ?_
          obtain ⟨_, h, -⟩ := h
          simp at h
      | detach | release =>
          refine absurd h fun h => ?_
          obtain ⟨_, _, h, -⟩ := h
          simp at h
      | _ => rfl
  | power act =>
      cases act with
      | stopMark | downMark => exact absurd h.1 (by simp)
      | _ => rfl
  | _ => rfl

-- The children stay what they are, and only VhfDelete's return counts against one.
structure Kin (d d' : Device) (a : Act) : Prop where
  forward : ∀ (h : Handle) (child : Child), d.children[h]? = some child →
    ∃ child', d'.children[h]? = some child' ∧ child'.place = child.place ∧
      child'.context = child.context ∧ (child'.deleteReturns = child.deleteReturns ∨
        (a = .deleteEnd h ∧ child'.deleteReturns = child.deleteReturns + 1))
  backward : ∀ (h : Handle) (child' : Child), d'.children[h]? = some child' →
    (∃ child, d.children[h]? = some child) ∨ (child'.deleteReturns = 0 ∧ (child'.context = none ∨
      (child'.place = .keyboardMouse ∧
        ∃ owner c, a = .keyboardMouse (.vhfCreate owner c) ∧ child'.context = some c)))

theorem kin_of_eq {d' : Device} (h : d'.children = d.children) : Kin d d' a := by
  refine ⟨fun handle child hchild => ⟨child, h ▸ hchild, rfl, rfl, .inl rfl⟩, fun handle child hchild => ?_⟩
  rw [h] at hchild
  exact .inl ⟨child, hchild⟩

theorem kin_setChild {d' : Device} {handle : Handle} {f : Child → Child}
    (h : d'.children = (d.setChild handle f).children) (hplace : ∀ c, (f c).place = c.place)
    (hcontext : ∀ c, (f c).context = c.context)
    (hreturns : ∀ c, (f c).deleteReturns = c.deleteReturns ∨
      (a = .deleteEnd handle ∧ (f c).deleteReturns = c.deleteReturns + 1)) : Kin d d' a := by
  refine ⟨fun i child hchild => ?_, fun i child' hchild => .inl ?_⟩
  · by_cases hi : handle = i
    · refine ⟨f child, ?_, hplace child, hcontext child, ?_⟩
      · simp [h, Device.setChild, hchild, hi]
      · exact hi ▸ hreturns child
    · refine ⟨child, ?_, rfl, rfl, .inl rfl⟩
      simp [h, Device.setChild, hchild, hi]
  · cases hbefore : d.children[i]? with
    | some child => exact ⟨child, rfl⟩
    | none =>
        rw [h] at hchild
        simp [Device.setChild, List.getElem?_modify, hbefore] at hchild

theorem kin_addChild {d' : Device} {place : Place} {context : Option Nat}
    (h : d'.children = (d.addChild place context).children)
    (hcontext : ∀ c, context = some c →
      place = .keyboardMouse ∧ ∃ owner, a = .keyboardMouse (.vhfCreate owner c)) : Kin d d' a := by
  refine ⟨fun i child hchild => ⟨child, ?_, rfl, rfl, .inl rfl⟩, fun i child' hchild => ?_⟩
  · have hlt := (List.getElem?_eq_some_iff.mp hchild).1
    rw [h, ← hchild]
    exact List.getElem?_append_left hlt
  · rw [h] at hchild
    by_cases hlt : i < d.children.length
    · exact .inl ⟨_, List.getElem?_eq_getElem hlt⟩
    · simp only [Device.addChild] at hchild
      rw [List.getElem?_append_right (Nat.le_of_not_lt hlt)] at hchild
      have hnew := List.mem_singleton.mp (List.mem_of_getElem? hchild)
      rw [hnew]
      refine .inr ⟨rfl, ?_⟩
      cases context with
      | none => exact .inl rfl
      | some c =>
          obtain ⟨hplace, owner, ha⟩ := hcontext c rfl
          exact .inr ⟨hplace, owner, c, ha, rfl⟩

theorem children_retireContext (context : Option Nat) :
    (d.retireContext context).children = d.children := by
  cases context <;> rfl

theorem children_freeContext (context : Option Nat) :
    (d.freeContext context).children = d.children := by
  cases context <;> rfl

theorem children_stopAdmission : d.stopKeyboardMouseAdmission.children = d.children := by
  unfold Device.stopKeyboardMouseAdmission
  dsimp only
  split
  · rfl
  · exact children_retireContext _

theorem keyboardMouse_kin {act : KeyboardMouseAct} (h : act.exec d regs choice = some o) :
    Kin d o.shared (.keyboardMouse act) := by
  cases act with
  | vhfCreate owner context =>
      simp only [KeyboardMouseAct.exec] at h
      split at h <;> cases h
      · exact kin_addChild rfl fun c hc => ⟨rfl, owner, by rw [Option.some.inj hc]⟩
      · exact kin_of_eq (children_freeContext _)
  | start owner context handle =>
      cases h
      exact kin_setChild rfl (fun _ => rfl) (fun _ => rfl) fun _ => .inl rfl
  | release lostOwner context =>
      cases h
      refine kin_of_eq ((children_freeContext _).trans ?_)
      split <;> rfl
  | _ =>
      simp only [KeyboardMouseAct.exec] at h
      repeat' split at h
      all_goals cases h
      all_goals first
        | exact kin_of_eq rfl
        | exact kin_of_eq children_stopAdmission

theorem exec_kin (h : a.exec threads d k regs choice = some o) : Kin d o.shared a := by
  cases a with
  | lockLifetime =>
      simp only [Act.exec] at h
      split at h <;> cases h
      exact kin_of_eq rfl
  | waitForSubmits id =>
      simp only [Act.exec] at h
      split at h <;> cases h
      exact kin_of_eq rfl
  | slot id step =>
      cases h
      exact kin_of_eq (afterSection_eq d id _ _).2.2.2
  | deleteBegin handle =>
      cases h
      exact kin_setChild rfl (fun _ => rfl) (fun _ => rfl) fun _ => .inl rfl
  | deleteEnd handle =>
      simp only [Act.exec] at h
      split at h <;> cases h
      exact kin_setChild rfl (fun _ => rfl) (fun _ => rfl) fun _ => .inr ⟨rfl, rfl⟩
  | target act =>
      cases h
      refine kin_of_eq ?_
      cases act <;> simp only [TargetAct.exec] <;> (repeat' split) <;> rfl
  | create id owner profile act =>
      cases h
      cases act with
      | vhfCreate =>
          simp only [CreateAct.exec]
          split
          · exact kin_addChild rfl fun c hc => by simp at hc
          · exact kin_of_eq rfl
      | start handle => exact kin_setChild rfl (fun _ => rfl) (fun _ => rfl) fun _ => .inl rfl
      | release =>
          refine kin_of_eq ?_
          simp only [CreateAct.exec, Device.effect, Device.releaseStartingSlot]
          split <;> rfl
      | _ =>
          refine kin_of_eq ?_
          simp only [CreateAct.exec]
          repeat' split
          all_goals rfl
  | destroy id owner act =>
      cases h
      refine kin_of_eq ?_
      cases act <;> simp only [DestroyAct.exec] <;> (repeat' split) <;> rfl
  | power act =>
      cases h
      cases act with
      | stopMark forgetTarget | downMark => exact kin_of_eq (children_stopAdmission (d := d.stopTimer))
      | _ => exact kin_of_eq rfl
  | keepalive act =>
      refine kin_of_eq ?_
      cases act with
      | tick =>
          cases h
          exact (keepaliveTick_eq d _).2.2.2
      | _ =>
          simp only [Act.exec, KeepaliveAct.exec] at h
          repeat' split at h
          all_goals cases h
          all_goals rfl
  | keyboardMouse act => exact keyboardMouse_kin h
  | _ =>
      cases h
      exact kin_of_eq rfl

end Exec

end LibVirtualGamepad
