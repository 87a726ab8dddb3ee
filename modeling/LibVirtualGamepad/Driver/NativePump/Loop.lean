import LibVirtualGamepad.Driver.Creation

-- The keyboard and mouse's pump: one loop at a time, which has the child to itself.
namespace LibVirtualGamepad

open Interleaving

-- The acts of a running loop, and those of them inside VhfReadReportSubmit.
def KeyboardMouseAct.pumping : KeyboardMouseAct → Bool
  | .pumpTake _ | .submitEnter _ _ | .submitLeave _ _ => true
  | _ => false

def KeyboardMouseAct.submitting : KeyboardMouseAct → Bool
  | .submitEnter _ _ | .submitLeave _ _ => true
  | _ => false

-- The activation that a loop runs for, none in a request.
def KeyboardMouseAct.loopContext : KeyboardMouseAct → Option Nat
  | .pumpTake context | .submitEnter _ context | .submitLeave _ context => context
  | _ => none

def Act.pumping : Act → Bool
  | .keyboardMouse act => act.pumping
  | _ => false

def Act.submitting : Act → Bool
  | .keyboardMouse act => act.submitting
  | _ => false

-- The child is detached after the pump was drained, its activation's context freed
-- after the entries were.
def Act.Precedes (a b : Act) : Prop :=
  (∀ retain, b = .keyboardMouse (.detach retain) → a = .keyboardMouse .drain) ∧
    ∀ lost context, b = .keyboardMouse (.release lost (some context)) →
      a = .keyboardMouse (.drainEntries context)

-- Acts that may stand anywhere.
def Act.unordered : Act → Bool
  | .keyboardMouse (.detach _) | .keyboardMouse (.release _ (some _)) => false
  | _ => true

abbrev Ordered (todo : List Act) : Prop := todo.IsChain Act.Precedes

theorem precedes_of_unordered {a b : Act} (h : b.unordered = true) : a.Precedes b := by
  refine ⟨fun retain hb => ?_, fun lost context hb => ?_⟩
  · rw [hb] at h
    simp [Act.unordered] at h
  · rw [hb] at h
    simp [Act.unordered] at h

theorem ordered_of_unordered {todo : List Act} (h : ∀ a ∈ todo, a.unordered = true) : Ordered todo := by
  induction todo with
  | nil => exact .nil
  | cons a rest ih =>
      cases rest with
      | nil => exact .singleton a
      | cons b rest =>
          refine .cons_cons (precedes_of_unordered (h b (by simp))) (ih fun c hc => h c (by simp [hc]))

theorem ordered_deleteStopped (retain : Bool) : Ordered (deleteStoppedKeyboardMouse retain) :=
  .cons_cons ⟨fun _ _ => rfl, fun _ _ hb => by simp at hb⟩ (.singleton _)

-- A list that does not end in the middle of a pair.
theorem Ordered.append {xs ys : List Act} (hx : Ordered xs) (hy : Ordered ys)
    (hhead : ∀ b, ys.head? = some b → b.unordered = true) : Ordered (xs ++ ys) :=
  List.isChain_append.mpr ⟨hx, hy, fun _ _ b hb => precedes_of_unordered (hhead b hb)⟩

-- What an act puts in front of its thread is ordered and starts no pair's second half.
structure Fronts (next : List Act) : Prop where
  ordered : Ordered next
  head : ∀ b, next.head? = some b → b.unordered = true

theorem fronts_of_unordered {next : List Act} (h : ∀ a ∈ next, a.unordered = true) : Fronts next :=
  ⟨ordered_of_unordered h, fun b hb => h b (List.mem_of_mem_head? hb)⟩

theorem fronts_deleteStopped (retain : Bool) {back : List Act} (h : ∀ a ∈ back, a.unordered = true) :
    Fronts (deleteStoppedKeyboardMouse retain ++ back) := by
  refine ⟨(ordered_deleteStopped retain).append (ordered_of_unordered h) fun b hb =>
    h b (List.mem_of_mem_head? hb), fun b hb => ?_⟩
  obtain rfl := Option.some.inj hb
  rfl

theorem Fronts.cons_list {xs ys : List Act} (hx : ∀ a ∈ xs, a.unordered = true) (hy : Fronts ys) :
    Fronts (xs ++ ys) := by
  refine ⟨(ordered_of_unordered hx).append hy.ordered hy.head, fun b hb => ?_⟩
  cases xs with
  | nil => exact hy.head b hb
  | cons a rest =>
      obtain rfl := Option.some.inj hb
      exact hx a (by simp)

theorem unordered_of_foreign {a : Act} (h : a.foreign = true) : a.unordered = true := by
  cases a with
  | keyboardMouse act => simp [Act.foreign] at h
  | _ => rfl

section Next

variable {d : Device} {regs : Registers} {choice : Choice} {threads : List Task} {k : Operation}
  {o : Effect} {a : Act}

-- Outside the keyboard and mouse no act leads into it but to delete what was stopped.
theorem other_next (ha : a.isKeyboardMouse = false) (h : a.exec threads d k regs choice = some o) :
    Fronts o.next ∧ ∀ b ∈ o.next, b.isKeyboardMouse = true →
      b = .keyboardMouse .drain ∨ ∃ retain, b = .keyboardMouse (.detach retain) := by
  have hforeign : ∀ b : Act, b.foreign = true → b.isKeyboardMouse = false := by
    intro b hb
    cases b with
    | keyboardMouse act => simp [Act.foreign] at hb
    | _ => rfl
  cases hc : a.isCreate with
  | true =>
      cases a with
      | create id owner profile act =>
          cases h
          have hnext := (@create_next d regs choice act id owner profile).1
          refine ⟨fronts_of_unordered fun b hb => ?_, fun b hb hkm => ?_⟩
          · cases b with
            | keyboardMouse act => exact absurd (hnext _ hb) (by simp [Act.isKeyboardMouse])
            | _ => rfl
          · rw [hnext b hb] at hkm
            simp at hkm
      | _ => simp [Act.isCreate] at hc
  | false =>
      cases hp : a.isPower with
      | true =>
          cases a with
          | power act =>
              cases h
              obtain ⟨front, back, hnext, hfront, hback⟩ := @power_next d regs act
              have hunordered := fun b hb => unordered_of_foreign (hback b hb)
              rw [hnext]
              refine ⟨?_, fun b hb hkm => ?_⟩
              · rcases hfront with rfl | ⟨retain, rfl⟩
                · exact fronts_of_unordered hunordered
                · exact fronts_deleteStopped retain hunordered
              · rcases List.mem_append.mp hb with hb | hb
                · rcases hfront with rfl | ⟨retain, rfl⟩
                  · simp at hb
                  · simp only [deleteStoppedKeyboardMouse, List.mem_cons, List.not_mem_nil,
                      or_false] at hb
                    rcases hb with rfl | rfl
                    · exact .inl rfl
                    · exact .inr ⟨retain, rfl⟩
                · rw [hforeign b (hback b hb)] at hkm
                  simp at hkm
          | _ => simp [Act.isPower] at hp
      | false =>
          have hnext := fun b hb => Act.foreign_of_plain (plain_next hc ha hp h b hb)
          refine ⟨fronts_of_unordered fun b hb => unordered_of_foreign (hnext b hb), fun b hb hkm => ?_⟩
          rw [hforeign b (hnext b hb)] at hkm
          simp at hkm

theorem keyboardMouse_fronts {act : KeyboardMouseAct} (h : act.exec d regs choice = some o) :
    Fronts o.next := by
  cases act with
  | detach retain =>
      simp only [KeyboardMouseAct.exec] at h
      split at h <;> cases h
      · refine List.append_assoc _ _ _ ▸ Fronts.cons_list (fun b hb => ?_) ?_
        · split at hb
          · simp only [List.mem_cons, List.not_mem_nil, or_false] at hb
            rcases hb with rfl | rfl <;> rfl
          · simp at hb
        · cases d.keyboardMouse.callbackContext with
          | none => exact fronts_of_unordered (by simp [Act.unordered])
          | some context =>
              -- The context is freed right behind the wait for its entries.
              refine ⟨.cons_cons ⟨fun _ hb => by simp at hb, fun _ _ hb => ?_⟩ (.singleton _),
                fun b hb => ?_⟩
              · simp only [Act.keyboardMouse.injEq, KeyboardMouseAct.release.injEq,
                  Option.some.injEq] at hb
                rw [hb.2]
              · obtain rfl := Option.some.inj hb
                rfl
      · exact fronts_of_unordered (by simp [Device.effect, Act.unordered])
  | authorize owner request =>
      simp only [KeyboardMouseAct.exec] at h
      split at h <;> cases h
      · cases request <;> exact fronts_of_unordered (by
          simp [Device.effect, KeyboardMouseRequest.program, Act.unordered])
      · exact fronts_of_unordered (by simp [Device.effect])
  | pumpTake context =>
      simp only [KeyboardMouseAct.exec] at h
      split at h <;> cases h
      · cases d.keyboardMouse.vhf <;>
          exact fronts_of_unordered (by simp [Device.effect, Act.unordered])
      · exact fronts_of_unordered (by simp [Device.effect])
  | cleanupStop owner =>
      simp only [KeyboardMouseAct.exec] at h
      split at h <;> cases h
      · simp only [Device.effect]
        split
        · exact ⟨ordered_deleteStopped false, fun b hb => by obtain rfl := Option.some.inj hb; rfl⟩
        · exact fronts_of_unordered (by simp)
      · exact fronts_of_unordered (by simp [Device.effect])
  | submit owner request | close owner =>
      simp only [KeyboardMouseAct.exec] at h
      repeat' split at h
      all_goals cases h
      all_goals first
        | exact fronts_deleteStopped _ (by simp [Act.unordered])
        | exact fronts_of_unordered (by simp [Device.effect, Act.unordered])
  | publish owner context handle | adopt owner context | abort owner =>
      simp only [KeyboardMouseAct.exec] at h
      repeat' split at h
      all_goals cases h
      all_goals first
        | exact ⟨ordered_deleteStopped false, fun b hb => by obtain rfl := Option.some.inj hb; rfl⟩
        | exact fronts_of_unordered (by simp [Device.effect, Act.unordered])
  | _ =>
      simp only [KeyboardMouseAct.exec] at h
      repeat' split at h
      all_goals cases h
      all_goals exact fronts_of_unordered (by simp [Device.effect, Act.unordered, targetOpen])

-- The flags and counters that the loops share with a stop.
structure SameLoop (d d' : Device) : Prop where
  pumpActive : d'.keyboardMouse.pumpActive = d.keyboardMouse.pumpActive
  submitOwners : d'.keyboardMouse.submitOwners = d.keyboardMouse.submitOwners
  vhf : d'.keyboardMouse.vhf = d.keyboardMouse.vhf
  callbackContext : d'.keyboardMouse.callbackContext = d.keyboardMouse.callbackContext

theorem SameLoop.of_eq {d' : Device} (h : d'.keyboardMouse = d.keyboardMouse) : SameLoop d d' := by
  constructor <;> rw [h]

theorem sameLoop_stopAdmission : SameLoop d d.stopKeyboardMouseAdmission := by
  unfold Device.stopKeyboardMouseAdmission
  dsimp only
  split <;> exact ⟨rfl, rfl, rfl, rfl⟩

-- The acts that run a loop, and those that may only run when none does.
def KeyboardMouseAct.running : KeyboardMouseAct → Bool
  | .pumpEnter _ | .pumpTake _ | .submitEnter _ _ | .submitLeave _ _ => true
  | _ => false

def KeyboardMouseAct.quiescent : KeyboardMouseAct → Bool
  | .openBegin _ _ _ | .publish _ _ _ | .reset | .detach _ | .release _ _ => true
  | _ => false

theorem keyboardMouse_calm {act : KeyboardMouseAct} (hrun : act.running = false)
    (hquiet : act.quiescent = false) (h : act.exec d regs choice = some o) : SameLoop d o.shared := by
  cases act <;> simp only [KeyboardMouseAct.running, KeyboardMouseAct.quiescent, Bool.true_eq_false] at hrun hquiet <;>
    simp only [KeyboardMouseAct.exec] at h <;> (repeat' split at h) <;> cases h <;>
    first
      | exact ⟨rfl, rfl, rfl, rfl⟩
      | exact sameLoop_stopAdmission

-- No act begins in the middle of a loop but those of the loop itself.
theorem keyboardMouse_not_pumping {act : KeyboardMouseAct} (hrun : act.running = false)
    (h : act.exec d regs choice = some o) : ∀ b ∈ o.next, b.pumping = false := by
  cases act with
  | authorize owner request =>
      simp only [KeyboardMouseAct.exec] at h
      split at h <;> cases h
      · cases request <;> simp [Device.effect, KeyboardMouseRequest.program, Act.pumping,
          KeyboardMouseAct.pumping]
      · simp [Device.effect]
  | detach retain =>
      simp only [KeyboardMouseAct.exec] at h
      split at h <;> cases h
      · cases d.keyboardMouse.vhf <;> cases d.keyboardMouse.callbackContext <;>
          simp [Device.effect, Act.pumping, KeyboardMouseAct.pumping]
      · simp [Device.effect, Act.pumping, KeyboardMouseAct.pumping]
  | cleanupStop owner =>
      simp only [KeyboardMouseAct.exec] at h
      split at h <;> cases h
      · simp only [Device.effect]
        split <;> simp [deleteStoppedKeyboardMouse, Act.pumping, KeyboardMouseAct.pumping]
      · simp [Device.effect]
  | pumpEnter _ | pumpTake _ | submitEnter _ _ | submitLeave _ _ =>
      simp [KeyboardMouseAct.running] at hrun
  | _ =>
      simp only [KeyboardMouseAct.exec] at h
      repeat' split at h
      all_goals cases h
      all_goals simp [Device.effect, deleteStoppedKeyboardMouse, targetOpen, Act.pumping,
        KeyboardMouseAct.pumping]

-- The acts that replace a slot start no loop.
structure StaysIdle (d d' : Device) : Prop where
  pumpActive : d.keyboardMouse.pumpActive = false → d'.keyboardMouse.pumpActive = false
  submitOwners : d.keyboardMouse.submitOwners = 0 → d'.keyboardMouse.submitOwners = 0

theorem SameLoop.staysIdle {d' : Device} (h : SameLoop d d') : StaysIdle d d' :=
  ⟨fun hidle => h.pumpActive.trans hidle, fun hzero => h.submitOwners.trans hzero⟩

theorem keyboardMouse_quiescent {act : KeyboardMouseAct} (hquiet : act.quiescent = true)
    (h : act.exec d regs choice = some o) : StaysIdle d o.shared := by
  cases act with
  | openBegin owner generation childPresent =>
      simp only [KeyboardMouseAct.exec] at h
      repeat' split at h
      all_goals cases h
      all_goals first | exact ⟨id, id⟩ | exact ⟨fun _ => rfl, fun _ => rfl⟩
  | publish owner context handle =>
      simp only [KeyboardMouseAct.exec] at h
      split at h <;> cases h
      · exact ⟨id, id⟩
      · have hsame := sameLoop_stopAdmission (d := d.setKeyboardMouse
          { d.keyboardMouse with callbackContext := some context, vhf := some handle })
        exact ⟨hsame.staysIdle.pumpActive, hsame.staysIdle.submitOwners⟩
  | reset =>
      cases h
      exact ⟨fun _ => rfl, fun _ => rfl⟩
  | detach retain =>
      simp only [KeyboardMouseAct.exec] at h
      split at h <;> cases h <;> exact ⟨id, id⟩
  | release lostOwner context =>
      cases h
      have hfree : ∀ d' : Device, (d'.freeContext context).keyboardMouse = d'.keyboardMouse := by
        intro d'
        cases context <;> rfl
      split
      · refine ⟨fun _ => ?_, fun _ => ?_⟩ <;>
          simp only [Device.effect, hfree, Device.setKeyboardMouse, KeyboardMouseSlot.released] <;>
          (repeat' split) <;> rfl
      · refine ⟨fun h => ?_, fun h => ?_⟩ <;> simpa only [Device.effect, hfree] using h
  | _ => simp [KeyboardMouseAct.quiescent] at hquiet

-- Any other act leaves the loops alone.
theorem other_loop (ha : a.isKeyboardMouse = false) (h : a.exec threads d k regs choice = some o) :
    SameLoop d o.shared := by
  by_cases hmanages : a.manages = true
  · cases a with
    | create id owner profile act =>
        cases h
        exact .of_eq (create_only act).keyboardMouse.slot
    | destroy id owner act =>
        cases h
        exact .of_eq (destroy_only act).keyboardMouse.slot
    | power act =>
        cases h
        cases act with
        | stopMark forgetTarget | downMark =>
            have hsame := sameLoop_stopAdmission (d := d.stopTimer)
            exact ⟨hsame.pumpActive, hsame.submitOwners, hsame.vhf, hsame.callbackContext⟩
        | _ => exact ⟨rfl, rfl, rfl, rfl⟩
    | keyboardMouse act => simp [Act.isKeyboardMouse] at ha
    | _ => simp [Act.manages] at hmanages
  · exact .of_eq (Act.control_of_not_manages (Bool.not_eq_true _ ▸ hmanages) h).keyboardMouse.slot

end Next

end LibVirtualGamepad
