import LibVirtualGamepad.Driver.Generations

-- The calls that create a child, step by step: from the look for an old instance to
-- the publication of the new one.
namespace LibVirtualGamepad

open Interleaving

-- How far a call that creates a child has come.
inductive Creation where
  | asked
  | check
  | enumerate (generation : UInt64)
  | begin (generation : UInt64) (childPresent : Bool)
  | opening
  | vhfCreate
  | finishing

def CreateAct.creation : CreateAct → Creation
  | .check => .check
  | .enumerate generation => .enumerate generation
  | .begin generation childPresent => .begin generation childPresent
  | .targetOpened | .readFile => .opening
  | .vhfCreate => .vhfCreate
  | .publish _ | .start _ | .adopt _ | .release => .finishing

def KeyboardMouseAct.creation : KeyboardMouseAct → Option (File × Creation)
  | .authorize owner .openSource => some (owner, .asked)
  | .openCheck owner => some (owner, .check)
  | .openEnumerate owner generation => some (owner, .enumerate generation)
  | .openBegin owner generation childPresent => some (owner, .begin generation childPresent)
  | .targetOpened owner | .readTarget owner | .allocate owner => some (owner, .opening)
  | .vhfCreate owner _ => some (owner, .vhfCreate)
  | .publish owner _ _ | .start owner _ _ | .adopt owner _ => some (owner, .finishing)
  | _ => none

-- The place, the file and the progress of the call that an act belongs to.
def Act.creation : Act → Option (Place × File × Creation)
  | .create id owner _ act => some (.controller id, owner, act.creation)
  | .keyboardMouse act => act.creation.map fun call => (.keyboardMouse, call)
  | _ => none

-- No step of a creation and none of the keyboard and mouse.
def Act.foreign : Act → Bool
  | .create _ _ _ _ | .keyboardMouse _ => false
  | _ => true

theorem Act.creation_of_foreign {a : Act} (h : a.foreign = true) : a.creation = none := by
  cases a with
  | create _ _ _ _ | keyboardMouse _ => simp [Act.foreign] at h
  | _ => rfl

-- No power transition's either.
def Act.plain : Act → Bool
  | .power _ => false
  | a => a.foreign

theorem Act.foreign_of_plain {a : Act} (h : a.plain = true) : a.foreign = true := by
  cases a <;> first | exact h | rfl

section Leads

variable {d : Device} {regs : Registers} {choice : Choice} {threads : List Task} {k : Operation}
  {o : Effect} {p : Place} {owner : File}

def Device.openFor (d : Device) : Prop := d.powered = true ∧ d.stopping = false

-- What an act of a creation goes on with.
def Creation.Leads (d : Device) (choice : Choice) (p : Place) (next : List Act) (b : Act) :
    Creation → Creation → Prop
  | .asked, .check => next = [b]
  | .check, .enumerate generation => next = [b] ∧ d.generationAt p = generation
  | .enumerate generation, .begin generation' childPresent =>
    next = [.lockLifetime, b, .unlockLifetime] ∧ generation' = generation ∧
      childPresent = choice.childPresent
  | .begin generation childPresent, .opening =>
    next = [.target .check, b] ∧ d.generationAt p = generation ∧ childPresent = false ∧ d.openFor
  | .opening, .opening | .opening, .vhfCreate => next = [b]
  | _, .finishing => True
  | _, _ => False

theorem create_creation {act : CreateAct} {id : ControllerId} {owner' : File} {profile : Profile}
    {progress : Creation}
    (h : (Act.create id owner' profile act).creation = some (p, owner, progress)) :
    p = .controller id ∧ owner = owner' ∧ progress = act.creation := by
  simp only [Act.creation, Option.some.injEq, Prod.mk.injEq] at h
  exact ⟨h.1.symm, h.2.1.symm, h.2.2.symm⟩

theorem keyboardMouse_creation {act : KeyboardMouseAct} {owner' : File} {progress progress' : Creation}
    (hact : act.creation = some (owner', progress'))
    (h : (Act.keyboardMouse act).creation = some (p, owner, progress)) :
    p = .keyboardMouse ∧ owner = owner' ∧ progress = progress' := by
  simp only [Act.creation, hact, Option.map_some, Option.some.injEq, Prod.mk.injEq] at h
  exact ⟨h.1.symm, h.2.1.symm, h.2.2.symm⟩

theorem create_leads {act : CreateAct} {id : ControllerId} {owner' : File} {profile : Profile}
    {b : Act} {progress : Creation}
    (hb : b ∈ (act.exec d regs choice id owner' profile).next)
    (hp : b.creation = some (p, owner, progress)) : p = .controller id ∧ owner = owner' ∧
      act.creation.Leads d choice p (act.exec d regs choice id owner' profile).next b progress := by
  -- What follows in the same call.
  have hcall : ∀ act' : CreateAct, b = .create id owner' profile act' → p = .controller id ∧
      owner = owner' ∧ progress = act'.creation := by
    rintro act' rfl
    exact create_creation hp
  cases act with
  | check =>
      cases hrefused : d.createRefusal id owner' with
      | some status => simp [CreateAct.exec, hrefused, Device.effect] at hb
      | none =>
          simp only [CreateAct.exec, hrefused, Device.effect, List.mem_singleton] at hb ⊢
          obtain ⟨rfl, rfl, rfl⟩ := hcall _ hb
          exact ⟨rfl, rfl, by rw [hb], rfl⟩
  | enumerate generation =>
      simp only [CreateAct.exec, Device.effect, List.mem_cons, List.not_mem_nil, or_false] at hb ⊢
      rcases hb with rfl | hb | rfl
      · simp [Act.creation] at hp
      · obtain ⟨rfl, rfl, rfl⟩ := hcall _ hb
        exact ⟨rfl, rfl, by rw [hb], rfl, rfl⟩
      · simp [Act.creation] at hp
  | «begin» generation childPresent =>
      cases hrefused : d.createRefusal id owner' with
      | some status => simp [CreateAct.exec, hrefused, Device.effect] at hb
      | none =>
          cases hstale : (d.controllers id).control.generation != generation || childPresent with
          | true => simp [CreateAct.exec, hrefused, hstale, Device.effect] at hb
          | false =>
              simp only [CreateAct.exec, hrefused, hstale, Device.effect, targetOpen, List.cons_append,
                List.nil_append, Bool.false_eq_true, if_false, List.mem_cons, List.not_mem_nil,
                or_false] at hb ⊢
              rcases hb with rfl | hb
              · simp [Act.creation] at hp
              · obtain ⟨rfl, rfl, rfl⟩ := hcall _ hb
                simp only [Bool.or_eq_false_iff, bne_eq_false_iff_eq] at hstale
                obtain ⟨hstopping, hpowered, -⟩ := createRefusal_none hrefused
                exact ⟨rfl, rfl, by rw [hb], hstale.1, hstale.2, hpowered, hstopping⟩
  | targetOpened =>
      simp only [CreateAct.exec] at hb ⊢
      split at hb <;> rename_i hopened <;> simp only [hopened, Device.effect, List.mem_singleton] at hb ⊢ <;>
        obtain ⟨rfl, rfl, rfl⟩ := hcall _ hb
      · exact ⟨rfl, rfl, by rw [hb]; rfl⟩
      · exact ⟨rfl, rfl, trivial⟩
  | readFile =>
      simp only [CreateAct.exec] at hb ⊢
      split at hb <;> rename_i hfile <;> simp only [hfile, Device.effect, List.mem_singleton] at hb ⊢ <;>
        obtain ⟨rfl, rfl, rfl⟩ := hcall _ hb
      · exact ⟨rfl, rfl, by rw [hb]; rfl⟩
      · exact ⟨rfl, rfl, trivial⟩
  | vhfCreate =>
      simp only [CreateAct.exec] at hb ⊢
      split at hb <;> rename_i hcreated <;> obtain ⟨rfl, rfl, rfl⟩ := hcall _ (List.mem_singleton.mp hb) <;>
        exact ⟨rfl, rfl, trivial⟩
  | publish handle =>
      obtain ⟨rfl, rfl, rfl⟩ := hcall _ (List.mem_singleton.mp hb)
      exact ⟨rfl, rfl, trivial⟩
  | start handle =>
      obtain ⟨rfl, rfl, rfl⟩ := hcall _ (List.mem_singleton.mp hb)
      exact ⟨rfl, rfl, trivial⟩
  | adopt handle =>
      simp only [CreateAct.exec] at hb ⊢
      split at hb
      · simp [Device.effect] at hb
      · simp only [Device.effect, List.mem_cons, List.not_mem_nil, or_false] at hb
        rcases hb with rfl | rfl | hb
        · simp [Act.creation] at hp
        · simp [Act.creation] at hp
        · obtain ⟨rfl, rfl, rfl⟩ := hcall _ hb
          exact ⟨rfl, rfl, trivial⟩
  | release => simp [CreateAct.exec, Device.effect] at hb

-- The keyboard and mouse's other acts create nothing.
theorem keyboardMouse_creates_nothing {act : KeyboardMouseAct} (hact : act.creation = none)
    (h : act.exec d regs choice = some o) : ∀ b ∈ o.next, b.creation = none := by
  cases act with
  | authorize owner request =>
      simp only [KeyboardMouseAct.exec] at h
      split at h <;> cases h
      · cases request with
        | openSource => simp [KeyboardMouseAct.creation] at hact
        | _ => simp [Device.effect, KeyboardMouseRequest.program, Act.creation, KeyboardMouseAct.creation]
      · simp [Device.effect]
  | detach retain =>
      simp only [KeyboardMouseAct.exec] at h
      split at h <;> cases h
      · intro b hb
        simp only [Device.effect, List.mem_append, List.mem_singleton] at hb
        rcases hb with (hb | hb) | rfl
        · split at hb
          · simp only [List.mem_cons, List.not_mem_nil, or_false] at hb
            rcases hb with rfl | rfl <;> rfl
          · simp at hb
        · split at hb
          · rw [List.mem_singleton.mp hb]
            rfl
          · simp at hb
        · rfl
      · simp [Device.effect, Act.creation, KeyboardMouseAct.creation]
  | openCheck _ | openEnumerate _ _ | openBegin _ _ _ | targetOpened _ | readTarget _ | allocate _
  | vhfCreate _ _ | publish _ _ _ | start _ _ _ | adopt _ _ =>
      simp [KeyboardMouseAct.creation] at hact
  | _ =>
      simp only [KeyboardMouseAct.exec] at h
      repeat' split at h
      all_goals cases h
      all_goals simp [Device.effect, deleteStoppedKeyboardMouse, Act.creation,
        KeyboardMouseAct.creation]

theorem live_openFor {file : File} (h : d.keyboardMouseLive file = true) : d.openFor := by
  simp only [Device.keyboardMouseLive, Bool.and_eq_true, Bool.not_eq_true'] at h
  exact ⟨h.1.2, h.1.1⟩

theorem keyboardMouse_leads {act : KeyboardMouseAct} (h : act.exec d regs choice = some o) {b : Act}
    {progress : Creation} (hb : b ∈ o.next) (hp : b.creation = some (p, owner, progress)) :
    p = .keyboardMouse ∧ ∃ progress', act.creation = some (owner, progress') ∧
      progress'.Leads d choice p o.next b progress := by
  have hcall : ∀ (act' : KeyboardMouseAct) (file : File) (progress' : Creation),
      act'.creation = some (file, progress') → b = .keyboardMouse act' →
        p = .keyboardMouse ∧ owner = file ∧ progress = progress' := by
    rintro act' file progress' hact rfl
    exact keyboardMouse_creation hact hp
  -- A call that ends goes on with nothing of a creation.
  have hends : ∀ acts : List KeyboardMouseAct, (∀ a ∈ acts, a.creation = none) →
      b ∈ acts.map Act.keyboardMouse → False := by
    intro acts hacts hmem
    obtain ⟨a, ha, rfl⟩ := List.mem_map.mp hmem
    simp [Act.creation, hacts a ha] at hp
  cases act with
  | authorize file request =>
      cases request with
      | openSource =>
          simp only [KeyboardMouseAct.exec] at h
          split at h <;> cases h
          · obtain ⟨rfl, rfl, rfl⟩ := hcall _ file .check rfl (List.mem_singleton.mp hb)
            exact ⟨rfl, .asked, rfl, by rw [List.mem_singleton.mp hb]; rfl⟩
          · simp [Device.effect] at hb
      | _ =>
          rw [keyboardMouse_creates_nothing rfl h b hb] at hp
          simp at hp
  | openCheck file =>
      simp only [KeyboardMouseAct.exec] at h
      repeat' split at h
      all_goals cases h
      · simp [Device.effect] at hb
      · simp [Device.effect] at hb
      · obtain ⟨rfl, rfl, rfl⟩ := hcall _ file (.enumerate d.keyboardMouse.generation) rfl
          (List.mem_singleton.mp hb)
        exact ⟨rfl, .check, rfl, by rw [List.mem_singleton.mp hb]; rfl, rfl⟩
  | openEnumerate file generation =>
      cases h
      simp only [Device.effect, List.mem_cons, List.not_mem_nil, or_false] at hb
      rcases hb with rfl | hb | rfl
      · simp [Act.creation] at hp
      · obtain ⟨rfl, rfl, rfl⟩ := hcall _ file (.begin generation choice.childPresent) rfl hb
        exact ⟨rfl, .enumerate generation, rfl, by rw [hb]; rfl, rfl, rfl⟩
      · simp [Act.creation] at hp
  | openBegin file generation childPresent =>
      simp only [KeyboardMouseAct.exec] at h
      split at h
      · cases h
        simp [Device.effect] at hb
      · rename_i hlive
        split at h
        · cases h
          simp [Device.effect] at hb
        · rename_i hfresh
          simp only [Bool.not_eq_true', Bool.not_eq_false] at hlive
          simp only [Bool.not_eq_true, Bool.or_eq_false_iff, bne_eq_false_iff_eq] at hfresh
          split at h <;> cases h
          · simp only [Device.effect, targetOpen, List.cons_append, List.nil_append, List.mem_cons,
              List.not_mem_nil, or_false] at hb
            rcases hb with rfl | hb
            · simp [Act.creation] at hp
            · obtain ⟨rfl, rfl, rfl⟩ := hcall _ file .opening rfl hb
              exact ⟨rfl, .begin generation childPresent, rfl, by rw [hb]; rfl, hfresh.1.1, hfresh.1.2,
                live_openFor hlive⟩
          · exact (hends [.reset] (by simp [KeyboardMouseAct.creation]) hb).elim
  | targetOpened file =>
      simp only [KeyboardMouseAct.exec] at h
      split at h <;> cases h
      · obtain ⟨rfl, rfl, rfl⟩ := hcall _ file .opening rfl (List.mem_singleton.mp hb)
        exact ⟨rfl, .opening, rfl, by rw [List.mem_singleton.mp hb]; rfl⟩
      · exact (hends [.reset] (by simp [KeyboardMouseAct.creation]) hb).elim
  | readTarget file =>
      simp only [KeyboardMouseAct.exec] at h
      split at h <;> cases h
      · obtain ⟨rfl, rfl, rfl⟩ := hcall _ file .opening rfl (List.mem_singleton.mp hb)
        exact ⟨rfl, .opening, rfl, by rw [List.mem_singleton.mp hb]; rfl⟩
      · exact (hends [.reset] (by simp [KeyboardMouseAct.creation]) hb).elim
  | allocate file =>
      simp only [KeyboardMouseAct.exec] at h
      split at h <;> cases h
      · obtain ⟨rfl, rfl, rfl⟩ := hcall _ file .vhfCreate rfl (List.mem_singleton.mp hb)
        exact ⟨rfl, .opening, rfl, by rw [List.mem_singleton.mp hb]; rfl⟩
      · exact (hends [.reset] (by simp [KeyboardMouseAct.creation]) hb).elim
  | vhfCreate file context =>
      simp only [KeyboardMouseAct.exec] at h
      split at h <;> cases h
      · obtain ⟨rfl, rfl, rfl⟩ := hcall _ file .finishing rfl (List.mem_singleton.mp hb)
        exact ⟨rfl, .vhfCreate, rfl, trivial⟩
      · exact (hends [.reset] (by simp [KeyboardMouseAct.creation]) hb).elim
  | publish file context handle =>
      simp only [KeyboardMouseAct.exec] at h
      split at h <;> cases h
      · obtain ⟨rfl, rfl, rfl⟩ := hcall _ file .finishing rfl (List.mem_singleton.mp hb)
        exact ⟨rfl, .finishing, rfl, trivial⟩
      · exact (hends [.drain, .detach false] (by simp [KeyboardMouseAct.creation]) hb).elim
  | start file context handle =>
      cases h
      obtain ⟨rfl, rfl, rfl⟩ := hcall _ file .finishing rfl (List.mem_singleton.mp hb)
      exact ⟨rfl, .finishing, rfl, trivial⟩
  | adopt file context =>
      simp only [KeyboardMouseAct.exec] at h
      split at h <;> cases h
      · simp [Device.effect] at hb
      · exact (hends [.drain, .detach false] (by simp [KeyboardMouseAct.creation]) hb).elim
  | _ =>
      rw [keyboardMouse_creates_nothing rfl h b hb] at hp
      simp at hp

theorem submission_plain {id : ControllerId} {answers : Bool} :
    ∀ b ∈ d.submission id answers, b.plain = true := by
  intro b hb
  obtain ⟨handle, -, rfl⟩ := submission_handle hb
  rfl

theorem deleteAfterSubmits_plain {id : ControllerId} {handle : Handle} :
    ∀ b ∈ deleteAfterSubmits id handle, b.plain = true := by
  simp [deleteAfterSubmits, Act.plain, Act.foreign]

theorem deleteCollected_foreign {handles : ControllerId → Option Handle}
    {after : ControllerId → List Act} (hafter : ∀ id, ∀ b ∈ after id, b.foreign = true) :
    ∀ b ∈ deleteCollected handles after, b.foreign = true := by
  intro b hb
  obtain ⟨id, -, hb⟩ := List.mem_flatMap.mp hb
  split at hb
  · rcases List.mem_append.mp hb with hb | hb
    · exact Act.foreign_of_plain (deleteAfterSubmits_plain b hb)
    · exact hafter id b hb
  · simp at hb

-- A transition that takes over goes on with the deletion of the keyboard and mouse.
theorem power_next (act : PowerAct) : ∃ front back, (act.exec d regs).next = front ++ back ∧
    (front = [] ∨ ∃ retain, front = deleteStoppedKeyboardMouse retain) ∧
      ∀ b ∈ back, b.foreign = true := by
  have hstop : ∀ b ∈ stopKeepalive, b.foreign = true := by simp [stopKeepalive, Act.foreign]
  cases act with
  | stopMark forgetTarget =>
      refine ⟨deleteStoppedKeyboardMouse false, [.power (.stopCollect forgetTarget)], rfl,
        .inr ⟨_, rfl⟩, by simp [Act.foreign]⟩
  | stopCollect forgetTarget =>
      refine ⟨[], _, rfl, .inl rfl, fun b hb => ?_⟩
      rcases List.mem_append.mp hb with hb | hb
      · exact deleteCollected_foreign (by simp [Act.foreign]) b hb
      · exact hstop b hb
  | downMark =>
      refine ⟨deleteStoppedKeyboardMouse true, _, by
        simp only [PowerAct.exec, Device.effect, List.append_assoc]
        rfl, .inr ⟨_, rfl⟩, fun b hb => ?_⟩
      simp only [List.mem_append, List.mem_singleton] at hb
      rcases hb with rfl | hb | hb | rfl
      · rfl
      · exact hstop b hb
      · exact deleteCollected_foreign (by simp) b hb
      · rfl
  | prepare => exact ⟨[], _, rfl, .inl rfl, by simp [Act.foreign]⟩
  | _ => exact ⟨[], [], rfl, .inl rfl, by simp⟩

theorem keepalive_plain {act : KeepaliveAct} (h : act.exec threads d regs choice = some o) :
    ∀ b ∈ o.next, b.plain = true := by
  cases act with
  | tick =>
      cases h
      intro b hb
      rcases List.mem_append.mp hb with hb | hb
      · obtain ⟨id, -, hb⟩ := List.mem_flatMap.mp hb
        split at hb
        · exact submission_plain b hb
        · simp at hb
      · split at hb
        · rw [List.mem_singleton.mp hb]
          rfl
        · simp only [List.mem_cons, List.not_mem_nil, or_false] at hb
          rcases hb with rfl | rfl <;> rfl
  | _ =>
      simp only [KeepaliveAct.exec] at h
      repeat' split at h
      all_goals cases h
      all_goals simp [Device.effect, Act.plain, Act.foreign]

theorem destroy_plain {id : ControllerId} {file : File} (act : DestroyAct) :
    ∀ b ∈ (act.exec d regs id file).next, b.plain = true := by
  intro b hb
  cases act with
  | check =>
      simp only [DestroyAct.exec] at hb
      repeat' split at hb
      · simp [Device.effect] at hb
      · simp [Device.effect] at hb
      · simp only [Device.effect, List.mem_cons, List.not_mem_nil, or_false] at hb
        rcases hb with rfl | rfl | rfl <;> rfl
  | detach =>
      simp only [DestroyAct.exec] at hb
      split at hb
      · simp [Device.effect] at hb
      · split at hb
        · simp [Device.effect] at hb
        · split at hb
          · simp [Device.effect] at hb
          · rcases List.mem_append.mp hb with hb | hb
            · split at hb
              · exact deleteAfterSubmits_plain b hb
              · simp at hb
            · rw [List.mem_singleton.mp hb]
              rfl
  | finish =>
      simp only [DestroyAct.exec] at hb
      split at hb <;> simp [Device.effect] at hb

theorem slot_plain {id : ControllerId} (r : StepResult) :
    ∀ b ∈ d.nextActs id r, b.plain = true := by
  intro b hb
  rcases List.mem_append.mp hb with hb | hb
  · rcases List.mem_append.mp hb with hb | hb
    · have hstart : ∀ c ∈ startKeepalive, c.plain = true := by simp [startKeepalive, Act.plain, Act.foreign]
      split at hb
      · exact hstart b hb
      · simp at hb
    · split at hb
      · exact submission_plain b hb
      · simp at hb
  · obtain ⟨step, -, rfl⟩ := List.mem_map.mp hb
    rfl

def Act.isCreate : Act → Bool
  | .create _ _ _ _ => true
  | _ => false

def Act.isKeyboardMouse : Act → Bool
  | .keyboardMouse _ => true
  | _ => false

def Act.isPower : Act → Bool
  | .power _ => true
  | _ => false

-- What belongs to no creation, no transition and not to the keyboard and mouse goes on
-- with none of them.
theorem plain_next {a : Act} (hc : a.isCreate = false) (hk : a.isKeyboardMouse = false)
    (hp : a.isPower = false) (h : a.exec threads d k regs choice = some o) :
    ∀ b ∈ o.next, b.plain = true := by
  cases a with
  | create id owner' profile act => simp [Act.isCreate] at hc
  | keyboardMouse act => simp [Act.isKeyboardMouse] at hk
  | lockLifetime =>
      simp only [Act.exec] at h
      split at h <;> cases h
      simp [Device.effect]
  | unlockLifetime | reply status output | deleteBegin handle =>
      cases h
      simp [Device.effect]
  | slot id step =>
      cases h
      exact slot_plain _
  | submitEnter id handle answers | submitLeave id handle answers =>
      cases h
      simp [Device.effect, Act.plain, Act.foreign]
  | waitForSubmits id =>
      simp only [Act.exec] at h
      split at h <;> cases h
      simp [Device.effect]
  | deleteEnd handle =>
      simp only [Act.exec] at h
      split at h <;> cases h
      simp [Device.effect]
  | target act =>
      cases h
      cases act <;> simp only [TargetAct.exec] <;> (repeat' split) <;> simp [Device.effect, Act.plain, Act.foreign]
  | destroy id file act =>
      cases h
      exact destroy_plain act
  | power act => simp [Act.isPower] at hp
  | keepalive act => exact keepalive_plain h

theorem create_next {act : CreateAct} {id : ControllerId} {owner' : File} {profile : Profile} :
    (∀ b ∈ (act.exec d regs choice id owner' profile).next, b.isKeyboardMouse = false) ∧
      (act.exec d regs choice id owner' profile).spawn = [] := by
  cases act <;> simp only [CreateAct.exec] <;> (repeat' split) <;>
    simp [Device.effect, Act.isKeyboardMouse, targetOpen]

-- An act of a creation comes from the one before it in the same call.
theorem creation_leads {a b : Act} (h : a.exec threads d k regs choice = some o)
    {progress : Creation} (hb : b ∈ o.next) (hp : b.creation = some (p, owner, progress)) :
    ∃ progress', a.creation = some (p, owner, progress') ∧
      progress'.Leads d choice p o.next b progress := by
  cases hc : a.isCreate with
  | true =>
      cases a with
      | create id owner' profile act =>
          cases h
          obtain ⟨rfl, rfl, hleads⟩ := create_leads hb hp
          exact ⟨act.creation, rfl, hleads⟩
      | _ => simp [Act.isCreate] at hc
  | false =>
      cases hk : a.isKeyboardMouse with
      | true =>
          cases a with
          | keyboardMouse act =>
              obtain ⟨rfl, progress', hact, hleads⟩ := keyboardMouse_leads h hb hp
              exact ⟨progress', by simp [Act.creation, hact], hleads⟩
          | _ => simp [Act.isKeyboardMouse] at hk
      | false =>
          exfalso
          cases hpower : a.isPower with
          | true =>
              cases a with
              | power act =>
                  cases h
                  obtain ⟨front, back, hnext, hfront, hback⟩ := @power_next d regs act
                  rw [hnext] at hb
                  rcases List.mem_append.mp hb with hb | hb
                  · rcases hfront with rfl | ⟨retain, rfl⟩
                    · simp at hb
                    · simp only [deleteStoppedKeyboardMouse, List.mem_cons, List.not_mem_nil,
                        or_false] at hb
                      rcases hb with rfl | rfl <;> simp [Act.creation, KeyboardMouseAct.creation] at hp
                  · rw [Act.creation_of_foreign (hback b hb)] at hp
                    simp at hp
              | _ => simp [Act.isPower] at hpower
          | false =>
              rw [Act.creation_of_foreign (Act.foreign_of_plain (plain_next hc hk hpower h b hb))] at hp
              simp at hp

end Leads

end LibVirtualGamepad
