import LibVirtualGamepad.Linux.Ds5Gadget
import LibVirtualGamepad.Ownership

-- A created slot belongs to one open file, as long as no file creates a second one.
namespace LibVirtualGamepad.Ds5Gadget

open Ownership

-- A CREATE that is not refused.
def Create.admitted (create : Create) (slots : Slots) : Bool :=
  if h : create.slot.toNat < slotCount then
    let slot := slots ⟨create.slot.toNat, h⟩
    !slot.created && slot.gadget.isSome
  else
    false

-- The file has a slot, and takes another one in its place.
def abandons (st : State) : Op → Bool
  | .onFile file (.ioctl (.create (some create))) =>
    (st.files file).join.isSome && create.admitted st.slots
  | _ => false

def clean : State → List Op → Bool
  | _, [] => true
  | st, op :: rest => !abandons st op && clean (step st op) rest

structure Owned (st : State) : Prop where
  owner : ∀ id, (st.slots id).created = true → ∃! file, st.files file = some (some id)
  -- No other file feeds the slot, drains it or destroys it.
  exclusive : ∀ id file op, (st.slots id).created = true → st.files file ≠ some (some id) →
    (step st (.onFile file op)).slots id = st.slots id
  drained : (∀ file, st.files file = none) → ∀ id, (st.slots id).created = false

def State.holds (st : State) (file : FileId) : Option SlotId := (st.files file).join

def State.taken (st : State) (id : SlotId) : Prop := (st.slots id).created = true

abbrev State.Assigned (st : State) : Prop := Ownership.Assigned st.holds st.taken

section Slots

variable {slots : Slots} {id : SlotId} {slot : Slot}

theorem created_update (other : SlotId) :
    (Function.update slots id slot other).created =
      if other = id then slot.created else (slots other).created := by
  rw [Function.update_apply]
  split
  · rfl
  · rfl

-- An update that keeps the flag.
theorem created_update_same (h : slot.created = (slots id).created) (other : SlotId) :
    (Function.update slots id slot other).created = (slots other).created := by
  rw [created_update]
  split
  · next heq => rw [h, heq]
  · rfl

theorem created_pushEvent (type : EventType) (data : List UInt8) :
    (slot.pushEvent type data).created = slot.created := by
  unfold Slot.pushEvent
  split
  · rfl
  · rfl

theorem created_disableHid : slot.disableHid.created = slot.created := by
  unfold Slot.disableHid
  split
  · rfl
  · rfl

theorem created_feed (report : Vector UInt8 inputSize) (queue : Int) :
    (slot.feed report queue).1.created = slot.created := by
  unfold Slot.feed
  dsimp only
  split
  · split
    · rfl
    · rfl
  · rfl

theorem created_host (op : HostOp) : (op.run slot).created = slot.created := by
  cases op with
  | enableHid ready =>
    unfold HostOp.run Slot.enableHid
    dsimp only
    split
    · rfl
    · rfl
  | disableHid => exact created_disableHid
  | intInComplete => rfl
  | outComplete type data => exact created_pushEvent type data
  | unbind => exact created_disableHid

theorem created_bind (ready : Bool) (other : SlotId) :
    (ds5Bind ready slots other).created = (slots other).created := by
  unfold ds5Bind
  cases (List.finRange slotCount).find? fun id => (slots id).gadget.isNone with
  | none => rfl
  | some id =>
    apply created_update_same
    cases ready with
    | false => rfl
    | true => rfl

end Slots

-- What a call does to the flags and to the file's slot.
inductive Effect (op : FileOp) (slots : Slots) (privateData : Option SlotId) (out : Outcome) :
    Prop where
  | kept (data : out.privateData = privateData)
      (created : ∀ id, (out.slots id).created = (slots id).created)
  | took (create : Create) (id : SlotId) (call : op = .ioctl (.create (some create)))
      (admitted : create.admitted slots = true) (free : (slots id).created = false)
      (data : out.privateData = some id)
      (created : ∀ other, (out.slots other).created =
        if other = id then true else (slots other).created)
  | dropped (id : SlotId) (held : privateData = some id) (data : out.privateData = none)
      (created : ∀ other, (out.slots other).created =
        if other = id then false else (slots other).created)

section Calls

variable (slots : Slots) (privateData : Option SlotId)

theorem release_effect : Effect .release slots privateData (ds5Release slots privateData) := by
  cases privateData with
  | none => exact .kept rfl fun _ => rfl
  | some id => exact .dropped id rfl rfl fun other => created_update other

theorem destroy_effect :
    Effect (.ioctl .destroy) slots privateData (ds5Destroy slots privateData) := by
  cases privateData with
  | none => exact .kept rfl fun _ => rfl
  | some id => exact .dropped id rfl rfl fun other => created_update other

theorem ds5Create_admitted {create : Create} (h : create.admitted slots = true) :
    ∃ id, (slots id).created = false ∧
      (ds5Create (some create) slots privateData).privateData = some id ∧
      ∀ other, ((ds5Create (some create) slots privateData).slots other).created =
        if other = id then true else (slots other).created := by
  unfold Create.admitted at h
  split at h
  · next hslot =>
    simp only [Bool.and_eq_true, Bool.not_eq_true'] at h
    obtain ⟨hfree, hgadget⟩ := h
    have hsome : ¬(slots ⟨create.slot.toNat, hslot⟩).gadget.isNone = true := by
      rw [Option.isNone_iff_eq_none, ← Option.not_isSome_iff_eq_none, not_not]
      exact hgadget
    refine ⟨⟨create.slot.toNat, hslot⟩, hfree, ?_⟩
    unfold ds5Create
    simp only [dif_pos hslot, hfree, Bool.false_eq_true, if_false, if_neg hsome, true_and]
    exact fun other => created_update other
  · cases h

theorem ds5Create_refused {copied : Option Create}
    (h : ∀ create, copied = some create → create.admitted slots = false) :
    (ds5Create copied slots privateData).privateData = privateData ∧
      (ds5Create copied slots privateData).slots = slots := by
  cases copied with
  | none => exact ⟨rfl, rfl⟩
  | some create =>
    have hadmitted := h create rfl
    unfold Create.admitted at hadmitted
    unfold ds5Create
    dsimp only
    split at hadmitted
    · next hslot =>
      rw [dif_pos hslot]
      split
      · exact ⟨rfl, rfl⟩
      · next hfree =>
        split
        · exact ⟨rfl, rfl⟩
        · next hgadget => simp_all
    · next hslot =>
      rw [dif_neg hslot]
      exact ⟨rfl, rfl⟩

theorem create_effect (copied : Option Create) :
    Effect (.ioctl (.create copied)) slots privateData (ds5Create copied slots privateData) := by
  by_cases h : ∃ create, copied = some create ∧ create.admitted slots = true
  · obtain ⟨create, rfl, hadmitted⟩ := h
    obtain ⟨id, hfree, hdata, hcreated⟩ := ds5Create_admitted slots privateData hadmitted
    exact .took create id rfl hadmitted hfree hdata hcreated
  · have hrefused (create : Create) (hcopied : copied = some create) :
        create.admitted slots = false := by
      by_contra hne
      exact h ⟨create, hcopied, by simpa using hne⟩
    obtain ⟨hdata, hslots⟩ := ds5Create_refused slots privateData hrefused
    exact .kept hdata fun id => by rw [hslots]

theorem write_effect (count : Nat) (copied : Option (Vector UInt8 count)) (queue : Int) :
    Effect (.write count copied queue) slots privateData
      (ds5Write count copied queue slots privateData) := by
  unfold ds5Write
  cases privateData with
  | none => exact .kept rfl fun _ => rfl
  | some id =>
    dsimp only
    split
    · exact .kept rfl fun _ => rfl
    split
    · exact .kept rfl fun _ => rfl
    cases copied with
    | none => exact .kept rfl fun _ => rfl
    | some bytes => exact .kept rfl (created_update_same (created_feed _ queue))

theorem read_effect (count : Nat) (nonblock copies : Bool) :
    Effect (.read count nonblock copies) slots privateData
      (ds5Read count nonblock copies slots privateData) := by
  unfold ds5Read
  cases privateData with
  | none => exact .kept rfl fun _ => rfl
  | some id =>
    dsimp only
    split
    · exact .kept rfl fun _ => rfl
    split
    · exact .kept rfl fun _ => rfl
    · exact .kept rfl (created_update_same rfl)

theorem fileOp_effect (op : FileOp) :
    Effect op slots privateData (op.run slots privateData) := by
  cases op with
  | ioctl cmd =>
    cases cmd with
    | create copied => exact create_effect slots privateData copied
    | destroy => exact destroy_effect slots privateData
    | other => exact .kept rfl fun _ => rfl
  | write count copied queue => exact write_effect slots privateData count copied queue
  | read count nonblock copies => exact read_effect slots privateData count nonblock copies
  | release => exact release_effect slots privateData

-- A created slot that the file does not have is not touched.
theorem fileOp_foreign (op : FileOp) {id : SlotId} (hcreated : (slots id).created = true)
    (hforeign : privateData ≠ some id) : (op.run slots privateData).slots id = slots id := by
  have hother {own : SlotId} {slot : Slot} (hown : privateData = some own) :
      Function.update slots own slot id = slots id := by
    apply Function.update_of_ne
    rintro rfl
    exact hforeign hown
  cases op with
  | ioctl cmd =>
    cases cmd with
    | create copied =>
      show (ds5Create copied slots privateData).slots id = slots id
      unfold ds5Create
      cases copied with
      | none => rfl
      | some create =>
        dsimp only
        split
        · split
          · rfl
          · next hfree =>
            split
            · rfl
            · apply Function.update_of_ne
              rintro rfl
              exact hfree hcreated
        · rfl
    | destroy =>
      cases privateData with
      | none => rfl
      | some own => exact hother rfl
    | other => rfl
  | write count copied queue =>
    show (ds5Write count copied queue slots privateData).slots id = slots id
    unfold ds5Write
    cases privateData with
    | none => rfl
    | some own =>
      dsimp only
      split
      · rfl
      split
      · rfl
      cases copied with
      | none => rfl
      | some bytes => exact hother rfl
  | read count nonblock copies =>
    show (ds5Read count nonblock copies slots privateData).slots id = slots id
    unfold ds5Read
    cases privateData with
    | none => rfl
    | some own =>
      dsimp only
      split
      · rfl
      split
      · rfl
      · exact hother rfl
  | release =>
    cases privateData with
    | none => rfl
    | some own => exact hother rfl

end Calls

section Step

variable {st : State}

theorem holds_eq_some {file : FileId} {id : SlotId} :
    st.holds file = some id ↔ st.files file = some (some id) := by
  unfold State.holds
  cases st.files file with
  | none => simp only [Option.join_none, reduceCtorEq]
  | some privateData => simp only [Option.join_some, Option.some.injEq]

theorem Loaded.assigned (h : Loaded st) : st.Assigned := by
  have hholds : st.holds = fun _ => none := by
    funext file
    unfold State.holds
    rw [h.closed file, Option.join_none]
  have hfree (id : SlotId) : ¬st.taken id := by
    unfold State.taken
    rw [h.idle id]
    exact Bool.false_ne_true
  unfold State.Assigned
  rw [hholds]
  exact assigned_none hfree

theorem State.Assigned.owned (h : st.Assigned) : Owned st := by
  constructor
  case owner =>
    intro id hcreated
    obtain ⟨file, hfile, honly⟩ := Ownership.Assigned.existsUnique h hcreated
    exact ⟨file, holds_eq_some.1 hfile, fun other hother => honly other (holds_eq_some.2 hother)⟩
  case exclusive =>
    intro id file op hcreated hforeign
    unfold step
    dsimp only
    cases hfile : st.files file with
    | none => rfl
    | some privateData =>
      apply fileOp_foreign _ _ _ hcreated
      rintro rfl
      exact hforeign hfile
  case drained =>
    intro hclosed id
    by_contra hne
    have hcreated : st.taken id := eq_true_of_ne_false hne
    obtain ⟨file, hfile⟩ := (h.taken_iff id).1 hcreated
    rw [holds_eq_some, hclosed file] at hfile
    cases hfile

-- An operation that keeps the flags and what the files hold.
theorem State.Assigned.kept {st' : State} (h : st.Assigned) (hholds : st'.holds = st.holds)
    (hcreated : ∀ id, (st'.slots id).created = (st.slots id).created) : st'.Assigned := by
  have htaken : st'.taken = st.taken := by
    funext id
    unfold State.taken
    rw [hcreated id]
  unfold State.Assigned
  rw [hholds, htaken]
  exact h

theorem holds_openFile {file : FileId} (h : st.files file = none) :
    (step st (.openFile file)).holds = st.holds := by
  funext other
  unfold State.holds step
  simp only [h, ds5Open]
  by_cases heq : other = file
  · rw [heq, Function.update_self, h]
    rfl
  · rw [Function.update_of_ne heq]

theorem fileOp_closes {op : FileOp} (h : op.closes = true) (slots : Slots)
    (privateData : Option SlotId) : (op.run slots privateData).privateData = none := by
  cases op with
  | release =>
    cases privateData with
    | none => rfl
    | some id => rfl
  | ioctl | write | read => cases h

theorem holds_onFile {file : FileId} (op : FileOp) {privateData : Option SlotId}
    (h : st.files file = some privateData) :
    (step st (.onFile file op)).holds =
      Function.update st.holds file (op.run st.slots privateData).privateData := by
  funext other
  unfold State.holds step
  simp only [h]
  by_cases heq : other = file
  · rw [heq, Function.update_self, Function.update_self]
    split
    · next hcloses => rw [fileOp_closes hcloses, Option.join_none]
    · rfl
  · rw [Function.update_of_ne heq, Function.update_of_ne heq]

theorem slots_onFile {file : FileId} (op : FileOp) {privateData : Option SlotId}
    (h : st.files file = some privateData) :
    (step st (.onFile file op)).slots = (op.run st.slots privateData).slots := by
  unfold step
  simp only [h]

theorem onFile_assigned (h : st.Assigned) {file : FileId} {op : FileOp}
    (hclean : abandons st (.onFile file op) = false) : (step st (.onFile file op)).Assigned := by
  cases hfile : st.files file with
  | none =>
    have hsame : step st (.onFile file op) = st := by simp only [step, hfile]
    rw [hsame]
    exact h
  | some privateData =>
    have hholds := holds_onFile op hfile
    have hslots := slots_onFile op hfile
    have hfrom : st.holds file = privateData := by
      unfold State.holds
      rw [hfile, Option.join_some]
    cases fileOp_effect st.slots privateData op with
    | kept hdata hcreated =>
      apply h.kept
      · rw [hholds, hdata, ← hfrom, Function.update_eq_self]
      · rw [hslots]
        exact hcreated
    | took create id hcall hadmitted hfree hdata hcreated =>
      -- The file had no slot: a second one is not created here.
      have hnone : privateData = none := by
        subst hcall
        simpa only [abandons, hfile, Option.join_some, hadmitted, Bool.and_true,
          Option.isSome_eq_false_iff, Option.isNone_iff_eq_none] using hclean
      have hacquire := Ownership.Assigned.acquire h (hnone ▸ hfrom)
        (fun htaken => Bool.false_ne_true (hfree.symm.trans htaken))
      have htaken : (step st (.onFile file op)).taken = fun other => other = id ∨ st.taken other := by
        funext other
        unfold State.taken
        rw [hslots, hcreated other]
        by_cases heq : other = id
        · simp only [heq, if_true, true_or]
        · simp only [heq, if_false, false_or]
      unfold State.Assigned
      rw [hholds, hdata, htaken]
      exact hacquire
    | dropped id hheld hdata hcreated =>
      have hrelease := Ownership.Assigned.release h (hfrom.trans hheld)
      have htaken : (step st (.onFile file op)).taken = fun other => other ≠ id ∧ st.taken other := by
        funext other
        unfold State.taken
        rw [hslots, hcreated other]
        by_cases heq : other = id
        · simp only [heq, if_true, Bool.false_eq_true, ne_eq, not_true_eq_false, false_and]
        · simp only [heq, if_false, ne_eq, not_false_eq_true, true_and]
      unfold State.Assigned
      rw [hholds, hdata, htaken]
      exact hrelease

theorem step_assigned (h : st.Assigned) {op : Op} (hclean : abandons st op = false) :
    (step st op).Assigned := by
  cases op with
  | openFile file =>
    cases hfile : st.files file with
    | none => exact h.kept (holds_openFile hfile) fun id => by simp only [step, hfile, ds5Open]
    | some privateData =>
      have hsame : step st (.openFile file) = st := by simp only [step, hfile]
      rw [hsame]
      exact h
  | onFile file op => exact onFile_assigned h hclean
  | bind ready => exact h.kept rfl (created_bind ready)
  | host id op =>
    unfold step
    dsimp only
    split
    · exact h.kept rfl (created_update_same (created_host op))
    · exact h

-- The slot the file leaves stays created, and no file has it.
theorem abandons_not_owned (h : st.Assigned) {op : Op} (habandons : abandons st op = true) :
    ¬Owned (step st op) := by
  unfold abandons at habandons
  split at habandons
  · next file create =>
    simp only [Bool.and_eq_true] at habandons
    obtain ⟨hsome, hadmitted⟩ := habandons
    obtain ⟨old, hold⟩ := Option.isSome_iff_exists.1 hsome
    obtain ⟨id, hfree, hdata, hcreated⟩ :=
      ds5Create_admitted st.slots (some old) hadmitted
    have hfile : st.files file = some (some old) := holds_eq_some.1 hold
    have htaken : (st.slots old).created = true := (h.taken_iff old).2 ⟨file, hold⟩
    have hne : id ≠ old := by
      rintro rfl
      rw [htaken] at hfree
      cases hfree
    intro howned
    have hstill : ((step st (.onFile file (.ioctl (.create (some create))))).slots old).created =
        true := by
      rw [slots_onFile _ hfile]
      show ((ds5Create (some create) st.slots (some old)).slots old).created = true
      rw [hcreated old, if_neg hne.symm, htaken]
    obtain ⟨owner, howner, -⟩ := howned.owner old hstill
    have hholds := holds_onFile (.ioctl (.create (some create))) hfile
    apply h.abandon hold hne owner
    rw [← hdata]
    exact hholds ▸ holds_eq_some.2 howner
  · cases habandons

end Step

section Runs

theorem run_cons (st : State) (op : Op) (rest : List Op) :
    run st (op :: rest) = run (step st op) rest := rfl

theorem run_owned {st : State} (h : st.Assigned) (ops : List Op) :
    (∀ past, past <+: ops → Owned (run st past)) ↔ clean st ops = true := by
  induction ops generalizing st with
  | nil =>
    refine ⟨fun _ => rfl, ?_⟩
    intro _ past hpast
    rw [List.prefix_nil.1 hpast]
    exact h.owned
  | cons op rest ih =>
    have hsplit : clean st (op :: rest) = true ↔
        abandons st op = false ∧ clean (step st op) rest = true := by
      rw [clean, Bool.and_eq_true, Bool.not_eq_true']
    rw [hsplit]
    constructor
    · intro howned
      have hclean : abandons st op = false := by
        by_contra hne
        refine abandons_not_owned h (eq_true_of_ne_false hne) ?_
        exact howned [op] ⟨rest, rfl⟩
      refine ⟨hclean, (ih (step_assigned h hclean)).1 ?_⟩
      intro past hpast
      have hlonger := howned (op :: past) (List.cons_prefix_cons.2 ⟨rfl, hpast⟩)
      rwa [run_cons] at hlonger
    · rintro ⟨hclean, hrest⟩ past hpast
      cases past with
      | nil => exact h.owned
      | cons first past =>
        obtain ⟨rfl, htail⟩ := List.cons_prefix_cons.1 hpast
        rw [run_cons]
        exact (ih (step_assigned h hclean)).2 hrest past htail

-- Exactly the runs in which no file takes a second slot.
theorem slot_ownership (st : State) (h : Loaded st) (ops : List Op) :
    (∀ past, past <+: ops → Owned (run st past)) ↔ clean st ops = true :=
  run_owned h.assigned ops

def State.loaded : State where
  slots _ :=
    { gadget := some { connected := false }
      mac := Vector.replicate _ 0
      events := []
      input := firstReport (Vector.replicate _ 0)
      created := false
      hidEnabled := false
      intInBusy := false
      reqIntIn := Vector.replicate _ 0 }
  files _ := none

def Op.create (file : FileId) (slot : UInt32) : Op :=
  .onFile file (.ioctl (.create (some { slot := slot, mac := Vector.replicate _ 0 })))

-- Two files, and a slot that goes from one to the other.
def handover : List Op :=
  [.openFile 0, .openFile 1, .create 0 2, .create 1 2, .onFile 0 (.ioctl .destroy), .create 1 2]

theorem slot_ownership_handover : Loaded State.loaded ∧ clean State.loaded handover = true ∧
    ∀ past, past <+: handover → Owned (run State.loaded past) := by
  have hloaded : Loaded State.loaded := ⟨fun _ => rfl, fun _ => rfl⟩
  have hclean : clean State.loaded handover = true := by decide
  exact ⟨hloaded, hclean, (slot_ownership State.loaded hloaded handover).2 hclean⟩

-- The first slot outlives every file.
def leak : List Op := [.openFile 0, .create 0 0, .create 0 1, .onFile 0 .release]

theorem slot_leaked : Loaded State.loaded ∧ ¬Owned (run State.loaded leak) := by
  refine ⟨⟨fun _ => rfl, fun _ => rfl⟩, ?_⟩
  intro howned
  let update (files : FileId → Option (Option SlotId)) (privateData : Option (Option SlotId)) :
      FileId → Option (Option SlotId) := Function.update files 0 privateData
  have hfiles : (run State.loaded leak).files =
      update (update (update (update State.loaded.files (some none)) (some (some 0)))
        (some (some 1))) none := rfl
  have hclosed (file : FileId) : (run State.loaded leak).files file = none := by
    rw [hfiles]
    by_cases heq : file = 0
    · simp only [update, heq, Function.update_self]
    · simp only [update, Function.update_of_ne heq, State.loaded]
  have hcreated : ((run State.loaded leak).slots 0).created = true := by decide
  rw [howned.drained hclosed 0] at hcreated
  cases hcreated

end Runs

end LibVirtualGamepad.Ds5Gadget
