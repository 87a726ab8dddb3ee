import LibVirtualGamepad.DualShock4
import LibVirtualGamepad.DualSense

namespace LibVirtualGamepad.Playstation

namespace Contacts

def isActive (contacts : Contacts) (i : Fin touchContacts) : Bool := contacts.active.get i
def idOf (contacts : Contacts) (i : Fin touchContacts) : UInt8 := contacts.trackingId.get i

-- The identity the loop must not hand out: that of the other finger while it is down.
def heldByOther (contacts : Contacts) (i : Fin touchContacts) : Option UInt8 :=
  if contacts.isActive (otherContact i) then some (contacts.idOf (otherContact i)) else none

-- The allocation loop cut off after so many rounds.
def allocateWithin : Nat → Option UInt8 → UInt8 → Option (UInt8 × UInt8)
  | 0, _, _ => none
  | rounds + 1, other, next =>
      if other = some next then allocateWithin rounds other (nextId next)
      else some (next, nextId next)

def ValidId (id : UInt8) : Prop := 1 ≤ id.toNat ∧ id.toNat ≤ 127

structure WellTracked (contacts : Contacts) : Prop where
  counter : ValidId contacts.nextTrackingId
  valid : ∀ i, contacts.isActive i = true → ValidId (contacts.idOf i)
  distinct : ∀ i j, i ≠ j → contacts.isActive i = true → contacts.isActive j = true →
    contacts.idOf i ≠ contacts.idOf j

theorem nextId_valid (id : UInt8) : ValidId (nextId id) := by
  have hid := toNat_nextId id
  unfold ValidId
  split at hid <;> omega

-- The loop runs at most twice, whatever the counter and the other finger.
theorem allocateWithin_two (other : Option UInt8) (next : UInt8) :
    allocateWithin 2 other next = some (allocateId other next) := by
  unfold allocateId allocateWithin allocateWithin
  by_cases hfirst : other = some next
  · have hsecond : other ≠ some (nextId next) := by
      rw [hfirst]
      intro h
      exact nextId_ne next (Option.some_inj.mp h).symm
    unfold allocateId
    simp only [hfirst, if_true] at hsecond ⊢
    rw [if_neg hsecond, if_neg hsecond]
  · rw [if_neg hfirst, if_neg hfirst]

theorem allocateId_spec (other : Option UInt8) (next : UInt8) (hnext : ValidId next) :
    other ≠ some (allocateId other next).1 ∧ ValidId (allocateId other next).1 ∧
      ValidId (allocateId other next).2 := by
  have hwithin := allocateWithin_two other next
  unfold allocateWithin at hwithin
  by_cases hfirst : other = some next
  · rw [if_pos hfirst] at hwithin
    unfold allocateWithin at hwithin
    have hsecond : other ≠ some (nextId next) := by
      rw [hfirst]
      intro h
      exact nextId_ne next (Option.some_inj.mp h).symm
    rw [if_neg hsecond, Option.some_inj] at hwithin
    rw [← hwithin]
    exact ⟨hsecond, nextId_valid next, nextId_valid _⟩
  · rw [if_neg hfirst, Option.some_inj] at hwithin
    rw [← hwithin]
    exact ⟨hfirst, hnext, nextId_valid next⟩

theorem other_of_ne {i j : Fin touchContacts} (h : i ≠ j) : j = otherContact i := by
  have hall : ∀ i j : Fin 2, i ≠ j → j = 1 - i := by decide
  exact hall i j h

theorem get_set {α : Type} (v : Vector α touchContacts) (i j : Fin touchContacts) (a : α) :
    (v.set i.val a i.isLt).get j = if j = i then a else v.get j := by
  change (v.set i a)[j.val] = if j = i then a else v[j.val]
  rw [Vector.getElem_set]
  simp only [Fin.ext_iff, eq_comm]

@[simp] theorem place_isActive (contacts : Contacts) (i j : Fin touchContacts)
    (touch : TouchStateRequest) : (contacts.place i touch).isActive j = contacts.isActive j := rfl

@[simp] theorem place_idOf (contacts : Contacts) (i j : Fin touchContacts)
    (touch : TouchStateRequest) : (contacts.place i touch).idOf j = contacts.idOf j := rfl

@[simp] theorem place_next (contacts : Contacts) (i : Fin touchContacts)
    (touch : TouchStateRequest) :
    (contacts.place i touch).nextTrackingId = contacts.nextTrackingId := rfl

theorem lift_isActive (contacts : Contacts) (i j : Fin touchContacts) :
    (contacts.lift i).isActive j = if j = i then false else contacts.isActive j :=
  get_set contacts.active i j false

@[simp] theorem lift_idOf (contacts : Contacts) (i j : Fin touchContacts) :
    (contacts.lift i).idOf j = contacts.idOf j := rfl

theorem press_active (contacts : Contacts) (i : Fin touchContacts)
    (h : contacts.isActive i = true) : contacts.press i = contacts := by
  unfold press
  exact if_pos h

theorem press_inactive (contacts : Contacts) (i : Fin touchContacts)
    (h : contacts.isActive i = false) :
    contacts.press i =
      { contacts with
        nextTrackingId := (allocateId (contacts.heldByOther i) contacts.nextTrackingId).2
        trackingId := contacts.trackingId.set i.val
          (allocateId (contacts.heldByOther i) contacts.nextTrackingId).1 i.isLt
        active := contacts.active.set i.val true i.isLt } := by
  have hnot : ¬contacts.active[i] = true := by
    intro hactive
    have hboth := h.symm.trans hactive
    cases hboth
  unfold press
  rw [if_neg hnot]
  rfl

-- What an event does, one case for each way it can end.
inductive Applied (contacts : Contacts) (touch : TouchStateRequest) : Bool × Contacts → Prop
  | refused : Applied contacts touch (false, contacts)
  | cancelled :
      TouchEvent.ofByte touch.eventType = .cancelAll →
      Applied contacts touch (true, { contacts with active := Vector.replicate _ false })
  | pressed (i : Fin touchContacts) :
      TouchEvent.ofByte touch.eventType = .down → i.val = touch.contactIndex.toNat →
      Applied contacts touch (true, (contacts.press i).place i touch)
  | moved (i : Fin touchContacts) :
      contacts.isActive i = true → i.val = touch.contactIndex.toNat →
      Applied contacts touch (true, contacts.place i touch)
  | lifted (i : Fin touchContacts) :
      i.val = touch.contactIndex.toNat →
      TouchEvent.ofByte touch.eventType = .up ∨ TouchEvent.ofByte touch.eventType = .cancel →
      Applied contacts touch (true, contacts.lift i)

theorem apply_cases (contacts : Contacts) (touch : TouchStateRequest) :
    Applied contacts touch (contacts.apply touch) := by
  unfold apply
  cases hevent : TouchEvent.ofByte touch.eventType with
  | cancelAll => exact .cancelled hevent
  | down =>
      simp only
      split
      · exact .pressed _ hevent rfl
      · exact .refused
  | move =>
      simp only
      split
      · split
        · exact .moved _ ‹_› rfl
        · exact .refused
      · exact .refused
  | hover =>
      simp only
      split
      · split
        · exact .moved _ ‹_› rfl
        · exact .refused
      · exact .refused
  | up =>
      simp only
      split
      · exact .lifted _ rfl (Or.inl hevent)
      · exact .refused
  | cancel =>
      simp only
      split
      · exact .lifted _ rfl (Or.inr hevent)
      · exact .refused
  | other raw =>
      simp only
      split
      · exact .refused
      · exact .refused

theorem cancelled_inactive (contacts : Contacts) (i : Fin touchContacts) :
    isActive { contacts with active := Vector.replicate _ false } i = false := by
  change (Vector.replicate touchContacts false)[i.val] = false
  rw [Vector.getElem_replicate]

theorem press_wellTracked (contacts : Contacts) (i : Fin touchContacts)
    (h : contacts.WellTracked) : (contacts.press i).WellTracked := by
  cases hactive : contacts.isActive i with
  | true =>
      rw [press_active contacts i hactive]
      exact h
  | false =>
      obtain ⟨hother, hid, hnext⟩ :=
        allocateId_spec (contacts.heldByOther i) contacts.nextTrackingId h.counter
      have hactives : ∀ j, (contacts.press i).isActive j = if j = i then true
          else contacts.isActive j := by
        intro j
        rw [press_inactive contacts i hactive]
        exact get_set contacts.active i j true
      have hids : ∀ j, (contacts.press i).idOf j = if j = i then
          (allocateId (contacts.heldByOther i) contacts.nextTrackingId).1
          else contacts.idOf j := by
        intro j
        rw [press_inactive contacts i hactive]
        exact get_set contacts.trackingId i j _
      -- the new identity is not the one the other finger holds
      have hfresh : ∀ j, i ≠ j → contacts.isActive j = true →
          (allocateId (contacts.heldByOther i) contacts.nextTrackingId).1 ≠ contacts.idOf j := by
        intro j hij hj heq
        have hheld : contacts.heldByOther i = some (contacts.idOf j) := by
          rw [other_of_ne hij] at hj ⊢
          unfold heldByOther
          rw [if_pos hj]
        rw [heq] at hother
        exact hother hheld
      refine ⟨?_, ?_, ?_⟩
      · rw [press_inactive contacts i hactive]
        exact hnext
      · intro j hj
        rw [hids j]
        by_cases hji : j = i
        · rw [if_pos hji]
          exact hid
        · rw [hactives j, if_neg hji] at hj
          rw [if_neg hji]
          exact h.valid j hj
      · intro j k hjk hj hk
        rw [hactives j] at hj
        rw [hactives k] at hk
        rw [hids j, hids k]
        by_cases hji : j = i
        · have hki : k ≠ i := fun hk' => hjk (hji.trans hk'.symm)
          rw [if_neg hki] at hk
          rw [if_pos hji, if_neg hki]
          exact hfresh k hki.symm hk
        · rw [if_neg hji] at hj
          rw [if_neg hji]
          by_cases hki : k = i
          · rw [if_pos hki]
            exact (hfresh j (fun hij => hji hij.symm) hj).symm
          · rw [if_neg hki] at hk
            rw [if_neg hki]
            exact h.distinct j k hjk hj hk

theorem initial_wellTracked : initial.WellTracked := by
  have hinactive : ∀ i, initial.isActive i = false := by decide
  have hcounter : 1 ≤ initial.nextTrackingId.toNat ∧ initial.nextTrackingId.toNat ≤ 127 := by decide
  refine ⟨hcounter, ?_, ?_⟩
  · intro i hi
    rw [hinactive i] at hi
    cases hi
  · intro i j _ hi
    rw [hinactive i] at hi
    cases hi

theorem apply_wellTracked (contacts : Contacts) (touch : TouchStateRequest)
    (h : contacts.WellTracked) : (contacts.apply touch).2.WellTracked := by
  have happlied := apply_cases contacts touch
  generalize contacts.apply touch = result at happlied ⊢
  cases happlied with
  | refused => exact h
  | cancelled =>
      refine ⟨h.counter, ?_, ?_⟩
      · intro i hi
        rw [cancelled_inactive] at hi
        cases hi
      · intro i j _ hi
        rw [cancelled_inactive] at hi
        cases hi
  | pressed i =>
      have hpress := press_wellTracked contacts i h
      exact ⟨hpress.counter, hpress.valid, hpress.distinct⟩
  | moved i => exact ⟨h.counter, h.valid, h.distinct⟩
  | lifted i =>
      have hkept : ∀ j, (contacts.lift i).isActive j = true → contacts.isActive j = true := by
        intro j hj
        rw [lift_isActive] at hj
        split at hj
        · cases hj
        · exact hj
      exact ⟨h.counter, fun j hj => h.valid j (hkept j hj),
        fun j k hjk hj hk => h.distinct j k hjk (hkept j hj) (hkept k hk)⟩

theorem press_isActive (contacts : Contacts) (i j : Fin touchContacts) :
    (contacts.press i).isActive j = if j = i then true else contacts.isActive j := by
  cases hactive : contacts.isActive i with
  | true =>
      rw [press_active contacts i hactive]
      by_cases hji : j = i
      · rw [if_pos hji, hji, hactive]
      · rw [if_neg hji]
  | false =>
      rw [press_inactive contacts i hactive]
      exact get_set contacts.active i j true

-- Pressing gives an identity only to a contact that was up.
theorem press_idOf (contacts : Contacts) (i j : Fin touchContacts)
    (hj : contacts.isActive j = true) : (contacts.press i).idOf j = contacts.idOf j := by
  cases hactive : contacts.isActive i with
  | true => rw [press_active contacts i hactive]
  | false =>
      have hji : j ≠ i := by
        rintro rfl
        rw [hactive] at hj
        cases hj
      rw [press_inactive contacts i hactive]
      exact (get_set contacts.trackingId i j _).trans (if_neg hji)

-- An event leaves the identity of a contact that was down alone.
theorem apply_idOf (contacts : Contacts) (touch : TouchStateRequest) (j : Fin touchContacts)
    (hj : contacts.isActive j = true) : (contacts.apply touch).2.idOf j = contacts.idOf j := by
  have happlied := apply_cases contacts touch
  generalize contacts.apply touch = result at happlied ⊢
  cases happlied with
  | refused => rfl
  | cancelled => rfl
  | pressed i => exact press_idOf contacts i j hj
  | moved i => rfl
  | lifted i => rfl

theorem apply_refused (contacts : Contacts) (touch : TouchStateRequest)
    (h : (contacts.apply touch).1 = false) : (contacts.apply touch).2 = contacts := by
  have happlied := apply_cases contacts touch
  generalize contacts.apply touch = result at happlied h ⊢
  cases happlied with
  | refused => rfl
  | cancelled => cases h
  | pressed => cases h
  | moved => cases h
  | lifted => cases h

theorem apply_activated (contacts : Contacts) (touch : TouchStateRequest)
    (j : Fin touchContacts) (hbefore : contacts.isActive j = false)
    (hafter : (contacts.apply touch).2.isActive j = true) :
    TouchEvent.ofByte touch.eventType = .down ∧ j.val = touch.contactIndex.toNat := by
  have happlied := apply_cases contacts touch
  generalize contacts.apply touch = result at happlied hafter
  cases happlied with
  | refused =>
      rw [hbefore] at hafter
      cases hafter
  | cancelled =>
      rw [cancelled_inactive] at hafter
      cases hafter
  | pressed i hevent hindex =>
      rw [place_isActive, press_isActive] at hafter
      by_cases hji : j = i
      · rw [hji]
        exact ⟨hevent, hindex⟩
      · rw [if_neg hji, hbefore] at hafter
        cases hafter
  | moved i =>
      rw [place_isActive, hbefore] at hafter
      cases hafter
  | lifted i =>
      rw [lift_isActive, hbefore] at hafter
      split at hafter <;> cases hafter

-- A contact that is moved or pressed again stays down.
theorem apply_stays_active (contacts : Contacts) (touch : TouchStateRequest)
    (j : Fin touchContacts) (hj : contacts.isActive j = true)
    (hevent : TouchEvent.ofByte touch.eventType = .down ∨
      TouchEvent.ofByte touch.eventType = .move ∨ TouchEvent.ofByte touch.eventType = .hover) :
    (contacts.apply touch).2.isActive j = true := by
  have happlied := apply_cases contacts touch
  generalize contacts.apply touch = result at happlied ⊢
  cases happlied with
  | refused => exact hj
  | cancelled hcancel =>
      rw [hcancel] at hevent
      rcases hevent with h | h | h <;> cases h
  | pressed i =>
      rw [place_isActive, press_isActive, hj]
      split <;> rfl
  | moved i => exact hj
  | lifted i _ hup =>
      rcases hup with hup | hup <;> rw [hup] at hevent <;> rcases hevent with h | h | h <;> cases h

end Contacts

-- The touch state of a pad, from a reset through any events.
structure TouchPad where
  State : Type
  initial : State
  apply : TouchStateRequest → State → Bool × State
  contacts : State → Contacts
  initial_contacts : contacts initial = .initial
  apply_contacts : ∀ touch state, contacts (apply touch state).2 = ((contacts state).apply touch).2
  refused : ∀ touch state, (apply touch state).1 = false → (apply touch state).2 = state

def ds4Pad : TouchPad where
  State := Ds4State
  initial := Ds4State.initial
  apply := DualShock4.applyDs4Touch
  contacts := Ds4State.contacts
  initial_contacts := rfl
  apply_contacts _ _ := rfl
  refused := by
    intro touch state h
    have hkept := Contacts.apply_refused state.contacts touch h
    calc (DualShock4.applyDs4Touch touch state).2
        = { state with contacts := (state.contacts.apply touch).2 } := rfl
      _ = state := by rw [hkept]

def ds5Pad : TouchPad where
  State := Ds5State
  initial := Ds5State.initial
  apply := DualSense.applyDs5Touch
  contacts := Ds5State.contacts
  initial_contacts := rfl
  apply_contacts _ _ := rfl
  refused := by
    intro touch state h
    have hkept := Contacts.apply_refused state.contacts touch h
    calc (DualSense.applyDs5Touch touch state).2
        = { state with contacts := (state.contacts.apply touch).2 } := rfl
      _ = state := by rw [hkept]

namespace TouchPad

def run (pad : TouchPad) (events : List TouchStateRequest) : pad.State :=
  events.foldl (fun state touch => (pad.apply touch state).2) pad.initial

theorem run_wellTracked (pad : TouchPad) (events : List TouchStateRequest) :
    (pad.contacts (pad.run events)).WellTracked := by
  have hrun : ∀ state, (pad.contacts state).WellTracked →
      (pad.contacts (events.foldl (fun state touch => (pad.apply touch state).2)
        state)).WellTracked := by
    induction events with
    | nil => exact fun state h => h
    | cons touch events ih =>
        intro state h
        apply ih
        rw [pad.apply_contacts]
        exact Contacts.apply_wellTracked _ touch h
  apply hrun
  rw [pad.initial_contacts]
  exact Contacts.initial_wellTracked

-- Identities after a run of events, and what one more event does to them.
def Tracks (pad : TouchPad) : Prop :=
  ∀ events : List TouchStateRequest,
    let contacts := pad.contacts (pad.run events)
    (∀ i j, i ≠ j → contacts.isActive i = true → contacts.isActive j = true →
      contacts.idOf i ≠ contacts.idOf j) ∧
    (∀ i, contacts.isActive i = true →
      1 ≤ (contacts.idOf i).toNat ∧ (contacts.idOf i).toNat ≤ 127) ∧
    (∀ i, Contacts.allocateWithin 2 (contacts.heldByOther i) contacts.nextTrackingId =
      some (Contacts.allocateId (contacts.heldByOther i) contacts.nextTrackingId)) ∧
    ∀ touch : TouchStateRequest,
      let applied := (pad.apply touch (pad.run events)).1
      let next := pad.contacts (pad.apply touch (pad.run events)).2
      (∀ i, contacts.isActive i = true →
        TouchEvent.ofByte touch.eventType = .down ∨ TouchEvent.ofByte touch.eventType = .move ∨
          TouchEvent.ofByte touch.eventType = .hover →
        next.isActive i = true ∧ next.idOf i = contacts.idOf i) ∧
      (∀ i, contacts.isActive i = true → next.isActive i = true →
        next.idOf i = contacts.idOf i) ∧
      (applied = false → (pad.apply touch (pad.run events)).2 = pad.run events) ∧
      ∀ i, contacts.isActive i = false → next.isActive i = true →
        TouchEvent.ofByte touch.eventType = .down ∧ i.val = touch.contactIndex.toNat

theorem tracks (pad : TouchPad) : pad.Tracks := by
  intro events contacts
  have htracked := pad.run_wellTracked events
  refine ⟨htracked.distinct, htracked.valid, fun i => Contacts.allocateWithin_two _ _, ?_⟩
  intro touch applied next
  have hnext : next = (contacts.apply touch).2 := pad.apply_contacts touch (pad.run events)
  rw [hnext]
  refine ⟨?_, ?_, pad.refused touch (pad.run events), ?_⟩
  · intro i hi hevent
    exact ⟨Contacts.apply_stays_active contacts touch i hi hevent,
      Contacts.apply_idOf contacts touch i hi⟩
  · intro i hi _
    exact Contacts.apply_idOf contacts touch i hi
  · intro i
    exact Contacts.apply_activated contacts touch i

end TouchPad

theorem touch_tracking : ds4Pad.Tracks ∧ ds5Pad.Tracks := ⟨ds4Pad.tracks, ds5Pad.tracks⟩

end LibVirtualGamepad.Playstation
