import LibVirtualGamepad.Driver.Run

-- How a place stands: its lifecycle state, the handle it shows and what has become
-- of the children created for it.
namespace LibVirtualGamepad

open Interleaving

def Device.ownerAt (d : Device) : Place → Option File
  | .controller id => (d.controllers id).control.owner
  | .keyboardMouse => d.keyboardMouse.owner

-- One child of the place may be alive, with its deletion called `calls` times and
-- not returned. The others have been deleted.
structure ChildrenAt (children : List Child) (p : Place) (live : Option Handle) (calls : Nat) :
    Prop where
  live_at : ∀ h, live = some h → ∃ c, children[h]? = some c ∧ c.place = p ∧
    c.deleteCalls = calls ∧ c.deleteReturns = 0
  others : ∀ h c, children[h]? = some c → c.place = p → live ≠ some h →
    c.deleteCalls = 1 ∧ c.deleteReturns = 1

structure Standing where
  state : SlotState
  vhf : Option Handle
  live : Option Handle
  calls : Nat

structure Stands (d : Device) (p : Place) (s : Standing) : Prop where
  state : d.stateAt p = s.state
  vhf : d.vhfAt p = s.vhf
  children : ChildrenAt d.children p s.live s.calls

def Standing.idle (state : SlotState) : Standing := ⟨state, none, none, 0⟩
def Standing.active (handle : Handle) : Standing := ⟨.active, some handle, some handle, 0⟩

-- Between two transitions nothing is live at the place, or its active child is.
def Retired (d : Device) (p : Place) : Prop :=
  ∃ state, (state = .empty ∨ state = .lost) ∧ Stands d p (.idle state)

def Settled (d : Device) (p : Place) : Prop :=
  Retired d p ∨ ∃ handle, Stands d p (.active handle)

-- The steps of a transition, from the slot being taken to its release.
inductive Stage where
  | starting
  | created (handle : Handle)
  | published (handle : Handle)
  | stopped (handle : Handle)
  | detached (handle : Handle)
  | drained (handle : Handle)
  | deleting (handle : Handle)
  | gone

def Stage.standing : Stage → Standing
  | .starting => .idle .starting
  | .created h => ⟨.starting, none, some h, 0⟩
  | .published h => ⟨.starting, some h, some h, 0⟩
  | .stopped h => ⟨.stopping, some h, some h, 0⟩
  | .detached h => ⟨.stopping, none, some h, 0⟩
  | .drained h => ⟨.stopping, none, some h, 0⟩
  | .deleting h => ⟨.stopping, none, some h, 1⟩
  | .gone => .idle .stopping

-- The handle that no submission outside VHF's own callbacks holds any more.
def Stage.quiet : Stage → Option Handle
  | .created h | .published h | .drained h | .deleting h => some h
  | .starting | .stopped _ | .detached _ | .gone => none

inductive Phase where
  | settled
  | retired
  | busy (owner : Option File) (stage : Stage)

def Operation.isCallback : Operation → Bool
  | .callback _ _ _ => true
  | _ => false

namespace Act

-- The submission that an act goes on with: about to enter VHF, or inside.
def submission : Act → Option (ControllerId × Handle)
  | .submitEnter id handle _ => some (id, handle)
  | .submitLeave id handle _ => some (id, handle)
  | _ => none

def submitsTo (id : ControllerId) (a : Act) : Bool := a.submission.any fun s => s.1 == id

theorem submitsTo_eq_false {a : Act} (h : a.submission = none) (id : ControllerId) :
    a.submitsTo id = false := by
  simp [submitsTo, h]

end Act

-- No thread but a callback of VHF is about to enter with the handle, or inside.
def Quiet (threads : List Task) (id : ControllerId) (handle : Handle) : Prop :=
  ¬ Waiting threads fun k a => k.isCallback = false ∧ a.submission = some (id, handle)

-- The child may be handed to VHF: its deletion has not returned, and has not begun
-- where that matters.
def Live (d : Device) (id : ControllerId) (handle : Handle) (undeleted : Bool) : Prop :=
  ∃ c, d.children[handle]? = some c ∧ c.place = .controller id ∧ c.deleteReturns = 0 ∧
    (undeleted = true → c.deleteCalls = 0)

-- The phase a place is in, for the holder of the gate; `quiet` is what is known of
-- the submissions.
def PlaceOk (d : Device) (quiet : ControllerId → Handle → Prop) (p : Place) : Phase → Prop
  | .settled => Settled d p
  | .retired => Retired d p
  | .busy owner stage =>
    d.ownerAt p = owner ∧ Stands d p stage.standing ∧
      ∀ id handle, p = .controller id → stage.quiet = some handle → quiet id handle

abbrev Mode := Place → Phase

def Mode.settled : Mode := fun _ => .settled
def Mode.retired : Mode := fun _ => .retired

-- Outside the gate every place is settled.
def phaseAt : Option Mode → Place → Phase
  | none, _ => .settled
  | some mode, p => mode p

-- The world with its gate: how every place stands, what the counters of submissions
-- count, and which children the threads may still touch.
structure Ok (m : Option Mode) (w : World) : Prop where
  gate : w.shared.gateHeld = m.isSome
  places : ∀ p, PlaceOk w.shared (Quiet w.threads) p (phaseAt m p)
  inFlight : ∀ id, (w.shared.controllers id).control.submitsInFlight =
    pending (fun _ a => a.submitsTo id) w.threads
  submits : ∀ t ∈ w.threads, ∀ a ∈ t.todo, ∀ id handle, a.submission = some (id, handle) →
    Live w.shared id handle (!t.kind.isCallback) ∧
      ∀ id' handle' c, t.kind = .callback id' handle' c → id' = id ∧ handle' = handle
  callbacks : ∀ t ∈ w.threads, t.todo ≠ [] → ∀ id handle c, t.kind = .callback id handle c →
    Live w.shared id handle false

section

variable {d d' : Device} {p : Place}

-- The children of the place in the one list are in the other, with the same counts.
def Within (cs cs' : List Child) (p : Place) : Prop :=
  ∀ (h : Handle) (c : Child), cs[h]? = some c → c.place = p →
    ∃ c', cs'[h]? = some c' ∧ c'.place = p ∧ c'.deleteCalls = c.deleteCalls ∧
      c'.deleteReturns = c.deleteReturns

theorem Within.refl (cs : List Child) (p : Place) : Within cs cs p :=
  fun _ c hc hp => ⟨c, hc, hp, rfl, rfl⟩

-- Nothing that `Stands` speaks of differs at the place.
structure Same (d d' : Device) (p : Place) : Prop where
  state : d'.stateAt p = d.stateAt p
  vhf : d'.vhfAt p = d.vhfAt p
  owner : d'.ownerAt p = d.ownerAt p
  within : Within d.children d'.children p
  within' : Within d'.children d.children p

theorem Same.of_eq (hc : d'.controllers = d.controllers) (hk : d'.keyboardMouse = d.keyboardMouse)
    (hch : d'.children = d.children) : Same d d' p := by
  refine ⟨?_, ?_, ?_, hch ▸ Within.refl _ _, hch ▸ Within.refl _ _⟩
  · cases p <;> simp only [Device.stateAt, hc, hk]
  · cases p <;> simp only [Device.vhfAt, hc, hk]
  · cases p <;> simp only [Device.ownerAt, hc, hk]

theorem ChildrenAt.congr {children children' : List Child} {live : Option Handle} {calls : Nat}
    (h : ChildrenAt children p live calls) (hw : Within children children' p)
    (hw' : Within children' children p) : ChildrenAt children' p live calls := by
  refine ⟨fun handle hlive => ?_, fun handle c hc hp hne => ?_⟩
  · obtain ⟨c, hc, hp, hcalls, hreturns⟩ := h.live_at handle hlive
    obtain ⟨c', hc', hp', hcalls', hreturns'⟩ := hw handle c hc hp
    exact ⟨c', hc', hp', hcalls'.trans hcalls, hreturns'.trans hreturns⟩
  · obtain ⟨c', hc', hp', hcalls, hreturns⟩ := hw' handle c hc hp
    rw [← hcalls, ← hreturns]
    exact h.others handle c' hc' hp' hne

theorem Stands.congr {s : Standing} (h : Stands d p s) (hsame : Same d d' p) : Stands d' p s :=
  ⟨hsame.state.trans h.state, hsame.vhf.trans h.vhf,
    h.children.congr hsame.within hsame.within'⟩

theorem Retired.congr (h : Retired d p) (hsame : Same d d' p) : Retired d' p := by
  obtain ⟨state, hstate, hstands⟩ := h
  exact ⟨state, hstate, hstands.congr hsame⟩

theorem Settled.congr (h : Settled d p) (hsame : Same d d' p) : Settled d' p := by
  rcases h with h | ⟨handle, h⟩
  · exact .inl (h.congr hsame)
  · exact .inr ⟨handle, h.congr hsame⟩

-- A settled place that is not active is retired, and the other way round.
theorem Settled.retired (h : Settled d p) (hstate : d.stateAt p ≠ .active) : Retired d p := by
  rcases h with h | ⟨handle, h⟩
  · exact h
  · exact absurd h.state hstate

theorem Settled.stands_active (h : Settled d p) (hstate : d.stateAt p = .active) :
    ∃ handle, Stands d p (.active handle) := by
  rcases h with ⟨state, hs, h⟩ | h
  · have hidle : d.stateAt p = state := h.state
    rcases hs with rfl | rfl <;> rw [hidle] at hstate <;> simp at hstate
  · exact h

theorem Settled.state_cases (h : Settled d p) :
    d.stateAt p = .empty ∨ d.stateAt p = .lost ∨ d.stateAt p = .active := by
  rcases h with ⟨state, rfl | rfl, h⟩ | ⟨handle, h⟩
  · exact .inl h.state
  · exact .inr (.inl h.state)
  · exact .inr (.inr h.state)

theorem PlaceOk.congr {quiet quiet' : ControllerId → Handle → Prop} {φ : Phase}
    (h : PlaceOk d quiet p φ) (hsame : Same d d' p)
    (hquiet : ∀ id handle, quiet id handle → quiet' id handle) : PlaceOk d' quiet' p φ := by
  cases φ with
  | settled => exact Settled.congr h hsame
  | retired => exact Retired.congr h hsame
  | busy owner stage =>
      obtain ⟨howner, hstands, hq⟩ := h
      exact ⟨hsame.owner.trans howner, hstands.congr hsame,
        fun id handle hp hs => hquiet id handle (hq id handle hp hs)⟩

theorem Same.refl (d : Device) (p : Place) : Same d d p := .of_eq rfl rfl rfl

-- The one live child of a place is the only one that may be handed to VHF.
theorem ChildrenAt.live_unique {id : ControllerId} {handle : Handle} {live : Option Handle}
    {calls : Nat} {b : Bool} (h : ChildrenAt d.children (.controller id) live calls)
    (hlive : Live d id handle b) : live = some handle := by
  obtain ⟨c, hc, hp, hr, _⟩ := hlive
  by_contra hne
  have := (h.others handle c hc hp hne).2
  omega

theorem ChildrenAt.live {id : ControllerId} {handle : Handle}
    (h : ChildrenAt d.children (.controller id) (some handle) 0) (b : Bool) :
    Live d id handle b := by
  obtain ⟨c, hc, hp, hcalls, hr⟩ := h.live_at handle rfl
  exact ⟨c, hc, hp, hr, fun _ => hcalls⟩

end

-- What an act that submits nothing leaves of the threads' part.
section Calm

variable {w w' : World} {j : Nat} {choice : Choice}

structure Calm (s : System.ActStep driver w j choice w') : Prop where
  act : s.act.submission = none
  next : ∀ a ∈ s.outcome.next, a.submission = none
  spawn : ∀ t ∈ s.outcome.spawn, t.kind.isCallback = false ∧ ∀ a ∈ t.todo, a.submission = none

variable {s : System.ActStep driver w j choice w'}

theorem Calm.quiet (hc : Calm s) {id : ControllerId} {handle : Handle}
    (h : Quiet w.threads id handle) : Quiet w'.threads id handle := by
  intro hw
  rcases s.waiting_after _ hw with hold | ⟨a, ha, _, hsub⟩ | ⟨t, ht, a, ha, _, hsub⟩
  · exact h hold
  · rw [hc.next a ha] at hsub
    exact absurd hsub (by simp)
  · rw [(hc.spawn t ht).2 a ha] at hsub
    exact absurd hsub (by simp)

theorem Calm.pending (hc : Calm s) (id : ControllerId) :
    pending (fun _ a => a.submitsTo id) w'.threads = pending (fun _ a => a.submitsTo id) w.threads := by
  have heq := s.pending_eq fun _ a => a.submitsTo id
  have hnext : s.outcome.next.countP (fun a => a.submitsTo id) = 0 := by
    rw [List.countP_eq_zero]
    intro a ha
    simp [Act.submitsTo_eq_false (hc.next a ha)]
  have hspawn : Interleaving.pending (fun _ a => a.submitsTo id) s.outcome.spawn = 0 := by
    rw [pending_eq_zero_iff]
    intro t ht a ha
    exact Act.submitsTo_eq_false ((hc.spawn t ht).2 a ha) id
  rw [Act.submitsTo_eq_false hc.act id, hnext, hspawn] at heq
  simpa using heq

-- The child is one that the thread is submitting to, or was called back for.
def touches (t : Task) (id : ControllerId) (handle : Handle) : Prop :=
  (∃ a ∈ t.todo, a.submission = some (id, handle)) ∨
    (t.todo ≠ [] ∧ ∃ c, t.kind = .callback id handle c)

theorem Ok.live_of_touches {m : Option Mode} (hok : Ok m w) {t : Task} (ht : t ∈ w.threads)
    {id : ControllerId} {handle : Handle} (h : touches t id handle) :
    Live w.shared id handle (!t.kind.isCallback) := by
  rcases h with ⟨a, ha, hsub⟩ | ⟨htodo, c, hkind⟩
  · exact (hok.submits t ht a ha id handle hsub).1
  · rw [hkind]
    exact hok.callbacks t ht htodo id handle c hkind

-- What a thread touches after the act some thread of its kind touched before.
theorem Calm.touches_before (hc : Calm s) {t : Task} (ht : t ∈ w'.threads) {id : ControllerId}
    {handle : Handle} (h : touches t id handle) :
    ∃ u ∈ w.threads, u.kind = t.kind ∧ touches u id handle := by
  rcases s.mem_after t ht with rfl | hold | hnew
  · refine ⟨s.thread, s.mem, rfl, ?_⟩
    rcases h with ⟨a, ha, hsub⟩ | ⟨_, c, hkind⟩
    · rcases List.mem_append.mp ha with hnext | hrest
      · rw [hc.next a hnext] at hsub
        exact absurd hsub (by simp)
      · exact .inl ⟨a, by rw [s.todo]; exact List.mem_cons_of_mem _ hrest, hsub⟩
    · exact .inr ⟨by rw [s.todo]; simp, c, hkind⟩
  · exact ⟨t, hold, rfl, h⟩
  · obtain ⟨hkind, hcalm⟩ := hc.spawn t hnew
    rcases h with ⟨a, ha, hsub⟩ | ⟨_, c, hcallback⟩
    · rw [hcalm a ha] at hsub
      exact absurd hsub (by simp)
    · rw [hcallback] at hkind
      exact absurd hkind (by simp [Operation.isCallback])

theorem Calm.ok_of (hc : Calm s) {m m' : Option Mode} (hok : Ok m w)
    (hgate : w'.shared.gateHeld = m'.isSome) (hplaces : ∀ p, PlaceOk w'.shared (Quiet w'.threads) p (phaseAt m' p))
    (hflight : ∀ id, (w'.shared.controllers id).control.submitsInFlight =
      (w.shared.controllers id).control.submitsInFlight)
    (hlive : ∀ t ∈ w'.threads, ∀ id handle, touches t id handle →
      Live w.shared id handle (!t.kind.isCallback) →
        Live w'.shared id handle (!t.kind.isCallback)) : Ok m' w' := by
  have hlive' : ∀ t ∈ w'.threads, ∀ id handle, touches t id handle →
      Live w'.shared id handle (!t.kind.isCallback) := by
    intro t ht id handle htouch
    obtain ⟨u, hu, hkind, hbefore⟩ := hc.touches_before ht htouch
    have := hok.live_of_touches hu hbefore
    rw [hkind] at this
    exact hlive t ht id handle htouch this
  refine ⟨hgate, hplaces, fun id => ?_, fun t ht a ha id handle hsub => ⟨?_, ?_⟩, ?_⟩
  · rw [hflight id, hok.inFlight id, hc.pending id]
  · exact hlive' t ht id handle (.inl ⟨a, ha, hsub⟩)
  · intro id' handle' c hkind
    obtain ⟨u, hu, hukind, hbefore⟩ := hc.touches_before ht (.inl ⟨a, ha, hsub⟩)
    rcases hbefore with ⟨b, hb, hsub'⟩ | ⟨_, c', hkind'⟩
    · exact (hok.submits u hu b hb id handle hsub').2 id' handle' c (hukind.trans hkind)
    · rw [hukind, hkind] at hkind'
      injection hkind' with h₁ h₂ h₃
      exact ⟨h₁, h₂⟩
  · intro t ht htodo id handle c hkind
    have := hlive' t ht id handle (.inr ⟨htodo, c, hkind⟩)
    rwa [hkind] at this

-- The usual case: no child is deleted.
theorem Calm.ok (hc : Calm s) {m m' : Option Mode} (hok : Ok m w)
    (hgate : w'.shared.gateHeld = m'.isSome) (hplaces : ∀ p, PlaceOk w'.shared (Quiet w'.threads) p (phaseAt m' p))
    (hflight : ∀ id, (w'.shared.controllers id).control.submitsInFlight =
      (w.shared.controllers id).control.submitsInFlight)
    (hlive : ∀ id handle b, Live w.shared id handle b → Live w'.shared id handle b) : Ok m' w' :=
  hc.ok_of hok hgate hplaces hflight fun _ _ id handle _ h => hlive id handle _ h

end Calm

end LibVirtualGamepad
