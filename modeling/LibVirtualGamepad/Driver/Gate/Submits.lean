import LibVirtualGamepad.Driver.Gate.Power
import LibVirtualGamepad.Driver.Reports
import Mathlib.Algebra.BigOperators.Fin

-- The acts that hand reports to VHF, from the section that takes one to the return of
-- the submission.
namespace LibVirtualGamepad

open Interleaving

section Sections

variable {s : Section} {data : SlotData}

theorem silent_run {step : SlotStep} (h : step.silent = true) :
    (step.run s data).submit = false ∧ (step.run s data).startKeepalive = false ∧
      (step.run s data).next = [] := by
  cases step with
  | query owner =>
      simp only [SlotStep.run, Section.query]
      split
      · exact ⟨rfl, rfl, rfl⟩
      · split <;> exact ⟨rfl, rfl, rfl⟩
  | attributes owner request =>
      simp only [SlotStep.run, Section.attributes]
      split
      · exact ⟨rfl, rfl, rfl⟩
      · split
        · exact ⟨rfl, rfl, rfl⟩
        · split <;> exact ⟨rfl, rfl, rfl⟩
  | poll owner =>
      simp only [SlotStep.run, Section.poll]
      split
      · exact ⟨rfl, rfl, rfl⟩
      · split
        · exact ⟨rfl, rfl, rfl⟩
        · split
          · exact ⟨rfl, rfl, rfl⟩
          · split <;> exact ⟨rfl, rfl, rfl⟩
  | input | beginUpdate | applyUpdate | carryMotion | profileReport | pumpReport | ready | write
  | getFeature | setFeature | getInputReport | keepalive => simp [SlotStep.silent] at h

-- The keep-alive only serves active slots.
theorem keepaliveActive_of_submit (h : (s.keepalive data).submit = true) :
    s.keepaliveActive data = true := by
  by_contra hidle
  have hskip : (!s.keepaliveActive data) = true := by simpa using hidle
  simp only [Section.keepalive, hskip, if_true] at h
  exact absurd h (by simp)

theorem accepts_state (h : s.acceptsVhfCallbacks = true) :
    s.control.vhf.isSome = true ∧ (s.control.state = .starting ∨ s.control.state = .active) := by
  simp only [Section.acceptsVhfCallbacks, Bool.and_eq_true, Bool.or_eq_true, beq_iff_eq] at h
  exact ⟨h.1.2, h.2⟩

theorem keepaliveActive_state (h : s.keepaliveActive data = true) :
    s.control.vhf.isSome = true ∧ s.control.state = .active := by
  simp only [Section.keepaliveActive, Section.isActive, Bool.and_eq_true, beq_iff_eq] at h
  exact ⟨h.1.1.2, h.1.1.1.2⟩

end Sections

variable {w w' : World} {j : Nat} {choice : Choice} {s : System.ActStep driver w j choice w'}
  {held m m₁ : Option Mode} {k : Operation} {d : Device} {quiet : ControllerId → Handle → Prop}

-- A handle that a section has read from a slot in use, for a submission of its own.
structure Handed (k : Operation) (d : Device) (id : ControllerId) (handle : Handle) : Prop where
  vhf : d.vhfAt (.controller id) = some handle
  state : d.stateAt (.controller id) = .active ∨
    (d.stateAt (.controller id) = .starting ∧ k.isCallback = true)
  own : ∀ id' handle' c, k = .callback id' handle' c → id' = id

-- An effect that leaves the lifecycle alone and counts its submissions.
structure Submits (k : Operation) (d : Device) (m m₁ : Option Mode) (a : Act) (o : Effect) :
    Prop where
  gate : o.shared.gateHeld = d.gateHeld
  places : ∀ p, Same d o.shared p
  inFlight : ∀ id, (o.shared.controllers id).control.submitsInFlight +
    (if a.submitsTo id then 1 else 0) =
      (d.controllers id).control.submitsInFlight + o.next.countP (Act.submitsTo id)
  submits : ∀ b ∈ o.next, ∀ id handle, b.submission = some (id, handle) →
    a.submission = some (id, handle) ∨ Handed k d id handle
  chain : Chain (Act.spec k) o.next m m₁
  spawn : o.spawn = []

-- What a section has read is the live child of the slot.
theorem PlaceOk.handed {φ : Phase} {id : ControllerId} {handle : Handle}
    (h : PlaceOk d quiet (.controller id) φ) (hh : Handed k d id handle) :
    ChildrenAt d.children (.controller id) (some handle) 0 := by
  have hactive : ∀ {live}, Stands d (.controller id) (.active live) →
      ChildrenAt d.children (.controller id) (some handle) 0 := by
    intro live hstands
    have hvhf := hstands.vhf
    rw [hh.vhf] at hvhf
    obtain rfl : handle = live := Option.some.inj hvhf
    exact hstands.children
  have hidle : ∀ {state}, Stands d (.controller id) (.idle state) → False := by
    intro state hstands
    have hvhf := hstands.vhf
    rw [hh.vhf] at hvhf
    simp [Standing.idle] at hvhf
  cases φ with
  | settled =>
      rcases h with ⟨state, _, hstands⟩ | ⟨live, hstands⟩
      · exact (hidle hstands).elim
      · exact hactive hstands
  | retired =>
      obtain ⟨state, _, hstands⟩ := h
      exact (hidle hstands).elim
  | busy owner stage =>
      obtain ⟨_, hstands, _⟩ := h
      have hstate := hstands.state
      have hvhf := hstands.vhf
      rw [hh.vhf] at hvhf
      cases stage with
      | published live =>
          obtain rfl : handle = live := Option.some.inj hvhf
          exact hstands.children
      | stopped live =>
          rcases hh.state with hs | ⟨hs, _⟩ <;> rw [hs] at hstate <;>
            simp [Stage.standing] at hstate
      | starting | created | detached | drained | deleting | gone =>
          simp [Stage.standing, Standing.idle] at hvhf

-- The phases of other slots, and of a slot that is settled, ask nothing new.
theorem PlaceOk.congr_quiet {quiet' : ControllerId → Handle → Prop} {d' : Device} {p : Place}
    {φ : Phase} (h : PlaceOk d quiet p φ) (hsame : Same d d' p)
    (hquiet : ∀ id handle, p = .controller id → d.stateAt (.controller id) ≠ .active →
      quiet id handle → quiet' id handle) : PlaceOk d' quiet' p φ := by
  cases φ with
  | settled => exact Settled.congr h hsame
  | retired => exact Retired.congr h hsame
  | busy owner stage =>
      obtain ⟨howner, hstands, hq⟩ := h
      refine ⟨hsame.owner.trans howner, hstands.congr hsame, fun id handle hp hs => ?_⟩
      refine hquiet id handle hp ?_ (hq id handle hp hs)
      rw [← hp, hstands.state]
      cases stage <;> simp [Stage.standing, Standing.idle]

section

variable (h : Submits s.thread.kind w.shared m m₁ s.act s.outcome)
include h

theorem Submits.keeps_quiet {id : ControllerId} {handle : Handle}
    (hstate : w.shared.stateAt (.controller id) ≠ .active) (hq : Quiet w.threads id handle) :
    Quiet w'.threads id handle := by
  intro hw
  rcases s.waiting_after _ hw with hold | ⟨a, ha, hk, hsub⟩ | hspawn
  · exact hq hold
  · rcases h.submits a ha id handle hsub with hact | hhanded
    · have hmem : s.act ∈ s.thread.todo := by
        rw [s.todo]
        exact List.mem_cons_self
      exact hq ⟨s.thread, s.mem, s.act, hmem, hk, hact⟩
    · rcases hhanded.state with hactive | ⟨_, hcallback⟩
      · exact hstate hactive
      · rw [hk] at hcallback
        exact absurd hcallback (by simp)
  · obtain ⟨t, ht, _⟩ := hspawn
    rw [h.spawn] at ht
    exact absurd ht (by simp)

theorem Submits.inFlight_eq (hok : Ok held w) (id : ControllerId) :
    (w'.shared.controllers id).control.submitsInFlight =
      pending (fun _ a => a.submitsTo id) w'.threads := by
  have hpending := s.pending_eq fun _ a => a.submitsTo id
  have hflight : (s.outcome.shared.controllers id).control.submitsInFlight +
      (if s.act.submitsTo id then 1 else 0) = (w.shared.controllers id).control.submitsInFlight +
        s.outcome.next.countP (fun a => a.submitsTo id) := h.inFlight id
  have hspawn : pending (fun _ a => a.submitsTo id) s.outcome.spawn = 0 := by
    rw [h.spawn]
    rfl
  rw [hspawn, ← hok.inFlight id] at hpending
  rw [s.shared_after]
  omega

theorem Submits.submits_eq (hok : Ok held w) {t : Task} (ht : t ∈ w'.threads) {a : Act}
    (ha : a ∈ t.todo) {id : ControllerId} {handle : Handle}
    (hsub : a.submission = some (id, handle)) :
    Live w'.shared id handle (!t.kind.isCallback) ∧
      ∀ id' handle' c, t.kind = .callback id' handle' c → id' = id ∧ handle' = handle := by
  have hlive : ∀ {b}, Live w.shared id handle b → Live w'.shared id handle b := by
    intro b hl
    rw [s.shared_after]
    exact hl.congr (h.places _)
  have hold : ∀ u ∈ w.threads, ∀ b ∈ u.todo, b.submission = some (id, handle) →
      Live w'.shared id handle (!u.kind.isCallback) ∧
        ∀ id' handle' c, u.kind = .callback id' handle' c → id' = id ∧ handle' = handle := by
    intro u hu b hb hbsub
    obtain ⟨hl, hcallback⟩ := hok.submits u hu b hb id handle hbsub
    exact ⟨hlive hl, hcallback⟩
  rcases s.mem_after t ht with rfl | hmem | hspawn
  · rcases List.mem_append.mp ha with hnext | hrest
    · rcases h.submits a hnext id handle hsub with hact | hhanded
      · exact hold s.thread s.mem s.act (by rw [s.todo]; exact List.mem_cons_self) hact
      · have hchildren := (hok.places (.controller id)).handed hhanded
        refine ⟨hlive (hchildren.live _), fun id' handle' c hkind => ?_⟩
        obtain rfl := hhanded.own id' handle' c hkind
        have hbusy := hok.callbacks s.thread s.mem (by rw [s.todo]; simp) id' handle' c hkind
        have heq := hchildren.live_unique hbusy
        exact ⟨rfl, (Option.some.inj heq).symm⟩
    · exact hold s.thread s.mem a (by rw [s.todo]; exact List.mem_cons_of_mem _ hrest) hsub
  · exact hold t hmem a ha hsub
  · rw [h.spawn] at hspawn
    exact absurd hspawn (by simp)

theorem Submits.keptBy (hok : Ok held w) (hm : m = none ∨ m = held) : KeptBy s held m m₁ := by
  refine keptBy_same hm ⟨?_, fun p => ?_, h.inFlight_eq hok, ?_, ?_⟩ h.chain (by simp [h.spawn])
  · rw [s.shared_after, h.gate]
    exact hok.gate
  · rw [s.shared_after]
    exact (hok.places p).congr_quiet (h.places p) fun id handle _ hstate => h.keeps_quiet hstate
  · intro t ht a ha id handle hsub
    exact h.submits_eq hok ht ha hsub
  · intro t ht htodo id handle c hkind
    have hold : ∀ u ∈ w.threads, u.kind = t.kind → u.todo ≠ [] → Live w'.shared id handle false := by
      intro u hu huk hutodo
      rw [s.shared_after]
      exact (hok.callbacks u hu hutodo id handle c (huk.trans hkind)).congr (h.places _)
    rcases s.mem_after t ht with rfl | hmem | hspawn
    · exact hold s.thread s.mem rfl (by rw [s.todo]; simp)
    · exact hold t hmem rfl htodo
    · rw [h.spawn] at hspawn
      exact absurd hspawn (by simp)

end

end LibVirtualGamepad
