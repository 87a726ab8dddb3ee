import LibVirtualGamepad.Driver.Gate

-- Every act keeps the gate's discipline: first the acts that change no lifecycle.
namespace LibVirtualGamepad

open Interleaving

variable {w w' : World} {j : Nat} {choice : Choice} {s : System.ActStep driver w j choice w'}
  {held m m₁ : Option Mode}

def KeptBy (s : System.ActStep driver w j choice w') (held m m₁ : Option Mode) : Prop :=
  ∃ after, Interleaving.Kept Act.spec Ok s held m m₁ after

-- The thread stays in its mode.
theorem keptBy_same (hm : m = none ∨ m = held) (hok : Ok held w')
    (hchain : Chain (Act.spec s.thread.kind) s.outcome.next m m₁)
    (hspawn : ∀ t ∈ s.outcome.spawn, Chain (Act.spec t.kind) t.todo none none) :
    KeptBy s held m m₁ := by
  refine ⟨m, hchain, hspawn, ?_⟩
  cases m with
  | none => exact .inl ⟨rfl, rfl, hok⟩
  | some M =>
      rcases hm with hm | hm
      · simp at hm
      · exact .inr ⟨.inl rfl, hm ▸ hok⟩

-- The thread holds the gate and goes on in another mode.
theorem keptBy_inside {M : Mode} (hm : m = some M) {after : Option Mode} (hok : Ok after w')
    (hchain : Chain (Act.spec s.thread.kind) s.outcome.next after m₁)
    (hspawn : s.outcome.spawn = []) : KeptBy s held m m₁ := by
  refine ⟨after, hchain, by simp [hspawn], .inr ⟨.inl (by simp [hm]), hok⟩⟩

theorem Live.congr {d d' : Device} {id : ControllerId} {handle : Handle} {b : Bool}
    (h : Live d id handle b) (hsame : Same d d' (.controller id)) : Live d' id handle b := by
  obtain ⟨c, hc, hp, hreturns, hcalls⟩ := h
  obtain ⟨c', hc', hp', hcalls', hreturns'⟩ := hsame.within handle c hc hp
  exact ⟨c', hc', hp', hreturns'.trans hreturns, fun hb => hcalls'.trans (hcalls hb)⟩

-- An act that leaves the lifecycle alone.
structure Untouched (d d' : Device) : Prop where
  gate : d'.gateHeld = d.gateHeld
  places : ∀ p, Same d d' p
  inFlight : ∀ id, (d'.controllers id).control.submitsInFlight =
    (d.controllers id).control.submitsInFlight

theorem Untouched.of_eq {d d' : Device} (hgate : d'.gateHeld = d.gateHeld)
    (hc : d'.controllers = d.controllers) (hk : d'.keyboardMouse = d.keyboardMouse)
    (hch : d'.children = d.children) : Untouched d d' :=
  ⟨hgate, fun _ => Same.of_eq hc hk hch, fun id => by rw [hc]⟩

theorem Untouched.refl (d : Device) : Untouched d d := .of_eq rfl rfl rfl rfl

-- An effect that submits nothing and leaves the lifecycle alone, in any mode.
structure Still (k : Operation) (d : Device) (m m₁ : Option Mode) (o : Effect) : Prop where
  untouched : Untouched d o.shared
  calm : ∀ a ∈ o.next, a.submission = none
  chain : Chain (Act.spec k) o.next m m₁
  spawn : ∀ t ∈ o.spawn, t.kind.isCallback = false ∧ (∀ a ∈ t.todo, a.submission = none) ∧
    Chain (Act.spec t.kind) t.todo none none

-- One that takes the holder of the gate from one mode to another. A counter of
-- submissions is cleared only where no child may be touched any more.
structure Moves (k : Operation) (d : Device) (quiet : ControllerId → Handle → Prop) (N : Mode)
    (m₁ : Option Mode) (o : Effect) : Prop where
  gate : o.shared.gateHeld = d.gateHeld
  places : ∀ p, PlaceOk o.shared quiet p (N p)
  inFlight : ∀ id, (o.shared.controllers id).control.submitsInFlight =
      (d.controllers id).control.submitsInFlight ∨
    ((o.shared.controllers id).control.submitsInFlight = 0 ∧ ∀ h b, ¬ Live d id h b)
  live : ∀ id h b, Live d id h b → Live o.shared id h b
  calm : ∀ a ∈ o.next, a.submission = none
  chain : Chain (Act.spec k) o.next (some N) m₁
  spawn : o.spawn = []

theorem calm_of (ha : s.act.submission = none) (hcalm : ∀ a ∈ s.outcome.next, a.submission = none)
    (hspawn : s.outcome.spawn = []) : Calm s :=
  ⟨ha, hcalm, by simp [hspawn]⟩

theorem Still.keptBy (h : Still s.thread.kind w.shared m m₁ s.outcome)
    (ha : s.act.submission = none) (hok : Ok held w) (hm : m = none ∨ m = held) :
    KeptBy s held m m₁ := by
  have hc : Calm s := ⟨ha, h.calm,
    fun t ht => ⟨(h.spawn t ht).1, (h.spawn t ht).2.1⟩⟩
  have hu := h.untouched
  rw [← s.shared_after] at hu
  refine keptBy_same hm ?_ h.chain fun t ht => (h.spawn t ht).2.2
  exact hc.ok hok (hu.gate.trans hok.gate)
    (fun p => (hok.places p).congr (hu.places p) fun _ _ => hc.quiet) hu.inFlight
    fun id _ _ hl => hl.congr (hu.places (.controller id))

-- Without a child that may be touched nothing is in flight.
theorem Ok.inFlight_eq_zero (hok : Ok m w) {id : ControllerId}
    (h : ∀ handle b, ¬ Live w.shared id handle b) :
    (w.shared.controllers id).control.submitsInFlight = 0 := by
  rw [hok.inFlight id, pending_eq_zero_iff]
  intro t ht a ha
  cases hsub : a.submission with
  | none => exact Act.submitsTo_eq_false hsub id
  | some pair =>
      obtain ⟨i, handle⟩ := pair
      by_cases hi : i = id
      · subst hi
        exact absurd (hok.submits t ht a ha i handle hsub).1 (h handle _)
      · simp [Act.submitsTo, hsub, hi]

theorem Moves.ok {M N : Mode}
    (h : Moves s.thread.kind w.shared (Quiet w.threads) N m₁ s.outcome)
    (ha : s.act.submission = none) (hok : Ok (some M) w) : Ok (some N) w' := by
  have hc : Calm s := calm_of ha h.calm h.spawn
  have hgate : w'.shared.gateHeld = (some N).isSome := by
    rw [s.shared_after, h.gate, hok.gate]
    rfl
  refine hc.ok hok hgate (fun p => ?_) (fun id => ?_) fun id handle b hl => ?_
  · rw [s.shared_after]
    exact (h.places p).congr (Same.refl _ p) fun _ _ => hc.quiet
  · rw [s.shared_after]
    rcases h.inFlight id with heq | ⟨hzero, hdead⟩
    · exact heq
    · rw [hzero, hok.inFlight_eq_zero hdead]
  · rw [s.shared_after]
    exact h.live id handle b hl

-- Either way.
def Steps (k : Operation) (d : Device) (quiet : ControllerId → Handle → Prop)
    (m m₁ : Option Mode) (o : Effect) : Prop :=
  Still k d m m₁ o ∨ (m.isSome ∧ ∃ N, Moves k d quiet N m₁ o)

-- What the holder of the gate may rely on.
def Standings (d : Device) (quiet : ControllerId → Handle → Prop) (m : Option Mode) : Prop :=
  ∀ M, m = some M → ∀ p, PlaceOk d quiet p (M p)

theorem Ok.standings (hok : Ok held w) (hm : m = none ∨ m = held) :
    Standings w.shared (Quiet w.threads) m := by
  intro M hM p
  rcases hm with hm | hm
  · rw [hM] at hm
    simp at hm
  · have hp := hok.places p
    rw [← hm, hM] at hp
    exact hp

theorem Steps.keptBy (h : Steps s.thread.kind w.shared (Quiet w.threads) m m₁ s.outcome)
    (ha : s.act.submission = none) (hok : Ok held w) (hm : m = none ∨ m = held) :
    KeptBy s held m m₁ := by
  rcases h with h | ⟨hsome, N, h⟩
  · exact h.keptBy ha hok hm
  · obtain ⟨M, hM⟩ := Option.isSome_iff_exists.mp hsome
    have hheld : held = some M := by
      rcases hm with hm | hm
      · rw [hM] at hm
        simp at hm
      · exact hm ▸ hM
    subst hheld
    exact keptBy_inside hM (h.ok ha hok) h.chain h.spawn

section Effects

variable {k : Operation} {d d' : Device} {regs : Registers} {next : List Act}

theorem Still.of_untouched (h : Untouched d d') (hcalm : ∀ a ∈ next, a.submission = none)
    (hchain : Chain (Act.spec k) next m m₁) : Still k d m m₁ (d'.effect regs next) :=
  ⟨h, hcalm, hchain, by simp [Device.effect]⟩

theorem Still.done (h : Untouched d d') : Still k d m m (d'.effect regs []) :=
  .of_untouched h (by simp) rfl

end Effects

theorem kept_lockLifetime (ha : s.act = .lockLifetime) (hok : Ok held w) (hm : m = none ∨ m = held)
    (hspec : s.act.spec s.thread.kind m m₁) : KeptBy s held m m₁ := by
  have hexec := s.exec
  rw [ha] at hexec hspec
  obtain ⟨rfl, rfl⟩ := hspec
  have hfree : w.shared.gateHeld = false := by
    by_contra h
    simp [driver, Act.exec, h] at hexec
  have ho : s.outcome = { w.shared with gateHeld := true }.effect s.thread.regs [] := by
    simpa [driver, Act.exec, hfree] using hexec.symm
  have hheld : held = none := by
    have := hok.gate
    rw [hfree] at this
    simpa using this.symm
  subst hheld
  have hc : Calm s := calm_of (by rw [ha]; rfl) (by rw [ho]; simp [Device.effect]) (by rw [ho]; rfl)
  have hsh : w'.shared = { w.shared with gateHeld := true } := by rw [s.shared_after, ho]; rfl
  have hsame : ∀ p, Same w.shared w'.shared p := fun p => by
    rw [hsh]
    exact Same.of_eq rfl rfl rfl
  refine ⟨some .settled, by rw [ho]; rfl, by rw [ho]; simp [Device.effect], .inr ⟨.inr rfl, ?_⟩⟩
  exact hc.ok hok (by rw [hsh]; rfl) (fun p => (hok.places p).congr (hsame p) fun _ _ => hc.quiet)
    (fun id => by rw [hsh]) fun id _ _ hl => hl.congr (hsame _)

theorem Retired.settled {d : Device} {p : Place} (h : Retired d p) : Settled d p := .inl h

theorem PlaceOk.settled {d : Device} {quiet : ControllerId → Handle → Prop} {p : Place} {φ : Phase}
    (h : PlaceOk d quiet p φ) (hφ : φ.atRest) : Settled d p := by
  cases φ with
  | settled => exact h
  | retired => exact Retired.settled h
  | busy owner stage => exact absurd hφ id

theorem kept_unlockLifetime (ha : s.act = .unlockLifetime) (hok : Ok held w)
    (hm : m = none ∨ m = held) (hspec : s.act.spec s.thread.kind m m₁) : KeptBy s held m m₁ := by
  have hexec := s.exec
  rw [ha] at hexec hspec
  obtain ⟨⟨M, rfl, hM⟩, rfl⟩ := hspec
  have hheld : held = some M := by
    rcases hm with hm | hm
    · simp at hm
    · exact hm.symm
  subst hheld
  have ho : s.outcome = { w.shared with gateHeld := false }.effect s.thread.regs [] := by
    simpa [driver, Act.exec] using hexec.symm
  have hc : Calm s := calm_of (by rw [ha]; rfl) (by rw [ho]; simp [Device.effect]) (by rw [ho]; rfl)
  have hsh : w'.shared = { w.shared with gateHeld := false } := by rw [s.shared_after, ho]; rfl
  have hsame : ∀ p, Same w.shared w'.shared p := fun p => by
    rw [hsh]
    exact Same.of_eq rfl rfl rfl
  refine keptBy_inside rfl ?_ (by rw [ho]; rfl) (by rw [ho]; rfl)
  exact hc.ok hok (by rw [hsh]; rfl) (fun p => ((hok.places p).settled (hM p)).congr (hsame p))
    (fun id => by rw [hsh]) fun id _ _ hl => hl.congr (hsame _)

theorem target_still {k : Operation} (d : Device) (regs : Registers) (choice : Choice)
    (act : TargetAct) : Still k d m m (act.exec d regs choice) := by
  have hsame : Untouched d d := .refl d
  have hchain : ∀ act : TargetAct, Chain (Act.spec k) [.target act] m m := fun _ => .single rfl
  cases act with
  | check =>
      simp only [TargetAct.exec]
      split
      · exact .done hsame
      · split
        · exact .done hsame
        · exact .of_untouched hsame (by simp [Act.submission]) (hchain _)
  | openByFile =>
      simp only [TargetAct.exec]
      split
      · exact .done hsame
      · split
        · exact .done hsame
        · exact .of_untouched hsame (by simp [Act.submission]) (hchain _)
  | store file => exact .done (.of_eq rfl rfl rfl rfl)

section Keepalive

variable {k : Operation} {d : Device}

theorem arm_eq (now : UInt64) : (d.arm now).gateHeld = d.gateHeld ∧
    (d.arm now).controllers = d.controllers ∧ (d.arm now).keyboardMouse = d.keyboardMouse ∧
    (d.arm now).children = d.children := by
  unfold Device.arm
  split <;> exact ⟨rfl, rfl, rfl, rfl⟩

theorem untouched_keepalive (keepalive : Keepalive) :
    Untouched d { d with keepalive := keepalive } := .of_eq rfl rfl rfl rfl

theorem chain_keepalive {acts : List KeepaliveAct} (h : ∀ a ∈ acts, a ≠ .tick ∧ a ≠ .wait) :
    Chain (Act.spec k) (acts.map .keepalive) m m := by
  refine chain_same fun a ha => ?_
  obtain ⟨b, hb, rfl⟩ := List.mem_map.mp ha
  obtain ⟨htick, hwait⟩ := h b hb
  cases b <;> first | exact rfl | exact absurd rfl htick | exact absurd rfl hwait

theorem still_keepalive (acts : List KeepaliveAct) (keepalive : Keepalive) (regs : Registers)
    (h : ∀ a ∈ acts, a ≠ .tick ∧ a ≠ .wait) :
    Still k d m m ({ d with keepalive := keepalive }.effect regs (acts.map .keepalive)) :=
  .of_untouched (untouched_keepalive keepalive)
    (fun a ha => by obtain ⟨b, _, rfl⟩ := List.mem_map.mp ha; rfl) (chain_keepalive h)

-- All but the tick.
theorem keepalive_still {threads : List Task} {regs : Registers} {act : KeepaliveAct} {o : Effect}
    (hact : act ≠ .tick) (hspec : act.spec k m m₁) (hexec : act.exec threads d regs choice = some o) :
    Still k d m m₁ o := by
  cases act with
  | tick => exact absurd rfl hact
  | join =>
      obtain rfl : m₁ = m := hspec
      simp only [KeepaliveAct.exec] at hexec
      split at hexec
      · cases hexec
        exact still_keepalive [] d.keepalive regs (by simp)
      · split at hexec
        · cases hexec
          exact still_keepalive [] _ regs (by simp)
        · simp at hexec
  | wait =>
      obtain ⟨rfl, hk⟩ := hspec
      simp only [KeepaliveAct.exec] at hexec
      split at hexec
      · cases hexec
        exact still_keepalive [.cancel, .workerExit] d.keepalive regs (by simp)
      · split at hexec
        · cases hexec
          exact .of_untouched (untouched_keepalive _) (by simp [Act.submission])
            (.single ⟨rfl, hk⟩)
        · simp at hexec
  | armFirst =>
      obtain rfl : m₁ = m := hspec
      simp only [KeepaliveAct.exec] at hexec
      split at hexec
      · cases hexec
        exact still_keepalive [.createWorker] _ regs (by simp)
      · cases hexec
        exact still_keepalive [.startFailed] d.keepalive regs (by simp)
  | createWorker =>
      obtain rfl : m₁ = m := hspec
      simp only [KeepaliveAct.exec] at hexec
      split at hexec
      · cases hexec
        refine ⟨untouched_keepalive _, by simp, rfl, fun t ht => ?_⟩
        obtain rfl := List.mem_singleton.mp ht
        exact ⟨rfl, by simp [Act.submission], .single ⟨rfl, rfl⟩⟩
      · cases hexec
        exact still_keepalive [.cancel, .startFailed] d.keepalive regs (by simp)
  | publishStart | resetStop | startFailed | signalStop | cancel | workerExit =>
      obtain rfl : m₁ = m := hspec
      cases hexec
      exact still_keepalive [] _ regs (by simp)

end Keepalive

-- One slot changes.
section SetSlot

variable {k : Operation} {d : Device} {quiet : ControllerId → Handle → Prop} {id : ControllerId}
  {slot : Slot}

theorem same_setSlot {p : Place} (h : p ≠ .controller id) : Same d (d.setSlot id slot) p := by
  cases p with
  | keyboardMouse => exact ⟨rfl, rfl, rfl, .refl _ _, .refl _ _⟩
  | controller i =>
      have hi : i ≠ id := fun heq => h (by rw [heq])
      refine ⟨?_, ?_, ?_, .refl _ _, .refl _ _⟩ <;>
        simp [Device.stateAt, Device.vhfAt, Device.ownerAt, Device.setSlot, hi]

@[simp] theorem setSlot_controllers_self : (d.setSlot id slot).controllers id = slot := by
  simp [Device.setSlot]

theorem setSlot_controllers_of_ne {i : ControllerId} (h : i ≠ id) :
    (d.setSlot id slot).controllers i = d.controllers i := by
  simp [Device.setSlot, h]

theorem ChildrenAt.not_live {calls : Nat} (h : ChildrenAt d.children (.controller id) none calls)
    (handle : Handle) (b : Bool) : ¬ Live d id handle b := fun hl => by
  have := h.live_unique hl
  simp at this

-- The slot goes to the phase that its new contents and the children agree with.
theorem placeOk_setSlot {stage : Stage} {owner : Option File} {s : Standing}
    (hs : Stands d (.controller id) s) (howner : slot.control.owner = owner)
    (hstate : slot.control.state = stage.standing.state)
    (hvhf : slot.control.vhf = stage.standing.vhf) (hlive : s.live = stage.standing.live)
    (hcalls : s.calls = stage.standing.calls)
    (hquiet : ∀ handle, stage.quiet = some handle → quiet id handle) :
    PlaceOk (d.setSlot id slot) quiet (.controller id) (.busy owner stage) := by
  refine ⟨?_, ⟨?_, ?_, ?_⟩, fun i handle hi hq => ?_⟩
  · simp [Device.ownerAt, howner]
  · simp [Device.stateAt, hstate]
  · simp [Device.vhfAt, hvhf]
  · rw [← hlive, ← hcalls]
    exact hs.children
  · obtain rfl := Place.controller.inj hi
    exact hquiet handle hq

theorem retired_setSlot {s : Standing} (hs : Stands d (.controller id) s) (hlive : s.live = none)
    (hcalls : s.calls = 0)
    (hstate : slot.control.state = .empty ∨ slot.control.state = .lost)
    (hvhf : slot.control.vhf = none) : Retired (d.setSlot id slot) (.controller id) := by
  refine ⟨slot.control.state, hstate, ⟨?_, ?_, ?_⟩⟩
  · simp [Device.stateAt, Standing.idle]
  · simp [Device.vhfAt, Standing.idle, hvhf]
  · have := hs.children
    rw [hlive, hcalls] at this
    exact this

theorem places_setSlot {M : Mode} {φ : Phase} (hp : ∀ p, PlaceOk d quiet p (M p))
    (hφ : PlaceOk (d.setSlot id slot) quiet (.controller id) φ) (p : Place) :
    PlaceOk (d.setSlot id slot) quiet p (M.set (.controller id) φ p) := by
  by_cases h : p = .controller id
  · subst h
    rw [Mode.set_same]
    exact hφ
  · rw [Mode.set_of_ne h]
    exact (hp p).congr (same_setSlot h) fun _ _ hq => hq

-- `hflight`: the counter is kept, or cleared where no child may be touched.
theorem Moves.setSlot {M : Mode} (φ : Phase) {regs : Registers} {next : List Act}
    (hp : ∀ p, PlaceOk d quiet p (M p))
    (hφ : PlaceOk (d.setSlot id slot) quiet (.controller id) φ)
    (hflight : slot.control.submitsInFlight = (d.controllers id).control.submitsInFlight ∨
      (slot.control.submitsInFlight = 0 ∧ ∀ h b, ¬ Live d id h b))
    (hcalm : ∀ a ∈ next, a.submission = none)
    (hchain : Chain (Act.spec k) next (some (M.set (.controller id) φ)) m₁) :
    Moves k d quiet (M.set (.controller id) φ) m₁ ((d.setSlot id slot).effect regs next) where
  gate := rfl
  places := places_setSlot hp hφ
  inFlight := fun i => by
    by_cases hi : i = id
    · subst hi
      simpa [Device.effect] using hflight
    · exact .inl (by simp [Device.effect, setSlot_controllers_of_ne hi])
  live := fun _ _ _ hl => hl
  calm := hcalm
  chain := hchain
  spawn := rfl

end SetSlot

end LibVirtualGamepad
