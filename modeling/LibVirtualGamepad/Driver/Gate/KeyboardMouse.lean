import LibVirtualGamepad.Driver.Gate.Slots

-- The acts of the keyboard and mouse source.
namespace LibVirtualGamepad

open Interleaving

variable {k : Operation} {d : Device} {quiet : ControllerId → Handle → Prop}
  {m m₁ : Option Mode} {slot : KeyboardMouseSlot} {regs : Registers} {next : List Act}

section SetKeyboardMouse

theorem same_setKeyboardMouse {p : Place} (h : p ≠ .keyboardMouse) :
    Same d (d.setKeyboardMouse slot) p := by
  cases p with
  | keyboardMouse => exact absurd rfl h
  | controller id => exact ⟨rfl, rfl, rfl, .refl _ _, .refl _ _⟩

theorem untouched_setKeyboardMouse (hstate : slot.state = d.keyboardMouse.state)
    (hvhf : slot.vhf = d.keyboardMouse.vhf) (howner : slot.owner = d.keyboardMouse.owner) :
    Untouched d (d.setKeyboardMouse slot) := by
  refine ⟨rfl, fun p => ?_, fun _ => rfl⟩
  cases p with
  | keyboardMouse => exact ⟨hstate, hvhf, howner, .refl _ _, .refl _ _⟩
  | controller id => exact same_setKeyboardMouse (by simp)

theorem Untouched.trans {d' d'' : Device} (h : Untouched d d') (h' : Untouched d' d'') :
    Untouched d d'' := by
  refine ⟨h'.gate.trans h.gate, fun p => ?_, fun id => (h'.inFlight id).trans (h.inFlight id)⟩
  have hs := h.places p
  have hs' := h'.places p
  refine ⟨hs'.state.trans hs.state, hs'.vhf.trans hs.vhf, hs'.owner.trans hs.owner, ?_, ?_⟩
  · intro handle c hc hp
    obtain ⟨c', hc', hp', hcalls, hreturns⟩ := hs.within handle c hc hp
    obtain ⟨c'', hc'', hp'', hcalls', hreturns'⟩ := hs'.within handle c' hc' hp'
    exact ⟨c'', hc'', hp'', hcalls'.trans hcalls, hreturns'.trans hreturns⟩
  · intro handle c hc hp
    obtain ⟨c', hc', hp', hcalls, hreturns⟩ := hs'.within' handle c hc hp
    obtain ⟨c'', hc'', hp'', hcalls', hreturns'⟩ := hs.within' handle c' hc' hp'
    exact ⟨c'', hc'', hp'', hcalls'.trans hcalls, hreturns'.trans hreturns⟩

theorem untouched_setCore (core : KeyboardMouse.Endpoint) : Untouched d (d.setCore core) :=
  untouched_setKeyboardMouse rfl rfl rfl

theorem untouched_clearPumpActive : Untouched d d.clearPumpActive :=
  untouched_setKeyboardMouse rfl rfl rfl

theorem untouched_dropSubmitOwner : Untouched d d.dropSubmitOwner :=
  untouched_setKeyboardMouse rfl rfl rfl

theorem untouched_mapContext (context : Nat) (f : CallbackContext → CallbackContext) :
    Untouched d (d.mapContext context f) := .of_eq rfl rfl rfl rfl

theorem untouched_freeContext (context : Option Nat) : Untouched d (d.freeContext context) := by
  cases context with
  | none => exact .refl d
  | some context => exact untouched_mapContext context _

theorem retireContext_eq (context : Option Nat) :
    (d.retireContext context).controllers = d.controllers ∧
    (d.retireContext context).children = d.children ∧
    (d.retireContext context).gateHeld = d.gateHeld ∧
    (d.retireContext context).keyboardMouse = d.keyboardMouse := by
  cases context <;> exact ⟨rfl, rfl, rfl, rfl⟩

theorem placeOk_setKeyboardMouse {stage : Stage} {owner : Option File} {s : Standing}
    (hs : Stands d .keyboardMouse s) (howner : slot.owner = owner)
    (hstate : slot.state = stage.standing.state) (hvhf : slot.vhf = stage.standing.vhf)
    (hlive : s.live = stage.standing.live) (hcalls : s.calls = stage.standing.calls) :
    PlaceOk (d.setKeyboardMouse slot) quiet .keyboardMouse (.busy owner stage) := by
  refine ⟨howner, ⟨hstate, hvhf, ?_⟩, fun id handle h => by simp at h⟩
  rw [← hlive, ← hcalls]
  exact hs.children

-- The keyboard and mouse goes to a phase, whatever else the act writes beside it.
theorem Moves.keyboardMouse {M : Mode} {d' : Device} (φ : Phase)
    (hp : ∀ p, PlaceOk d quiet p (M p)) (hgate : d'.gateHeld = d.gateHeld)
    (hc : d'.controllers = d.controllers) (hch : d'.children = d.children)
    (hφ : PlaceOk d' quiet .keyboardMouse φ) (hcalm : ∀ a ∈ next, a.submission = none)
    (hchain : Chain (Act.spec k) next (some (M.set .keyboardMouse φ)) m₁) :
    Moves k d quiet (M.set .keyboardMouse φ) m₁ (d'.effect regs next) where
  gate := hgate
  places := fun p => by
    cases p with
    | keyboardMouse =>
        rw [Mode.set_same]
        exact hφ
    | controller id =>
        rw [Mode.set_of_ne (by simp)]
        refine (hp (.controller id)).congr ⟨?_, ?_, ?_, ?_, ?_⟩ fun _ _ hq => hq
        · simp [Device.effect, Device.stateAt, hc]
        · simp [Device.effect, Device.vhfAt, hc]
        · simp [Device.effect, Device.ownerAt, hc]
        · exact hch ▸ Within.refl _ _
        · exact hch ▸ Within.refl _ _
  inFlight := fun id => .inl (by simp [Device.effect, hc])
  live := fun id handle b hl => by
    obtain ⟨c, hcc, hrest⟩ := hl
    exact ⟨c, by simp [Device.effect, hch, hcc], hrest⟩
  calm := hcalm
  chain := hchain
  spawn := rfl

end SetKeyboardMouse

-- The activation that is to be stopped: what its handle shows is its live child.
structure Stoppable (d : Device) : Prop where
  children : ChildrenAt d.children .keyboardMouse d.keyboardMouse.vhf 0
  empty : d.keyboardMouse.state = .empty → d.keyboardMouse.vhf = none

theorem Settled.stoppable (h : Settled d .keyboardMouse) : Stoppable d := by
  rcases h with ⟨state, _, hs⟩ | ⟨handle, hs⟩
  · have hvhf : d.keyboardMouse.vhf = none := hs.vhf
    exact ⟨hvhf ▸ hs.children, fun _ => hvhf⟩
  · have hvhf : d.keyboardMouse.vhf = some handle := hs.vhf
    have hstate : d.keyboardMouse.state = .active := hs.state
    exact ⟨hvhf ▸ hs.children, fun h => by rw [hstate] at h; simp at h⟩

theorem stopKeyboardMouseAdmission_eq :
    d.stopKeyboardMouseAdmission.controllers = d.controllers ∧
    d.stopKeyboardMouseAdmission.children = d.children ∧
    d.stopKeyboardMouseAdmission.gateHeld = d.gateHeld := by
  unfold Device.stopKeyboardMouseAdmission
  simp only []
  split
  · exact ⟨rfl, rfl, rfl⟩
  · obtain ⟨hc, hch, hg, _⟩ := retireContext_eq (d := d) d.keyboardMouse.callbackContext
    exact ⟨hc, hch, hg⟩

-- Afterwards the source is stopped: empty, or on its way to deletion.
theorem stopKeyboardMouseAdmission_stopped (h : Stoppable d) :
    ∃ φ : Phase, φ.stopped ∧ PlaceOk d.stopKeyboardMouseAdmission quiet .keyboardMouse φ := by
  obtain ⟨hc, hch, hg, hk⟩ := retireContext_eq (d := d) d.keyboardMouse.callbackContext
  by_cases hstate : d.keyboardMouse.state = .empty
  · refine ⟨.retired, trivial, .empty, .inl rfl, ?_⟩
    have hvhf := h.empty hstate
    have hchildren := h.children
    rw [hvhf] at hchildren
    simp only [Device.stopKeyboardMouseAdmission, hstate, if_true]
    exact ⟨rfl, hvhf, hchildren⟩
  · have hchildren := h.children
    simp only [Device.stopKeyboardMouseAdmission, hstate, if_false]
    cases hvhf : d.keyboardMouse.vhf with
    | none =>
        rw [hvhf] at hchildren
        refine ⟨.busy d.keyboardMouse.owner .gone, trivial, rfl, ⟨rfl, rfl, ?_⟩,
          fun id handle h => by simp at h⟩
        simp only [Device.setKeyboardMouse, hch]
        exact hchildren
    | some handle =>
        rw [hvhf] at hchildren
        refine ⟨.busy d.keyboardMouse.owner (.stopped handle), trivial, rfl, ⟨rfl, rfl, ?_⟩,
          fun id handle h => by simp at h⟩
        simp only [Device.setKeyboardMouse, hch]
        exact hchildren

-- Draining and deleting what has been stopped brings the source to rest.
theorem chain_deleteStopped {M : Mode} {φ : Phase} (hφ : φ.stopped) (ψ : Phase) (hψ : ψ.atRest)
    (retain : Bool) :
    Chain (Act.spec k) (deleteStoppedKeyboardMouse retain) (some (M.set .keyboardMouse φ))
      (some (M.set .keyboardMouse ψ)) := by
  refine ⟨some (M.set .keyboardMouse φ), rfl, some (M.set .keyboardMouse ψ), ?_, rfl⟩
  exact ⟨M.set .keyboardMouse φ, ψ, rfl, by rw [Mode.set_same]; exact hφ, hψ, by rw [Mode.set_set]⟩

theorem deleteStopped_calm {retain : Bool} : ∀ a ∈ deleteStoppedKeyboardMouse retain,
    a.submission = none := by
  simp [deleteStoppedKeyboardMouse, Act.submission]

-- A stop of the source from a mode in which all else is settled.
theorem stop_steps {M : Mode} {d' : Device} (hst : Standings d quiet (some M))
    (hM : M.set .keyboardMouse .settled = Mode.settled) (hc : d'.controllers = d.controllers)
    (hch : d'.children = d.children) (hg : d'.gateHeld = d.gateHeld) (h : Stoppable d') :
    Steps k d quiet (some M) (some .settled)
      (d'.stopKeyboardMouseAdmission.effect regs (deleteStoppedKeyboardMouse false)) := by
  obtain ⟨φ, hφ, hplace⟩ := @stopKeyboardMouseAdmission_stopped d' quiet h
  obtain ⟨hc', hch', hg'⟩ := stopKeyboardMouseAdmission_eq (d := d')
  refine .moves (Moves.keyboardMouse φ (standings_some hst) (hg'.trans hg) (hc'.trans hc)
    (hch'.trans hch) hplace deleteStopped_calm ?_)
  have hchain : Chain (Act.spec k) (deleteStoppedKeyboardMouse false)
      (some (M.set .keyboardMouse φ)) (some (M.set .keyboardMouse .settled)) :=
    chain_deleteStopped hφ .settled trivial false
  rw [hM] at hchain
  exact hchain

-- The readiness callbacks that have entered are waited for, if there is a context.
theorem chain_entries (N : Mode) (context : Option Nat) :
    Chain (Act.spec k) (match context with
      | some context => [.keyboardMouse (.drainEntries context)]
      | none => []) (some N) (some N) := by
  cases context with
  | none => rfl
  | some context => exact .single rfl

theorem detach_steps {M : Mode} {φ : Phase} (retain : Bool) (hst : Standings d quiet (some M))
    (hM : (M .keyboardMouse).stopped) (hφ : φ.atRest)
    {choice : Choice} {o : Effect}
    (hexec : (KeyboardMouseAct.detach retain).exec d regs choice = some o) :
    Steps k d quiet (some M) (some (M.set .keyboardMouse φ)) o := by
  have hp := standings_some hst .keyboardMouse
  have hrelease : ∀ (N : Mode) (lost : Option File) (context : Option Nat),
      (N .keyboardMouse = .retired ∨ ∃ owner, N .keyboardMouse = .busy owner .gone) →
      N.set .keyboardMouse φ = M.set .keyboardMouse φ →
      Chain (Act.spec k) [.keyboardMouse (.release lost context)] (some N)
        (some (M.set .keyboardMouse φ)) :=
    fun N lost context hN heq => .single ⟨N, φ, rfl, hN, hφ, by rw [heq]⟩
  simp only [KeyboardMouseAct.exec] at hexec
  cases hkm : M .keyboardMouse with
  | settled => rw [hkm] at hM; exact absurd hM id
  | retired =>
      rw [hkm] at hp
      obtain ⟨state, hstate, hstands⟩ := hp
      have hne : d.keyboardMouse.state ≠ .stopping := by
        have hs : d.keyboardMouse.state = state := hstands.state
        rcases hstate with rfl | rfl <;> rw [hs] <;> simp
      rw [if_neg hne] at hexec
      obtain rfl := Option.some.inj hexec
      exact .still (.of_untouched (.refl d) (by simp [Act.submission])
        (hrelease M none none (.inl hkm) rfl))
  | busy owner stage =>
      rw [hkm] at hp hM
      obtain ⟨howner, hstands, _⟩ := hp
      have hstopping : d.keyboardMouse.state = .stopping := by
        cases stage <;> first | exact hstands.state | exact absurd hM id
      rw [if_pos hstopping] at hexec
      obtain rfl := Option.some.inj hexec
      cases stage with
      | stopped handle =>
          have hvhf : d.keyboardMouse.vhf = some handle := hstands.vhf
          refine .moves (Moves.keyboardMouse (.busy owner (.drained handle)) (standings_some hst)
            rfl rfl rfl ?_ ?_ ?_)
          · exact placeOk_setKeyboardMouse hstands howner hstopping rfl rfl rfl
          · rw [hvhf]
            cases d.keyboardMouse.callbackContext <;> simp [Act.submission]
          · rw [hvhf]
            have hdelete := chain_delete (k := k)
              (Mode.set_same M .keyboardMouse (.busy owner (.drained handle)))
            rw [Mode.set_set] at hdelete
            exact (hdelete.append (chain_entries _ _)).append
              (hrelease _ _ _ (.inr ⟨owner, Mode.set_same _ _ _⟩) (by rw [Mode.set_set]))
      | gone =>
          have hvhf : d.keyboardMouse.vhf = none := hstands.vhf
          refine .moves (Moves.keyboardMouse (.busy owner .gone) (standings_some hst)
            rfl rfl rfl ?_ ?_ ?_)
          · exact placeOk_setKeyboardMouse hstands howner hstopping rfl rfl rfl
          · rw [hvhf]
            cases d.keyboardMouse.callbackContext <;> simp [Act.submission]
          · rw [hvhf]
            exact (chain_entries _ _).append
              (hrelease _ _ _ (.inr ⟨owner, Mode.set_same _ _ _⟩) (by rw [Mode.set_set]))
      | starting | created | published | detached | drained | deleting => exact absurd hM id

theorem keyboardMouse_release_steps {M : Mode} {φ : Phase} (lost : Option File)
    (context : Option Nat) (hst : Standings d quiet (some M))
    (hM : M .keyboardMouse = .retired ∨ ∃ owner, M .keyboardMouse = .busy owner .gone)
    (hφ : φ.atRest) {choice : Choice} {o : Effect}
    (hexec : (KeyboardMouseAct.release lost context).exec d regs choice = some o) :
    Steps k d quiet (some M) (some (M.set .keyboardMouse φ)) o := by
  have hp := standings_some hst .keyboardMouse
  have hrest : ∀ {d' : Device}, Retired d' .keyboardMouse → PlaceOk d' quiet .keyboardMouse φ := by
    intro d' h
    cases φ with
    | settled => exact h.settled
    | retired => exact h
    | busy owner stage => exact absurd hφ id
  simp only [KeyboardMouseAct.exec, Option.some.injEq] at hexec
  subst hexec
  rcases hM with hkm | ⟨owner, hkm⟩
  · rw [hkm] at hp
    have hretired : Retired d .keyboardMouse := hp
    obtain ⟨state, hstate, hstands⟩ := hretired
    have hne : (d.keyboardMouse.state == .stopping && d.keyboardMouse.vhf.isNone) = false := by
      have hs : d.keyboardMouse.state = state := hstands.state
      rcases hstate with rfl | rfl <;> rw [hs] <;> rfl
    rw [hne]
    have hfree := untouched_freeContext (d := d) context
    refine .moves (Moves.keyboardMouse φ (standings_some hst) hfree.gate ?_ ?_ ?_ (by simp) rfl)
    · cases context <;> rfl
    · cases context <;> rfl
    · exact hrest (Retired.congr hp (hfree.places .keyboardMouse))
  · rw [hkm] at hp
    obtain ⟨_, hstands, _⟩ := hp
    have hstopping : d.keyboardMouse.state = .stopping := hstands.state
    have hvhf : d.keyboardMouse.vhf = none := hstands.vhf
    simp only [hstopping, hvhf, BEq.rfl, Option.isNone_none, Bool.and_self, if_true]
    have hreleased : Retired (d.setKeyboardMouse
        (d.keyboardMouse.released lost d.cleanupStarted)) .keyboardMouse := by
      cases lost with
      | none => exact ⟨.empty, .inl rfl, ⟨rfl, rfl, hstands.children⟩⟩
      | some file =>
          simp only [KeyboardMouseSlot.released]
          split
          · exact ⟨.empty, .inl rfl, ⟨rfl, rfl, hstands.children⟩⟩
          · exact ⟨.lost, .inr rfl, ⟨rfl, rfl, hstands.children⟩⟩
    refine .moves (Moves.keyboardMouse φ (standings_some hst) ?_ ?_ ?_ ?_ (by simp) rfl)
    · cases context <;> rfl
    · cases context <;> rfl
    · cases context <;> rfl
    · exact hrest (hreleased.congr ((untouched_freeContext context).places .keyboardMouse))

section Open

variable {owner : File} {choice : Choice} {o : Effect}

-- Every case below unfolds it; its equations are derived once, here.
attribute [local simp] KeyboardMouseAct.exec

theorem chain_keyboardMouse {M : Mode} {act : KeyboardMouseAct}
    (h : act.spec (some M) (some .settled)) :
    Chain (Act.spec k) [.keyboardMouse act] (some M) (some .settled) := .single h

theorem openBegin_steps {generation : UInt64} {childPresent : Bool}
    (hst : Standings d quiet (some .settled))
    (hexec : (KeyboardMouseAct.openBegin owner generation childPresent).exec d regs choice = some o) :
    Steps k d quiet (some .settled) (some .settled) o := by
  have hsettled : Settled d .keyboardMouse := standings_some hst .keyboardMouse
  simp only [KeyboardMouseAct.exec] at hexec
  split at hexec
  · obtain rfl := Option.some.inj hexec
    exact .still (.done (.refl d))
  · split at hexec
    · obtain rfl := Option.some.inj hexec
      exact .still (.done (.refl d))
    · rename_i hav
      simp only [Bool.or_eq_true, Bool.not_eq_true', not_or, Bool.not_eq_false] at hav
      have hne : d.stateAt .keyboardMouse ≠ .active := by
        intro h
        have hstate : d.keyboardMouse.state = .active := h
        have := hav.2
        simp [KeyboardMouseSlot.available, hstate] at this
      obtain ⟨state, _, hstands⟩ := hsettled.retired hne
      have hplace : ∀ core, PlaceOk (d.beginKeyboardMouse owner core) quiet .keyboardMouse
          (.busy (some owner) .starting) :=
        fun core => placeOk_setKeyboardMouse hstands rfl rfl rfl rfl rfl
      split at hexec
      · obtain rfl := Option.some.inj hexec
        refine .moves (Moves.keyboardMouse _ (standings_some hst) rfl rfl rfl (hplace _)
          (by simp [targetOpen, Act.submission]) ?_)
        exact Chain.append (.single rfl) (chain_keyboardMouse ⟨rfl, rfl⟩)
      · obtain rfl := Option.some.inj hexec
        refine .moves (Moves.keyboardMouse _ (standings_some hst) rfl rfl rfl (hplace _)
          (by simp [Act.submission]) ?_)
        exact chain_keyboardMouse ⟨owner, rfl, rfl⟩

theorem keyboardMouse_vhfCreate_steps {context : Nat}
    (hst : Standings d quiet (some (.busyAt .keyboardMouse owner .starting)))
    (hexec : (KeyboardMouseAct.vhfCreate owner context).exec d regs choice = some o) :
    Steps k d quiet (some (.busyAt .keyboardMouse owner .starting)) (some .settled) o := by
  have hp := standings_some hst .keyboardMouse
  rw [Mode.busyAt_same] at hp
  obtain ⟨howner, hstands, _⟩ := hp
  simp only [KeyboardMouseAct.exec] at hexec
  split at hexec
  · obtain rfl := Option.some.inj hexec
    refine .moves (N := .busyAt .keyboardMouse owner (.created d.children.length))
      ⟨rfl, fun p => ?_, fun _ => .inl rfl, fun i h b hl => ?_,
        by simp [Device.effect, Act.submission], chain_keyboardMouse ⟨rfl, rfl⟩, rfl⟩
    · by_cases hne : p = .keyboardMouse
      · subst hne
        rw [Mode.busyAt_same]
        exact ⟨howner, ⟨hstands.state, hstands.vhf, childrenAt_addChild hstands.children _⟩,
          fun id handle h => by simp at h⟩
      · rw [Mode.busyAt_of_ne hne]
        have hrest := standings_some hst p
        rw [Mode.busyAt_of_ne hne] at hrest
        exact hrest.congr (same_addChild hne) fun _ _ hq => hq
    · obtain ⟨c, hc, hplace, hrest⟩ := hl
      have hlt : h < d.children.length := (List.getElem?_eq_some_iff.mp hc).1
      exact ⟨c, by simp only [Device.effect, Device.addChild, List.getElem?_append_left hlt, hc],
        hplace, hrest⟩
  · obtain rfl := Option.some.inj hexec
    exact .still (.of_untouched (untouched_freeContext _) (by simp [Act.submission])
      (chain_keyboardMouse ⟨owner, rfl, rfl⟩))

theorem keyboardMouse_publish_steps {context : Nat} {handle : Handle}
    (hst : Standings d quiet (some (.busyAt .keyboardMouse owner (.created handle))))
    (hexec : (KeyboardMouseAct.publish owner context handle).exec d regs choice = some o) :
    Steps k d quiet (some (.busyAt .keyboardMouse owner (.created handle))) (some .settled) o := by
  have hp := standings_some hst .keyboardMouse
  rw [Mode.busyAt_same] at hp
  obtain ⟨howner, hstands, _⟩ := hp
  have hstate : d.keyboardMouse.state = .starting := hstands.state
  have howner' : d.keyboardMouse.owner = some owner := howner
  simp only [KeyboardMouseAct.exec] at hexec
  split at hexec
  · obtain rfl := Option.some.inj hexec
    refine .moves (Moves.keyboardMouse (.busy (some owner) (.published handle)) (standings_some hst)
      rfl rfl rfl (placeOk_setKeyboardMouse hstands howner' hstate rfl rfl rfl)
      (by simp [Act.submission]) ?_)
    rw [Mode.busyAt_set]
    exact chain_keyboardMouse ⟨rfl, rfl⟩
  · obtain rfl := Option.some.inj hexec
    refine stop_steps hst (Mode.busyAt_set_settled _ _ _) rfl rfl rfl ⟨hstands.children, fun h => ?_⟩
    have : d.keyboardMouse.state = .empty := h
    rw [hstate] at this
    simp at this

theorem keyboardMouse_adopt_steps {context : Nat} {handle : Handle}
    (hst : Standings d quiet (some (.busyAt .keyboardMouse owner (.published handle))))
    (hexec : (KeyboardMouseAct.adopt owner context).exec d regs choice = some o) :
    Steps k d quiet (some (.busyAt .keyboardMouse owner (.published handle))) (some .settled) o := by
  have hp := standings_some hst .keyboardMouse
  rw [Mode.busyAt_same] at hp
  obtain ⟨_, hstands, _⟩ := hp
  have hstate : d.keyboardMouse.state = .starting := hstands.state
  have hvhf : d.keyboardMouse.vhf = some handle := hstands.vhf
  simp only [KeyboardMouseAct.exec] at hexec
  split at hexec
  · obtain rfl := Option.some.inj hexec
    refine .moves (Moves.keyboardMouse .settled (standings_some hst) rfl rfl rfl
      (.inr ⟨handle, ⟨rfl, hvhf, hstands.children⟩⟩) (by simp) ?_)
    rw [Mode.busyAt_set_settled]
    rfl
  · obtain rfl := Option.some.inj hexec
    refine stop_steps hst (Mode.busyAt_set_settled _ _ _) rfl rfl rfl ⟨?_, fun h => ?_⟩
    · rw [hvhf]
      exact hstands.children
    · rw [hstate] at h
      simp at h

theorem keyboardMouse_reset_steps
    (hst : Standings d quiet (some (.busyAt .keyboardMouse owner .starting)))
    (hexec : KeyboardMouseAct.reset.exec d regs choice = some o) :
    Steps k d quiet (some (.busyAt .keyboardMouse owner .starting)) (some .settled) o := by
  have hp := standings_some hst .keyboardMouse
  rw [Mode.busyAt_same] at hp
  obtain ⟨_, hstands, _⟩ := hp
  obtain rfl := Option.some.inj hexec
  refine .moves (Moves.keyboardMouse .settled (standings_some hst) rfl rfl rfl
    (.inl ⟨.empty, .inl rfl, ⟨rfl, rfl, hstands.children⟩⟩) (by simp) ?_)
  rw [Mode.busyAt_set_settled]
  rfl

end Open

-- The acts of callbacks and of the pump, and the answers: they need no gate.
section Still

variable {choice : Choice} {o : Effect} {owner : File}

theorem still_effect {d' : Device} (h : Untouched d d') (acts : List KeyboardMouseAct)
    (hacts : ∀ a ∈ acts, a.spec m m) : Still k d m m (d'.effect regs (acts.map .keyboardMouse)) := by
  refine .of_untouched h (fun a ha => ?_) (chain_same fun a ha => ?_)
  · obtain ⟨b, _, rfl⟩ := List.mem_map.mp ha
    rfl
  · obtain ⟨b, hb, rfl⟩ := List.mem_map.mp ha
    exact hacts b hb

theorem chain_keyboardMouse_request (owner : File) (request : KeyboardMouseRequest) :
    Chain (Act.spec k) (request.program owner) none none := by
  have hlock : Chain (Act.spec k) [.lockLifetime] none (some .settled) := .single ⟨rfl, rfl⟩
  cases request with
  | query => exact .single rfl
  | openSource => exact .single ⟨rfl, rfl⟩
  | close => exact hlock.append (.single ⟨rfl, rfl⟩)
  | abort =>
      have habort : Chain (Act.spec k) [.keyboardMouse (.abort owner)] (some .settled)
          (some .settled) := .single ⟨rfl, rfl⟩
      exact chain_gated habort atRest_settled
  | submit request => exact hlock.append (.single ⟨rfl, rfl⟩)

theorem keyboardMouse_request_calm (owner : File) (request : KeyboardMouseRequest) :
    ∀ a ∈ request.program owner, a.submission = none := by
  cases request <;> simp [KeyboardMouseRequest.program, Act.submission]

-- The gate is given back and what follows needs no gate.
theorem chain_unlock (acts : List KeyboardMouseAct) (h : ∀ a ∈ acts, a.spec none none) :
    Chain (Act.spec k) (.unlockLifetime :: acts.map .keyboardMouse) (some .settled) none := by
  refine ⟨none, ⟨⟨_, rfl, atRest_settled⟩, rfl⟩, chain_same fun a ha => ?_⟩
  obtain ⟨b, hb, rfl⟩ := List.mem_map.mp ha
  exact h b hb

theorem still_unlock {d' : Device} (h : Untouched d d') (acts : List KeyboardMouseAct)
    (hacts : ∀ a ∈ acts, a.spec none none) :
    Still k d (some .settled) none
      (d'.effect regs (.unlockLifetime :: acts.map .keyboardMouse)) := by
  refine .of_untouched h (fun a ha => ?_) (chain_unlock acts hacts)
  rcases List.mem_cons.mp ha with rfl | ha
  · rfl
  · obtain ⟨b, _, rfl⟩ := List.mem_map.mp ha
    rfl

theorem keyboardMouse_submit_still {request : KeyboardMouse.Request}
    (hexec : (KeyboardMouseAct.submit owner request).exec d regs choice = some o) :
    Still k d (some .settled) none o := by
  have hsame : Untouched d d := .refl d
  have hanswer : ∀ a ∈ [KeyboardMouseAct.submitAnswer], a.spec none none := by
    simp [KeyboardMouseAct.spec]
  simp only [KeyboardMouseAct.exec] at hexec
  split at hexec
  · obtain rfl := Option.some.inj hexec
    exact still_unlock hsame [.submitAnswer] hanswer
  · split at hexec
    · obtain rfl := Option.some.inj hexec
      exact still_unlock hsame [.submitAnswer] hanswer
    · split at hexec
      · obtain rfl := Option.some.inj hexec
        exact still_unlock hsame [.submitAnswer] hanswer
      · obtain rfl := Option.some.inj hexec
        split
        · exact still_unlock (untouched_setCore _) [.pumpEnter none, .submitAnswer]
            (by simp [KeyboardMouseAct.spec])
        · exact still_unlock (untouched_setCore _) [.submitAnswer] hanswer

theorem keyboardMouse_close_steps (hst : Standings d quiet (some .settled))
    (hexec : (KeyboardMouseAct.close owner).exec d regs choice = some o) :
    Steps k d quiet (some .settled) none o := by
  have hsame : Untouched d d := .refl d
  have hnone : ∀ a ∈ ([] : List KeyboardMouseAct), a.spec none none := by simp
  have hsettled : Settled d .keyboardMouse := standings_some hst .keyboardMouse
  simp only [KeyboardMouseAct.exec] at hexec
  split at hexec
  · obtain rfl := Option.some.inj hexec
    exact .still (still_unlock hsame [] hnone)
  · split at hexec
    · obtain rfl := Option.some.inj hexec
      exact .still (still_unlock hsame [] hnone)
    · split at hexec
      · obtain rfl := Option.some.inj hexec
        exact .still (still_unlock hsame [] hnone)
      · split at hexec
        · obtain rfl := Option.some.inj hexec
          obtain ⟨φ, hφ, hplace⟩ :=
            @stopKeyboardMouseAdmission_stopped d quiet hsettled.stoppable
          obtain ⟨hc, hch, hg⟩ := stopKeyboardMouseAdmission_eq (d := d)
          refine .moves (Moves.keyboardMouse φ (standings_some hst) hg hc hch hplace ?_ ?_)
          · simp [deleteStoppedKeyboardMouse, Act.submission]
          · have hdelete : Chain (Act.spec k) (deleteStoppedKeyboardMouse false)
                (some (Mode.settled.set .keyboardMouse φ))
                (some (Mode.settled.set .keyboardMouse .settled)) :=
              chain_deleteStopped hφ .settled trivial false
            rw [Mode.settled_set] at hdelete
            exact hdelete.append (chain_unlock [] hnone)
        · obtain rfl := Option.some.inj hexec
          split
          · exact .still (still_unlock (untouched_setCore _) [.pumpEnter none, .closeAnswer]
              (by simp [KeyboardMouseAct.spec]))
          · exact .still (still_unlock (untouched_setCore _) [] hnone)

theorem keyboardMouse_abort_steps (hst : Standings d quiet (some .settled))
    (hexec : (KeyboardMouseAct.abort owner).exec d regs choice = some o) :
    Steps k d quiet (some .settled) (some .settled) o := by
  have hsettled : Settled d .keyboardMouse := standings_some hst .keyboardMouse
  simp only [KeyboardMouseAct.exec] at hexec
  split at hexec
  · obtain rfl := Option.some.inj hexec
    exact .still (.done (.refl d))
  · split at hexec
    · obtain rfl := Option.some.inj hexec
      exact .still (.done (.refl d))
    · obtain rfl := Option.some.inj hexec
      exact stop_steps hst (Mode.settled_set _) rfl rfl rfl hsettled.stoppable

theorem keyboardMouse_cleanupStop_steps (hst : Standings d quiet (some .settled))
    (hexec : (KeyboardMouseAct.cleanupStop owner).exec d regs choice = some o) :
    Steps k d quiet (some .settled) (some .settled) o := by
  have hsettled : Settled d .keyboardMouse := standings_some hst .keyboardMouse
  simp only [KeyboardMouseAct.exec] at hexec
  split at hexec
  · obtain rfl := Option.some.inj hexec
    split
    · exact stop_steps hst (Mode.settled_set _) rfl rfl rfl hsettled.stoppable
    · rename_i hstate
      -- Only the generation has moved.
      have hempty : d.keyboardMouse.state = .empty := by
        by_contra hne
        simp only [Device.stopKeyboardMouseAdmission, hne, if_false] at hstate
        exact hstate rfl
      simp only [Device.stopKeyboardMouseAdmission, hempty, if_true]
      exact .still (.done (untouched_setKeyboardMouse hempty.symm rfl rfl))
  · obtain rfl := Option.some.inj hexec
    exact .still (.done (.refl d))

-- What a callback of readiness and the pump do.
theorem keyboardMouse_pump_still {act : KeyboardMouseAct}
    (hact : (∃ c, act = .readyEnter c ∨ act = .readyCheck c ∨ act = .readyGrant c ∨
        act = .readyExit c) ∨
      ∃ handle c, act = .pumpEnter c ∨ act = .pumpTake c ∨ act = .submitLeave handle c)
    (hexec : act.exec d regs choice = some o) : Still k d m m o := by
  have hsame : Untouched d d := .refl d
  rcases hact with ⟨c, rfl | rfl | rfl | rfl⟩ | ⟨handle, c, rfl | rfl | rfl⟩ <;>
    simp only [KeyboardMouseAct.exec] at hexec
  · obtain rfl := Option.some.inj hexec
    exact still_effect (untouched_mapContext _ _) [.readyCheck c] (by simp [KeyboardMouseAct.spec])
  · split at hexec
    · obtain rfl := Option.some.inj hexec
      exact still_effect hsame [.readyExit c] (by simp [KeyboardMouseAct.spec])
    · obtain rfl := Option.some.inj hexec
      exact still_effect hsame [.readyGrant c] (by simp [KeyboardMouseAct.spec])
  · split at hexec
    · obtain rfl := Option.some.inj hexec
      exact still_effect (untouched_setCore _) [.pumpEnter (some c), .readyExit c]
        (by simp [KeyboardMouseAct.spec])
    · obtain rfl := Option.some.inj hexec
      exact still_effect hsame [.readyExit c] (by simp [KeyboardMouseAct.spec])
  · obtain rfl := Option.some.inj hexec
    exact .done (untouched_mapContext _ _)
  · split at hexec
    · obtain rfl := Option.some.inj hexec
      exact .done hsame
    · obtain rfl := Option.some.inj hexec
      have hd : Untouched d (d.setKeyboardMouse { d.keyboardMouse with pumpActive := true }) :=
        untouched_setKeyboardMouse rfl rfl rfl
      exact still_effect hd [.pumpTake c] (by simp [KeyboardMouseAct.spec])
  · split at hexec
    · rename_i core _
      obtain rfl := Option.some.inj hexec
      have hd : Untouched d ((d.setCore core).setKeyboardMouse
          { (d.setCore core).keyboardMouse with
            submitOwners := d.keyboardMouse.submitOwners + 1 }) :=
        (untouched_setCore core).trans (untouched_setKeyboardMouse rfl rfl rfl)
      cases d.keyboardMouse.vhf with
      | none => exact .done hd
      | some handle =>
          exact still_effect hd [.submitEnter handle c] (by simp [KeyboardMouseAct.spec])
    · obtain rfl := Option.some.inj hexec
      exact .done ((untouched_setCore _).trans untouched_clearPumpActive)
  · split at hexec
    · obtain rfl := Option.some.inj hexec
      exact .done (untouched_dropSubmitOwner.trans untouched_clearPumpActive)
    · split at hexec
      · obtain rfl := Option.some.inj hexec
        exact still_effect untouched_dropSubmitOwner [.pumpTake c] (by simp [KeyboardMouseAct.spec])
      · obtain rfl := Option.some.inj hexec
        exact .done (((untouched_setCore _).trans untouched_dropSubmitOwner).trans
          untouched_clearPumpActive)

end Still

-- The checks of an open before the slot is taken and while it is starting.
theorem keyboardMouse_open_still {choice : Choice} {o : Effect} {act : KeyboardMouseAct}
    (owner : File)
    (hact : (∃ request, act = .authorize owner request) ∨ act = .openCheck owner ∨
      (∃ generation, act = .openEnumerate owner generation) ∨ act = .targetOpened owner ∨
      act = .readTarget owner ∨ act = .allocate owner ∨ ∃ c h, act = .start owner c h)
    (hspec : act.spec m m₁) (hexec : act.exec d regs choice = some o) : Still k d m m₁ o := by
  have hsame : Untouched d d := .refl d
  have hreset : Chain (Act.spec k) [.keyboardMouse .reset]
      (some (.busyAt .keyboardMouse owner .starting)) (some .settled) := .single ⟨owner, rfl, rfl⟩
  rcases hact with ⟨request, rfl⟩ | rfl | ⟨generation, rfl⟩ | rfl | rfl | rfl | ⟨c, h, rfl⟩ <;>
    obtain ⟨rfl, rfl⟩ := hspec <;> simp only [KeyboardMouseAct.exec] at hexec
  · split at hexec
    · obtain rfl := Option.some.inj hexec
      exact .of_untouched hsame (keyboardMouse_request_calm owner request)
        (chain_keyboardMouse_request owner request)
    · obtain rfl := Option.some.inj hexec
      exact .done hsame
  · split at hexec
    · obtain rfl := Option.some.inj hexec
      exact .done hsame
    · split at hexec
      · obtain rfl := Option.some.inj hexec
        exact .done hsame
      · obtain rfl := Option.some.inj hexec
        exact .of_untouched hsame (by simp [Act.submission]) (.single ⟨rfl, rfl⟩)
  · obtain rfl := Option.some.inj hexec
    have hbegin : Chain (Act.spec k) [.keyboardMouse (.openBegin owner generation
        choice.childPresent)] (some .settled) (some .settled) := .single ⟨rfl, rfl⟩
    exact .of_untouched hsame (by simp [Act.submission]) (chain_gated hbegin atRest_settled)
  · split at hexec
    · obtain rfl := Option.some.inj hexec
      exact .of_untouched hsame (by simp [Act.submission]) (chain_keyboardMouse ⟨rfl, rfl⟩)
    · obtain rfl := Option.some.inj hexec
      exact .of_untouched hsame (by simp [Act.submission]) hreset
  · split at hexec
    · obtain rfl := Option.some.inj hexec
      exact .of_untouched hsame (by simp [Act.submission]) (chain_keyboardMouse ⟨rfl, rfl⟩)
    · obtain rfl := Option.some.inj hexec
      exact .of_untouched hsame (by simp [Act.submission]) hreset
  · split at hexec
    · obtain rfl := Option.some.inj hexec
      exact .of_untouched (.of_eq rfl rfl rfl rfl) (by simp [Act.submission])
        (chain_keyboardMouse ⟨rfl, rfl⟩)
    · obtain rfl := Option.some.inj hexec
      exact .of_untouched hsame (by simp [Act.submission]) hreset
  · obtain rfl := Option.some.inj hexec
    exact .of_untouched (untouched_startChild h) (by simp [Act.submission])
      (chain_keyboardMouse ⟨h, rfl, rfl⟩)

-- The rest of what keeps the mode.
theorem keyboardMouse_answer_still {choice : Choice} {o : Effect} {act : KeyboardMouseAct}
    (hact : (∃ owner, act = .query owner ∨ act = .cleanupIntent owner) ∨ act = .drain ∨
      act = .submitAnswer ∨ act = .closeAnswer ∨ (∃ c, act = .drainEntries c) ∨
      ∃ h c, act = .submitEnter h c)
    (hexec : act.exec d regs choice = some o) : Still k d m m o := by
  have hsame : Untouched d d := .refl d
  rcases hact with ⟨owner, rfl | rfl⟩ | rfl | rfl | rfl | ⟨c, rfl⟩ | ⟨h, c, rfl⟩ <;>
    simp only [KeyboardMouseAct.exec] at hexec
  · split at hexec <;> obtain rfl := Option.some.inj hexec <;> exact .done hsame
  · obtain rfl := Option.some.inj hexec
    exact .done (.of_eq rfl rfl rfl rfl)
  · split at hexec
    · simp at hexec
    · obtain rfl := Option.some.inj hexec
      exact .done hsame
  · split at hexec
    · obtain rfl := Option.some.inj hexec
      exact .done hsame
    · split at hexec <;> obtain rfl := Option.some.inj hexec <;> exact .done hsame
  · obtain rfl := Option.some.inj hexec
    exact .done hsame
  · split at hexec
    · split at hexec
      · obtain rfl := Option.some.inj hexec
        exact .done hsame
      · simp at hexec
    · obtain rfl := Option.some.inj hexec
      exact .done hsame
  · obtain rfl := Option.some.inj hexec
    exact still_effect hsame [.submitLeave h c] (by simp [KeyboardMouseAct.spec])

theorem keyboardMouse_steps {choice : Choice} {o : Effect} {act : KeyboardMouseAct}
    (hspec : act.spec m m₁) (hst : Standings d quiet m)
    (hexec : act.exec d regs choice = some o) : Steps k d quiet m m₁ o := by
  cases act with
  | authorize owner request => exact .still (keyboardMouse_open_still owner (by simp) hspec hexec)
  | openCheck owner => exact .still (keyboardMouse_open_still owner (by simp) hspec hexec)
  | openEnumerate owner generation => exact .still (keyboardMouse_open_still owner (by simp) hspec hexec)
  | targetOpened owner => exact .still (keyboardMouse_open_still owner (by simp) hspec hexec)
  | readTarget owner => exact .still (keyboardMouse_open_still owner (by simp) hspec hexec)
  | allocate owner => exact .still (keyboardMouse_open_still owner (by simp) hspec hexec)
  | start owner context handle => exact .still (keyboardMouse_open_still owner (by simp) hspec hexec)
  | openBegin owner generation childPresent =>
      obtain ⟨rfl, rfl⟩ := hspec
      exact openBegin_steps hst hexec
  | vhfCreate owner context =>
      obtain ⟨rfl, rfl⟩ := hspec
      exact keyboardMouse_vhfCreate_steps hst hexec
  | publish owner context handle =>
      obtain ⟨rfl, rfl⟩ := hspec
      exact keyboardMouse_publish_steps hst hexec
  | adopt owner context =>
      obtain ⟨handle, rfl, rfl⟩ := hspec
      exact keyboardMouse_adopt_steps hst hexec
  | reset =>
      obtain ⟨owner, rfl, rfl⟩ := hspec
      exact keyboardMouse_reset_steps hst hexec
  | detach retain =>
      obtain ⟨M, φ, rfl, hM, hφ, rfl⟩ := hspec
      exact detach_steps retain hst hM hφ hexec
  | release lost context =>
      obtain ⟨M, φ, rfl, hM, hφ, rfl⟩ := hspec
      exact keyboardMouse_release_steps lost context hst hM hφ hexec
  | submit owner request =>
      obtain ⟨rfl, rfl⟩ := hspec
      exact .still (keyboardMouse_submit_still hexec)
  | close owner =>
      obtain ⟨rfl, rfl⟩ := hspec
      exact keyboardMouse_close_steps hst hexec
  | abort owner =>
      obtain ⟨rfl, rfl⟩ := hspec
      exact keyboardMouse_abort_steps hst hexec
  | cleanupStop owner =>
      obtain ⟨rfl, rfl⟩ := hspec
      exact keyboardMouse_cleanupStop_steps hst hexec
  | query owner | cleanupIntent owner =>
      obtain rfl : m₁ = m := hspec
      exact .still (keyboardMouse_answer_still (by simp) hexec)
  | drain | submitAnswer | closeAnswer =>
      obtain rfl : m₁ = m := hspec
      exact .still (keyboardMouse_answer_still (by simp) hexec)
  | drainEntries context =>
      obtain rfl : m₁ = m := hspec
      exact .still (keyboardMouse_answer_still (by simp) hexec)
  | submitEnter handle context =>
      obtain rfl : m₁ = m := hspec
      exact .still (keyboardMouse_answer_still (by simp) hexec)
  | readyEnter context | readyCheck context | readyGrant context | readyExit context
  | pumpEnter context | pumpTake context | submitLeave _ context =>
      obtain rfl : m₁ = m := hspec
      exact .still (keyboardMouse_pump_still (by simp) hexec)

end LibVirtualGamepad
