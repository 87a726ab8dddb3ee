import LibVirtualGamepad.Driver.Gate.Steps

-- The acts of create and destroy, with the children they make and delete.
namespace LibVirtualGamepad

open Interleaving

variable {k : Operation} {d : Device} {quiet : ControllerId → Handle → Prop}
  {m m₁ : Option Mode}

section Children

variable {p q : Place} {handle : Handle}

theorem within_append (cs : List Child) (c : Child) (p : Place) : Within cs (cs ++ [c]) p := by
  intro h c' hc' hp
  have hlt : h < cs.length := (List.getElem?_eq_some_iff.mp hc').1
  exact ⟨c', by rw [List.getElem?_append_left hlt]; exact hc', hp, rfl, rfl⟩

theorem within_of_append (cs : List Child) {c : Child} {p : Place} (hc : c.place ≠ p) :
    Within (cs ++ [c]) cs p := by
  intro h c' hc' hp
  by_cases hlt : h < cs.length
  · rw [List.getElem?_append_left hlt] at hc'
    exact ⟨c', hc', hp, rfl, rfl⟩
  · have hge : cs.length ≤ h := Nat.le_of_not_lt hlt
    rw [List.getElem?_append_right hge] at hc'
    have hmem := List.mem_of_getElem? hc'
    rw [List.mem_singleton] at hmem
    exact absurd (hmem ▸ hp) hc

theorem same_addChild {context : Option Nat} (h : q ≠ p) : Same d (d.addChild p context) q := by
  refine ⟨?_, ?_, ?_, within_append _ _ _, within_of_append _ h.symm⟩ <;> cases q <;> rfl

-- The new child is the only live one where all others have been deleted.
theorem childrenAt_addChild {calls : Nat} (h : ChildrenAt d.children p none calls)
    (context : Option Nat) :
    ChildrenAt (d.addChild p context).children p (some d.children.length) 0 := by
  refine ⟨fun handle hlive => ?_, fun handle c hc hp hne => ?_⟩
  · obtain rfl := Option.some.inj hlive
    refine ⟨⟨p, context, false, 0, 0⟩, ?_, rfl, rfl, rfl⟩
    simp [Device.addChild]
  · by_cases hlt : handle < d.children.length
    · simp only [Device.addChild, List.getElem?_append_left hlt] at hc
      exact h.others handle c hc hp (by simp)
    · have hge : d.children.length ≤ handle := Nat.le_of_not_lt hlt
      have hlt' := (List.getElem?_eq_some_iff.mp hc).1
      simp only [Device.addChild, List.length_append, List.length_singleton] at hlt'
      have heq : d.children.length = handle := by omega
      exact absurd (by rw [heq]) hne

-- A change of one child, seen from a place that keeps its counts.
theorem within_modify {cs : List Child} {f : Child → Child}
    (hf : ∀ c, cs[handle]? = some c → c.place = q →
      (f c).place = q ∧ (f c).deleteCalls = c.deleteCalls ∧ (f c).deleteReturns = c.deleteReturns) :
    Within cs (cs.modify handle f) q := by
  intro h c hc hp
  by_cases heq : handle = h
  · subst heq
    exact ⟨f c, by rw [List.getElem?_modify, hc]; simp, hf c hc hp⟩
  · exact ⟨c, by rw [List.getElem?_modify, hc]; simp [heq], hp, rfl, rfl⟩

theorem within_of_modify {cs : List Child} {f : Child → Child}
    (hf : ∀ c, cs[handle]? = some c → (f c).place = q →
      c.place = q ∧ c.deleteCalls = (f c).deleteCalls ∧ c.deleteReturns = (f c).deleteReturns) :
    Within (cs.modify handle f) cs q := by
  intro h c hc hp
  rw [List.getElem?_modify] at hc
  obtain ⟨c', hc', rfl⟩ := Option.map_eq_some_iff.mp hc
  by_cases heq : handle = h
  · subst heq
    simp only [if_true] at hp ⊢
    exact ⟨c', hc', hf c' hc' hp⟩
  · simp only [heq, if_false] at hp ⊢
    exact ⟨c', hc', hp, rfl, rfl⟩

theorem same_setChild {f : Child → Child}
    (hf : ∀ c, d.children[handle]? = some c → (f c).place = c.place ∧
      (c.place = q → (f c).deleteCalls = c.deleteCalls ∧ (f c).deleteReturns = c.deleteReturns)) :
    Same d (d.setChild handle f) q := by
  refine ⟨?_, ?_, ?_, within_modify fun c hc hp => ?_, within_of_modify fun c hc hp => ?_⟩
  · cases q <;> rfl
  · cases q <;> rfl
  · cases q <;> rfl
  · obtain ⟨h₁, h₂⟩ := hf c hc
    exact ⟨h₁.trans hp, h₂ hp⟩
  · obtain ⟨h₁, h₂⟩ := hf c hc
    have hp' : c.place = q := by rw [← h₁]; exact hp
    exact ⟨hp', (h₂ hp').1.symm, (h₂ hp').2.symm⟩

theorem untouched_startChild (handle : Handle) : Untouched d (d.startChild handle) :=
  ⟨rfl, fun _ => same_setChild fun _ _ => ⟨rfl, fun _ => ⟨rfl, rfl⟩⟩, fun _ => rfl⟩

end Children

theorem setSlot_setSlot (id : ControllerId) (a b : Slot) :
    (d.setSlot id a).setSlot id b = d.setSlot id b := by
  simp [Device.setSlot]

theorem clearFeedbackPending_setControl (id : ControllerId) (control : SlotControl) :
    (d.setControl id control).clearFeedbackPending id = d.setSlot id
      { control := control
        data := { (d.controllers id).data with
          feedback := { (d.controllers id).data.feedback with feedbackPending := false } } } := by
  simp only [Device.setControl, Device.clearFeedbackPending, setSlot_setSlot,
    setSlot_controllers_self]

theorem discardFeedback_setControl (id : ControllerId) (control : SlotControl) :
    (d.setControl id control).discardFeedback id = d.setSlot id
      { control := control
        data := { (d.controllers id).data with
          feedback := (d.controllers id).data.feedback.discard } } := by
  simp only [Device.setControl, Device.discardFeedback, setSlot_setSlot, setSlot_controllers_self]

theorem standings_some {M : Mode} (h : Standings d quiet (some M)) (p : Place) :
    PlaceOk d quiet p (M p) := h M rfl p

theorem Steps.still {o : Effect} (h : Still k d m m₁ o) : Steps k d quiet m m₁ o := .inl h

theorem Steps.moves {M N : Mode} {o : Effect} (h : Moves k d quiet N m₁ o) :
    Steps k d quiet (some M) m₁ o := .inr ⟨rfl, N, h⟩

section Create

variable {id : ControllerId} {owner : File} {profile : Profile} {regs : Registers}
  {choice : Choice}

theorem retired_of_available (h : Settled d (.controller id)) (hav : d.available id owner = true) :
    Retired d (.controller id) := by
  refine h.retired fun hactive => ?_
  have hstate : (d.controllers id).control.state = .active := hactive
  simp [Device.available, hstate] at hav

theorem createRefusal_none (h : d.createRefusal id owner = none) :
    d.stopping = false ∧ d.powered = true ∧ d.available id owner = true := by
  unfold Device.createRefusal at h
  split at h
  · simp at h
  · split at h
    · simp at h
    · split at h
      · simp at h
      · rename_i hs hp ha
        simp only [Bool.not_eq_true, Bool.not_eq_false'] at hs hp ha
        exact ⟨hs, hp, ha⟩

theorem chain_create {M : Mode} {act : CreateAct}
    (h : act.spec (.controller id) owner (some M) (some .settled)) :
    Chain (Act.spec k) [.create id owner profile act] (some M) (some .settled) := .single h

-- The slot is taken: from rest to starting.
theorem begin_steps (hst : Standings d quiet (some .settled))
    (hav : d.available id owner = true) :
    Steps k d quiet (some .settled) (some .settled) ((d.beginSlot id owner profile).effect regs
      (targetOpen ++ [.create id owner profile .targetOpened])) := by
  have hsettled : Settled d (.controller id) := standings_some hst (.controller id)
  obtain ⟨state, _, hstands⟩ := retired_of_available hsettled hav
  refine .moves (Moves.setSlot (.busy (some owner) .starting) (standings_some hst) ?_ ?_ ?_ ?_)
  · exact placeOk_setSlot hstands rfl rfl rfl rfl rfl (by simp [Stage.quiet])
  · exact .inr ⟨rfl, hstands.children.not_live⟩
  · simp [targetOpen, Act.submission]
  · exact Chain.append (.single rfl) (chain_create ⟨rfl, rfl⟩)

theorem releaseStartingSlot_eq (h : d.ownerAt (.controller id) = some owner)
    (hstate : d.stateAt (.controller id) = .starting ∨ d.stateAt (.controller id) = .stopping) :
    d.releaseStartingSlot id owner = d.setSlot id (d.controllers id).reset := by
  have howner : (d.controllers id).control.owner = some owner := h
  have hstate' : (d.controllers id).control.state = .starting ∨
      (d.controllers id).control.state = .stopping := hstate
  unfold Device.releaseStartingSlot Device.resetSlot
  rcases hstate' with hs | hs <;> simp [SlotControl.isOwnedBy, howner, hs]

-- A slot without a live child is given back.
theorem reset_moves {M : Mode} {φ : Phase} (hst : Standings d quiet (some M)) {s : Standing}
    (hs : Stands d (.controller id) s) (hlive : s.live = none) (hcalls : s.calls = 0)
    (hφ : φ = .settled ∨ φ = .retired) (hM : m₁ = some (M.set (.controller id) φ)) :
    Steps k d quiet (some M) m₁ ((d.setSlot id (d.controllers id).reset).effect regs []) := by
  have hretired : Retired (d.setSlot id (d.controllers id).reset) (.controller id) :=
    retired_setSlot hs hlive hcalls (.inl rfl) rfl
  have hchildren := hs.children
  rw [hlive] at hchildren
  refine .moves (Moves.setSlot φ (standings_some hst) ?_ (.inr ⟨rfl, hchildren.not_live⟩) (by simp)
    hM.symm)
  rcases hφ with rfl | rfl
  · exact hretired.settled
  · exact hretired

theorem release_steps {stage : Stage} (hstage : stage = .starting ∨ stage = .gone)
    (hst : Standings d quiet (some (.busyAt (.controller id) owner stage))) :
    Steps k d quiet (some (.busyAt (.controller id) owner stage)) (some .settled)
      ((d.releaseStartingSlot id owner).effect regs []) := by
  have hp := standings_some hst (.controller id)
  rw [Mode.busyAt_same] at hp
  obtain ⟨howner, hstands, _⟩ := hp
  have hstate : d.stateAt (.controller id) = .starting ∨ d.stateAt (.controller id) = .stopping := by
    rcases hstage with rfl | rfl
    · exact .inl hstands.state
    · exact .inr hstands.state
  rw [releaseStartingSlot_eq howner hstate]
  refine reset_moves hst hstands ?_ ?_ (.inl rfl) (by rw [Mode.busyAt_set_settled])
  · rcases hstage with rfl | rfl <;> rfl
  · rcases hstage with rfl | rfl <;> rfl

theorem vhfCreate_moves (hst : Standings d quiet (some (.busyAt (.controller id) owner .starting)))
    (hfresh : ∀ i h, d.children.length ≤ h → quiet i h) :
    Steps k d quiet (some (.busyAt (.controller id) owner .starting)) (some .settled)
      ((d.addChild (.controller id) none).effect regs
        [.create id owner profile (.publish d.children.length)]) := by
  have hp := standings_some hst (.controller id)
  rw [Mode.busyAt_same] at hp
  obtain ⟨howner, hstands, _⟩ := hp
  have hbusy : PlaceOk (d.addChild (.controller id) none) quiet (.controller id)
      (.busy (some owner) (.created d.children.length)) := by
    refine ⟨howner, ⟨hstands.state, hstands.vhf, ?_⟩, fun i handle hi hq => ?_⟩
    · exact childrenAt_addChild hstands.children none
    · obtain rfl := Option.some.inj hq
      exact hfresh i _ (Nat.le_refl _)
  refine .moves (N := .busyAt (.controller id) owner (.created d.children.length))
    ⟨rfl, fun p => ?_, fun _ => .inl rfl, fun i h b hl => ?_, by simp [Device.effect, Act.submission],
      chain_create ⟨rfl, rfl⟩, rfl⟩
  · by_cases hne : p = .controller id
    · subst hne
      rw [Mode.busyAt_same]
      exact hbusy
    · rw [Mode.busyAt_of_ne hne]
      have hrest := standings_some hst p
      rw [Mode.busyAt_of_ne hne] at hrest
      exact hrest.congr (same_addChild hne) fun _ _ hq => hq
  · obtain ⟨c, hc, hplace, hrest⟩ := hl
    have hlt : h < d.children.length := (List.getElem?_eq_some_iff.mp hc).1
    exact ⟨c, by simp only [Device.effect, Device.addChild, List.getElem?_append_left hlt, hc],
      hplace, hrest⟩

theorem publish_moves {handle : Handle} {slot : Slot}
    (hst : Standings d quiet (some (.busyAt (.controller id) owner (.created handle))))
    (hslot : slot.control = { (d.controllers id).control with vhf := some handle }) :
    Steps k d quiet (some (.busyAt (.controller id) owner (.created handle))) (some .settled)
      ((d.setSlot id slot).effect regs [.create id owner profile (.start handle)]) := by
  have hp := standings_some hst (.controller id)
  rw [Mode.busyAt_same] at hp
  obtain ⟨howner, hstands, hquiet⟩ := hp
  have howner' : (d.controllers id).control.owner = some owner := howner
  have hstate : (d.controllers id).control.state = .starting := hstands.state
  refine .moves (Moves.setSlot (.busy (some owner) (.published handle)) (standings_some hst)
    ?_ ?_ (by simp [Act.submission]) ?_)
  · exact placeOk_setSlot hstands (by rw [hslot]; exact howner') (by rw [hslot]; exact hstate)
      (by rw [hslot]; rfl) rfl rfl fun h hq => hquiet id h rfl hq
  · exact .inl (by rw [hslot])
  · rw [Mode.busyAt_set]
    exact chain_create ⟨rfl, rfl⟩

-- Adoption: the slot goes active, or is stopped with its handle taken back.
theorem adopted_moves {handle : Handle} {slot : Slot}
    (hst : Standings d quiet (some (.busyAt (.controller id) owner (.published handle))))
    (hslot : slot.control = { (d.controllers id).control with state := .active }) :
    Steps k d quiet (some (.busyAt (.controller id) owner (.published handle))) (some .settled)
      ((d.setSlot id slot).effect regs []) := by
  have hp := standings_some hst (.controller id)
  rw [Mode.busyAt_same] at hp
  obtain ⟨_, hstands, _⟩ := hp
  have hvhf : (d.controllers id).control.vhf = some handle := hstands.vhf
  refine .moves (Moves.setSlot .settled (standings_some hst) ?_ (.inl (by rw [hslot])) (by simp) ?_)
  · refine .inr ⟨handle, ⟨?_, ?_, hstands.children⟩⟩
    · simp [Device.stateAt, hslot, Standing.active]
    · simp [Device.vhfAt, hslot, Standing.active, hvhf]
  · rw [Mode.busyAt_set_settled]
    rfl

-- The child is deleted and then its slot is given back.
theorem chain_delete {M : Mode} {p : Place} {o : Option File} {handle : Handle}
    (hM : M p = .busy o (.drained handle)) :
    Chain (Act.spec k) [.deleteBegin handle, .deleteEnd handle] (some M)
      (some (M.set p (.busy o .gone))) := by
  refine ⟨some (M.set p (.busy o (.deleting handle))), ⟨M, p, o, rfl, hM, rfl⟩,
    some (M.set p (.busy o .gone)), ⟨M.set p (.busy o (.deleting handle)), p, o, rfl, ?_, ?_⟩, rfl⟩
  · rw [Mode.set_same]
  · rw [Mode.set_set]

theorem cancelled_moves {handle : Handle} {slot : Slot}
    (hst : Standings d quiet (some (.busyAt (.controller id) owner (.published handle))))
    (hslot : slot.control =
      { (d.controllers id).control with state := .stopping, vhf := none }) :
    Steps k d quiet (some (.busyAt (.controller id) owner (.published handle))) (some .settled)
      ((d.setSlot id slot).effect regs
        [.deleteBegin handle, .deleteEnd handle, .create id owner profile .release]) := by
  have hp := standings_some hst (.controller id)
  rw [Mode.busyAt_same] at hp
  obtain ⟨howner, hstands, hquiet⟩ := hp
  have howner' : (d.controllers id).control.owner = some owner := howner
  refine .moves (Moves.setSlot (.busy (some owner) (.drained handle)) (standings_some hst)
    ?_ (.inl (by rw [hslot])) (by simp [Act.submission]) ?_)
  · exact placeOk_setSlot hstands (by rw [hslot]; exact howner') (by rw [hslot]; rfl)
      (by rw [hslot]; rfl) rfl rfl fun h hq => hquiet id h rfl hq
  · rw [Mode.busyAt_set]
    have hdelete := chain_delete (k := k) (Mode.busyAt_same (.controller id) owner (.drained handle))
    rw [Mode.busyAt_set] at hdelete
    exact hdelete.append (chain_create ⟨.inr rfl, rfl⟩)

theorem create_steps {act : CreateAct} (hspec : act.spec (.controller id) owner m m₁)
    (hst : Standings d quiet m) (hfresh : ∀ i h, d.children.length ≤ h → quiet i h) :
    Steps k d quiet m m₁ (act.exec d regs choice id owner profile) := by
  have hsame : Untouched d d := .refl d
  cases act with
  | check =>
      obtain ⟨rfl, rfl⟩ := hspec
      simp only [CreateAct.exec]
      split
      · exact .still (.done hsame)
      · exact .still (.of_untouched hsame (by simp [Act.submission]) (.single ⟨rfl, rfl⟩))
  | enumerate generation =>
      obtain ⟨rfl, rfl⟩ := hspec
      have hbegin : Chain (Act.spec k) [.create id owner profile (.begin generation
          choice.childPresent)] (some .settled) (some .settled) := .single ⟨rfl, rfl⟩
      exact .still (.of_untouched hsame (by simp [Act.submission])
        (chain_gated hbegin atRest_settled))
  | «begin» generation childPresent =>
      obtain ⟨rfl, rfl⟩ := hspec
      simp only [CreateAct.exec]
      split
      · exact .still (.done hsame)
      · rename_i hrefusal
        split
        · exact .still (.done hsame)
        · exact begin_steps hst (createRefusal_none hrefusal).2.2
  | targetOpened =>
      obtain ⟨rfl, rfl⟩ := hspec
      simp only [CreateAct.exec]
      split
      · exact .still (.of_untouched hsame (by simp [Act.submission]) (chain_create ⟨rfl, rfl⟩))
      · exact .still (.of_untouched hsame (by simp [Act.submission]) (chain_create ⟨.inl rfl, rfl⟩))
  | readFile =>
      obtain ⟨rfl, rfl⟩ := hspec
      simp only [CreateAct.exec]
      split
      · exact .still (.of_untouched hsame (by simp [Act.submission]) (chain_create ⟨rfl, rfl⟩))
      · exact .still (.of_untouched hsame (by simp [Act.submission]) (chain_create ⟨.inl rfl, rfl⟩))
  | vhfCreate =>
      obtain ⟨rfl, rfl⟩ := hspec
      simp only [CreateAct.exec]
      split
      · exact vhfCreate_moves hst hfresh
      · exact .still (.of_untouched hsame (by simp [Act.submission]) (chain_create ⟨.inl rfl, rfl⟩))
  | publish handle =>
      obtain ⟨rfl, rfl⟩ := hspec
      exact publish_moves hst rfl
  | start handle =>
      obtain ⟨rfl, rfl⟩ := hspec
      exact .still (.of_untouched (untouched_startChild handle) (by simp [Act.submission])
        (chain_create ⟨rfl, rfl⟩))
  | adopt handle =>
      obtain ⟨rfl, rfl⟩ := hspec
      simp only [CreateAct.exec]
      split
      · exact adopted_moves hst rfl
      · rw [clearFeedbackPending_setControl]
        exact cancelled_moves hst rfl
  | release =>
      obtain ⟨hm, rfl⟩ := hspec
      rcases hm with rfl | rfl
      · exact release_steps (.inl rfl) hst
      · exact release_steps (.inr rfl) hst

end Create

section Destroy

variable {id : ControllerId} {owner : File} {regs : Registers}

theorem detach_moves {handle : Handle} {slot : Slot} (hst : Standings d quiet (some .settled))
    (hstands : Stands d (.controller id) (.active handle))
    (howner : (d.controllers id).control.owner = some owner)
    (hslot : slot.control =
      { (d.controllers id).control with state := .stopping, vhf := none }) :
    Steps k d quiet (some .settled) (some .settled) ((d.setSlot id slot).effect regs
      (deleteAfterSubmits id handle ++ [.destroy id owner .finish])) := by
  refine .moves (Moves.setSlot (.busy (some owner) (.detached handle)) (standings_some hst)
    ?_ (.inl (by rw [hslot])) (by simp [deleteAfterSubmits, Act.submission]) ?_)
  · exact placeOk_setSlot hstands (by rw [hslot]; exact howner) (by rw [hslot]; rfl)
      (by rw [hslot]; rfl) rfl rfl (by simp [Stage.quiet])
  · have hwait : Chain (Act.spec k) [.waitForSubmits id]
        (some (.busyAt (.controller id) owner (.detached handle)))
        (some (.busyAt (.controller id) owner (.drained handle))) :=
      .single ⟨_, _, handle, rfl, Mode.busyAt_same _ _ _, by rw [Mode.busyAt_set]⟩
    have hdelete := chain_delete (k := k) (Mode.busyAt_same (.controller id) owner (.drained handle))
    rw [Mode.busyAt_set] at hdelete
    have hfinish : Chain (Act.spec k) [.destroy id owner .finish]
        (some (.busyAt (.controller id) owner .gone)) (some .settled) := .single ⟨rfl, rfl⟩
    exact (hwait.append hdelete).append hfinish

theorem destroy_steps {act : DestroyAct} (hspec : act.spec (.controller id) owner m m₁)
    (hst : Standings d quiet m) : Steps k d quiet m m₁ (act.exec d regs id owner) := by
  have hsame : Untouched d d := .refl d
  cases act with
  | check =>
      obtain ⟨rfl, rfl⟩ := hspec
      have hdetach : Chain (Act.spec k) [.destroy id owner .detach] (some .settled)
          (some .settled) := .single ⟨rfl, rfl⟩
      simp only [DestroyAct.exec]
      split
      · exact .still (.done hsame)
      · split
        · exact .still (.done hsame)
        · exact .still (.of_untouched hsame (by simp [Act.submission])
            (chain_gated hdetach atRest_settled))
  | detach =>
      obtain ⟨rfl, rfl⟩ := hspec
      have hsettled : Settled d (.controller id) := standings_some hst (.controller id)
      simp only [DestroyAct.exec]
      split
      · exact .still (.done hsame)
      · rename_i howned
        have howner : (d.controllers id).control.owner = some owner := by
          simp only [Bool.or_eq_true, Bool.not_eq_true', not_or, Bool.not_eq_false] at howned
          simpa [SlotControl.isOwnedBy] using howned.1
        rcases hsettled.state_cases with hstate | hstate | hstate
        · simp only [Device.stateAt] at hstate
          simp [hstate] at howned
        · have hretired := hsettled.retired (by rw [hstate]; simp)
          obtain ⟨state, _, hstands⟩ := hretired
          have hstate' : (d.controllers id).control.state = .lost := hstate
          simp only [hstate']
          exact reset_moves hst hstands rfl rfl (.inl rfl) (by rw [Mode.settled_set])
        · obtain ⟨handle, hstands⟩ := hsettled.stands_active hstate
          have hstate' : (d.controllers id).control.state = .active := hstate
          have hvhf : (d.controllers id).control.vhf = some handle := hstands.vhf
          simp only [hstate', hvhf, discardFeedback_setControl]
          exact detach_moves hst hstands howner (by simp)
  | finish =>
      obtain ⟨rfl, rfl⟩ := hspec
      have hp := standings_some hst (.controller id)
      rw [Mode.busyAt_same] at hp
      obtain ⟨howner, hstands, _⟩ := hp
      have howner' : (d.controllers id).control.owner = some owner := howner
      have hstate : (d.controllers id).control.state = .stopping := hstands.state
      simp only [DestroyAct.exec, SlotControl.isOwnedBy, howner', hstate, BEq.rfl, Bool.and_self,
        if_true]
      exact reset_moves hst hstands rfl rfl (.inl rfl) (by rw [Mode.busyAt_set_settled])

end Destroy

end LibVirtualGamepad
