import LibVirtualGamepad.Driver.Gate.Kept
import LibVirtualGamepad.Interleaving.Run

-- What becomes of the handles that VhfCreate returns.
namespace LibVirtualGamepad

open Interleaving

-- What every phase says of its place: nothing is alive at an empty or lost one, one
-- deletion is called at most, and a published handle is that of a child nobody deletes.
structure Standing.Proper (s : Standing) : Prop where
  calls : s.calls ≤ 1
  rest : s.state = .empty ∨ s.state = .lost → s.live = none
  published : ∀ handle, s.vhf = some handle → s.live = some handle ∧ s.calls = 0 ∧
    (s.state = .starting ∨ s.state = .active ∨ s.state = .stopping)

theorem proper_idle (state : SlotState) : (Standing.idle state).Proper :=
  ⟨by simp [Standing.idle], fun _ => rfl, fun handle h => absurd h (by simp [Standing.idle])⟩

theorem Stage.proper (stage : Stage) : stage.standing.Proper := by
  cases stage with
  | starting => exact proper_idle _
  | gone => exact proper_idle _
  | published h =>
      refine ⟨Nat.zero_le 1, fun hrest => absurd hrest (by simp [Stage.standing]), fun handle heq => ?_⟩
      obtain rfl := Option.some.inj heq
      exact ⟨rfl, rfl, .inl rfl⟩
  | stopped h =>
      refine ⟨Nat.zero_le 1, fun hrest => absurd hrest (by simp [Stage.standing]), fun handle heq => ?_⟩
      obtain rfl := Option.some.inj heq
      exact ⟨rfl, rfl, .inr (.inr rfl)⟩
  | created h | detached h | drained h =>
      exact ⟨Nat.zero_le 1, fun hrest => absurd hrest (by simp [Stage.standing]),
        fun handle heq => absurd heq (by simp [Stage.standing])⟩
  | deleting h =>
      exact ⟨Nat.le_refl 1, fun hrest => absurd hrest (by simp [Stage.standing]),
        fun handle heq => absurd heq (by simp [Stage.standing])⟩

theorem PlaceOk.proper {d : Device} {quiet : ControllerId → Handle → Prop} {p : Place} {φ : Phase}
    (h : PlaceOk d quiet p φ) : ∃ s : Standing, Stands d p s ∧ s.Proper := by
  have hretired : Retired d p → ∃ s : Standing, Stands d p s ∧ s.Proper := by
    rintro ⟨state, -, hstands⟩
    exact ⟨_, hstands, proper_idle state⟩
  cases φ with
  | settled =>
      rcases h with hr | ⟨handle, hstands⟩
      · exact hretired hr
      · refine ⟨_, hstands, Nat.zero_le 1, fun hrest => ?_, fun live hlive => ?_⟩
        · exact absurd hrest (by simp [Standing.active])
        · obtain rfl := Option.some.inj hlive
          exact ⟨rfl, rfl, .inr (.inl rfl)⟩
  | retired => exact hretired h
  | busy owner stage => exact ⟨_, h.2.1, stage.proper⟩

theorem Disciplined.proper {w : World} (h : Disciplined w) (p : Place) :
    ∃ s : Standing, Stands w.shared p s ∧ s.Proper := by
  obtain ⟨holder, h⟩ := h
  exact (h.shared.places p).proper

-- The lifecycle of the handles in a world, and in each of its next steps.
structure VhfHandles (w : World) : Prop where
  deletedOnce : ∀ (handle : Handle) (child : Child), w.shared.children[handle]? = some child → child.deleteCalls ≤ 1
  -- At most one child of a slot is not deleted yet, and none where no controller is.
  one : ∀ id, ∃ live : Option Handle, ∀ (handle : Handle) (child : Child), w.shared.children[handle]? = some child →
    child.place = .controller id → live ≠ some handle →
      child.deleteCalls = 1 ∧ child.deleteReturns = 1
  deleted : ∀ (id : ControllerId) (handle : Handle) (child : Child), (w.shared.controllers id).control.state = .empty ∨
      (w.shared.controllers id).control.state = .lost →
    w.shared.children[handle]? = some child → child.place = .controller id →
      child.deleteCalls = 1 ∧ child.deleteReturns = 1
  published : ∀ (id : ControllerId) (handle : Handle), (w.shared.controllers id).control.vhf = some handle →
    ((w.shared.controllers id).control.state = .starting ∨
      (w.shared.controllers id).control.state = .active ∨
      (w.shared.controllers id).control.state = .stopping) ∧
      ∃ child, w.shared.children[handle]? = some child ∧ child.place = .controller id ∧
        child.deleteCalls = 0
  -- VhfReadReportSubmit is entered.
  entered : ∀ i choice w' (s : System.ActStep driver w i choice w') id handle answers,
    s.act = .submitEnter id handle answers → ∃ child, w.shared.children[handle]? = some child ∧
      child.deleteReturns = 0 ∧ (s.thread.kind.isCallback = false → child.deleteCalls = 0)
  -- VhfDelete begins while only VHF's own callbacks may be inside.
  drained : ∀ i choice w' (s : System.ActStep driver w i choice w') handle,
    s.act = .deleteBegin handle → ∀ t ∈ w.threads, t.kind.isCallback = false →
      ∀ id answers, Act.submitEnter id handle answers ∉ t.todo ∧
        Act.submitLeave id handle answers ∉ t.todo

theorem vhf_handles {keepalive : Bool} {w : World}
    (h : driver.Reaches (World.initial keepalive) w) : VhfHandles w := by
  have hd := Reaches.disciplined h
  refine ⟨fun handle child hchild => ?_, fun id => ?_, fun id handle child hstate hchild hplace => ?_,
    fun id handle hvhf => ?_, fun i choice w' s id handle answers hact => ?_,
    fun i choice w' s handle hact => ?_⟩
  · obtain ⟨s, hstands, hproper⟩ := hd.proper child.place
    by_cases hlive : s.live = some handle
    · obtain ⟨c, hc, -, hcalls, -⟩ := hstands.children.live_at handle hlive
      rw [hchild] at hc
      obtain rfl := Option.some.inj hc
      exact hcalls ▸ hproper.calls
    · exact Nat.le_of_eq (hstands.children.others handle child hchild rfl hlive).1
  · obtain ⟨s, hstands, -⟩ := hd.proper (.controller id)
    exact ⟨s.live, hstands.children.others⟩
  · obtain ⟨s, hstands, hproper⟩ := hd.proper (.controller id)
    have hrest : s.state = .empty ∨ s.state = .lost := by
      rw [← hstands.state]
      exact hstate
    refine hstands.children.others handle child hchild hplace ?_
    rw [hproper.rest hrest]
    simp
  · obtain ⟨s, hstands, hproper⟩ := hd.proper (.controller id)
    have hpublished : s.vhf = some handle := by
      rw [← hstands.vhf]
      exact hvhf
    obtain ⟨hlive, hcalls, hstate⟩ := hproper.published handle hpublished
    rw [← hstands.state] at hstate
    obtain ⟨c, hc, hplace, hc', -⟩ := hstands.children.live_at handle hlive
    exact ⟨hstate, c, hc, hplace, hc'.trans hcalls⟩
  · obtain ⟨holder, hd⟩ := hd
    have hmem : s.act ∈ s.thread.todo := by
      rw [s.todo]
      exact List.mem_cons_self
    have hsub : s.act.submission = some (id, handle) := by
      rw [hact]
      rfl
    obtain ⟨⟨c, hc, -, hreturns, hcalls⟩, -⟩ := hd.shared.submits s.thread s.mem s.act hmem id handle hsub
    exact ⟨c, hc, hreturns, fun hno => hcalls (by rw [hno]; rfl)⟩
  · obtain ⟨holder, hd⟩ := hd
    have hown := hd.chains i s.thread s.at_index
    rw [s.todo, hact] at hown
    obtain ⟨m₁, ⟨M, p, owner, hM, hphase, -⟩, -⟩ := hown
    have hheld : holderMode holder = some M := by
      rcases modeOf_eq_none_or holder i with hnone | hsome
      · rw [hnone] at hM
        exact absurd hM (by simp)
      · exact hsome.symm.trans hM
    have hplace := hd.shared.places p
    rw [hheld, show phaseAt (some M) p = M p from rfl, hphase] at hplace
    obtain ⟨-, hstands, hquiet⟩ := hplace
    obtain ⟨c, hc, hcp, -⟩ := hstands.children.live_at handle rfl
    -- A submission to the handle is one to the slot that the child belongs to.
    have hnone : ∀ t ∈ w.threads, t.kind.isCallback = false → ∀ a ∈ t.todo, ∀ id,
        a.submission ≠ some (id, handle) := by
      intro t ht hk a ha id hsub
      obtain ⟨⟨c', hc', hcp', -⟩, -⟩ := hd.shared.submits t ht a ha id handle hsub
      rw [hc] at hc'
      obtain rfl := Option.some.inj hc'
      exact hquiet id handle (hcp.symm.trans hcp') rfl ⟨t, ht, a, ha, hk, hsub⟩
    exact fun t ht hk id answers => ⟨fun ha => hnone t ht hk _ ha id rfl,
      fun ha => hnone t ht hk _ ha id rfl⟩

-- The Xbox One controller that a file has created is active.
theorem vhf_handles_creation :
    ∃ run : driver.Run (World.initial true),
      (run.last.shared.controllers ⟨0, by decide⟩).control.vhf = some 0 ∧ VhfHandles run.last :=
  ⟨⟨creation ⟨0, .xboxOne, 0⟩ 1, by decide +kernel⟩, by decide +kernel,
    vhf_handles (System.Run.reaches _ _ (Nat.le_refl _))⟩

end LibVirtualGamepad
