import LibVirtualGamepad.PidFf
import Mathlib.Data.List.Basic

-- The pool of effect blocks: what the handlers do to it, and what holds of it after
-- every sequence of reports and ticks.
namespace LibVirtualGamepad

open FixedWidth

namespace PidEffect

theorem stop_playing (effect : PidEffect) : effect.stop.playing = false := rfl
theorem advance_allocated (effect : PidEffect) (elapsedMs : UInt32) :
    (effect.advance elapsedMs).allocated = effect.allocated := by
  unfold advance
  split
  · rfl
  · dsimp only
    repeat' split
    all_goals rfl

-- The clock starts nothing.
theorem playing_of_advance {effect : PidEffect} {elapsedMs : UInt32}
    (h : (effect.advance elapsedMs).playing = true) : effect.playing = true := by
  unfold advance at h
  split at h
  · exact h
  · next hplays =>
    simp only [Bool.or_eq_true, Bool.not_eq_true', not_or, Bool.not_eq_false] at hplays
    exact hplays.2

theorem contribution_stopped {effect : PidEffect}
    (h : (effect.allocated && effect.playing) = false) (deviceGain : UInt8) :
    Id.run (effect.contribution wrapping deviceGain) = none := by
  have hsounding : effect.sounding = false := by
    unfold sounding
    rw [h, Bool.false_and]
  unfold contribution envelopeValue
  simp only [hsounding, Bool.false_eq_true, ite_false]
  rfl

end PidEffect

namespace PidEngine

section Blocks

variable (engine : PidEngine)

theorem withBlock_eq {blockIndex : UInt8} {i : Fin pidMaxEffects} (hi : effect blockIndex = some i)
    (h : (engine.block i).allocated = true) (f : Fin pidMaxEffects → Bool × PidEngine) :
    engine.withBlock blockIndex f = f i := by
  unfold withBlock
  rw [hi]
  exact if_pos h

-- A report about a block is refused, or it is about an allocated one.
theorem withBlock_cases (blockIndex : UInt8) (f : Fin pidMaxEffects → Bool × PidEngine) :
    engine.withBlock blockIndex f = (false, engine) ∨
      ∃ i, effect blockIndex = some i ∧ (engine.block i).allocated = true ∧
        engine.withBlock blockIndex f = f i := by
  cases hi : effect blockIndex with
  | none =>
    left
    unfold withBlock
    rw [hi]
  | some i =>
    by_cases h : (engine.block i).allocated = true
    · exact .inr ⟨i, rfl, h, engine.withBlock_eq hi h f⟩
    · left
      unfold withBlock
      rw [hi]
      exact if_neg h

theorem update_same (i : Fin pidMaxEffects) (f : PidEffect → PidEffect) :
    (engine.update i f).block i = f (engine.block i) := by
  simp only [block, update, Fin.getElem_fin, Vector.getElem_set_self]

theorem update_other {i j : Fin pidMaxEffects} (h : j ≠ i) (f : PidEffect → PidEffect) :
    (engine.update i f).block j = engine.block j := by
  simp only [block, update, Fin.getElem_fin]
  exact Vector.getElem_set_ne _ _ fun hij => h (Fin.ext hij.symm)

theorem stopAll_effect (i : Fin pidMaxEffects) :
    engine.stopAll.block i = (engine.block i).stop := by
  simp only [block, stopAll, Fin.getElem_fin, Vector.getElem_map]

theorem advance_effect (h : engine.paused = false) (elapsedMs : UInt32) (i : Fin pidMaxEffects) :
    (engine.advance elapsedMs).block i = (engine.block i).advance elapsedMs := by
  unfold advance
  simp only [block, h, Bool.false_eq_true, ite_false, Fin.getElem_fin, Vector.getElem_map]

theorem effectOperation_solo {report : PidEffectOperationReport} {i : Fin pidMaxEffects}
    (hi : effect report.effectBlockIndex = some i) (h : (engine.block i).allocated = true)
    (hsolo : report.operation = 2) :
    engine.effectOperation report = (true, engine.stopAll.start i report.loopCount) := by
  unfold effectOperation
  rw [engine.withBlock_eq hi h]
  exact if_pos hsolo

theorem effectOperation_start {report : PidEffectOperationReport} {i : Fin pidMaxEffects}
    (hi : effect report.effectBlockIndex = some i) (h : (engine.block i).allocated = true)
    (hstart : report.operation = 1) :
    engine.effectOperation report = (true, engine.start i report.loopCount) := by
  unfold effectOperation
  rw [engine.withBlock_eq hi h]
  rw [hstart, if_neg (by decide), if_pos rfl]

end Blocks

section Create

variable (engine : PidEngine)

theorem freeBlock_some {i : Fin pidMaxEffects} (h : engine.freeBlock = some i) :
    (engine.block i).allocated = false := by
  have hfree := List.find?_some h
  simpa only [block, Bool.not_eq_true'] using hfree

theorem freeBlock_none :
    engine.freeBlock = none ↔ ∀ i : Fin pidMaxEffects, (engine.block i).allocated = true := by
  unfold freeBlock
  simp only [List.find?_eq_none, List.mem_finRange, forall_const, Bool.not_eq_true',
    Bool.not_eq_false, block]

-- What a request for a block comes to.
theorem createNewEffect_cases (request : PidCreateNewEffectReport) :
    (PidEffectType.valid request.effectType = false ∧
      engine.createNewEffect request = (false, { engine with lastLoadStatus := .error })) ∨
    (PidEffectType.valid request.effectType = true ∧
      (∀ i : Fin pidMaxEffects, (engine.block i).allocated = true) ∧
      engine.createNewEffect request = (false, { engine with lastLoadStatus := .full })) ∨
    (PidEffectType.valid request.effectType = true ∧ ∃ i : Fin pidMaxEffects,
      (engine.block i).allocated = false ∧
      engine.createNewEffect request =
        (true, { engine.update i fun _ => .fresh request.effectType with
          lastAllocated := UInt8.ofNat (i + 1)
          lastLoadStatus := .success })) := by
  unfold createNewEffect
  cases hvalid : PidEffectType.valid request.effectType with
  | false => exact .inl ⟨rfl, rfl⟩
  | true =>
    right
    cases hfree : engine.freeBlock with
    | none => exact .inl ⟨rfl, engine.freeBlock_none.1 hfree, rfl⟩
    | some i => exact .inr ⟨rfl, i, engine.freeBlock_some hfree, rfl⟩

end Create

-- Effects that play are allocated.
def PlaysAllocated (engine : PidEngine) : Prop :=
  ∀ i : Fin pidMaxEffects, (engine.block i).playing = true → (engine.block i).allocated = true

section PlaysAllocated

variable {engine : PidEngine}

theorem PlaysAllocated.update (h : engine.PlaysAllocated) (i : Fin pidMaxEffects)
    {f : PidEffect → PidEffect}
    (hf : (f (engine.block i)).playing = true → (f (engine.block i)).allocated = true) :
    (engine.update i f).PlaysAllocated := by
  intro j
  by_cases hj : j = i
  · subst hj
    rw [engine.update_same]
    exact hf
  · rw [engine.update_other hj]
    exact h j

theorem PlaysAllocated.withBlock (h : engine.PlaysAllocated) (blockIndex : UInt8)
    (f : Fin pidMaxEffects → Bool × PidEngine)
    (hf : ∀ i, (engine.block i).allocated = true → (f i).2.PlaysAllocated) :
    (engine.withBlock blockIndex f).2.PlaysAllocated := by
  obtain hrefused | ⟨i, -, hi, heq⟩ := engine.withBlock_cases blockIndex f
  · rw [hrefused]
    exact h
  · rw [heq]
    exact hf i hi

theorem stopAll_playsAllocated (engine : PidEngine) : engine.stopAll.PlaysAllocated := by
  intro i hplays
  rw [engine.stopAll_effect, PidEffect.stop_playing] at hplays
  cases hplays

theorem reset_playsAllocated : reset.PlaysAllocated := by
  intro i hplays
  simp only [block, reset, Fin.getElem_fin, Vector.getElem_replicate, PidEffect.zero] at hplays
  cases hplays

theorem PlaysAllocated.report (h : engine.PlaysAllocated) (report : PidReport) :
    (report.apply engine).2.PlaysAllocated := by
  cases report with
  | createNewEffect request =>
    obtain ⟨-, heq⟩ | ⟨-, -, heq⟩ | ⟨-, i, -, heq⟩ := engine.createNewEffect_cases request
    · simp only [PidReport.apply, heq]
      exact h
    · simp only [PidReport.apply, heq]
      exact h
    · simp only [PidReport.apply, heq]
      exact h.update i (f := fun _ => .fresh request.effectType) fun _ => rfl
  | setEffect report => exact h.withBlock _ _ fun i hi => h.update i fun _ => hi
  | setEnvelope report => exact h.withBlock _ _ fun i hi => h.update i fun _ => hi
  | setCondition report => exact h.withBlock _ _ fun _ _ => h
  | setPeriodic report => exact h.withBlock _ _ fun i hi => h.update i fun _ => hi
  | setConstantForce report => exact h.withBlock _ _ fun i hi => h.update i fun _ => hi
  | setRampForce report => exact h.withBlock _ _ fun i hi => h.update i fun _ => hi
  | effectOperation report =>
    apply h.withBlock
    intro i hi
    split
    · apply (stopAll_playsAllocated engine).update
      intro _
      rw [engine.stopAll_effect]
      exact hi
    · split
      · exact h.update i fun _ => hi
      · split
        · exact h.update i fun _ => hi
        · exact h
  | blockFree report =>
    apply h.withBlock
    intro i _
    apply h.update i
    intro hplays
    cases hplays
  | deviceControl report =>
    simp only [PidReport.apply, deviceControl]
    repeat' split
    · exact h
    · exact h
    · exact stopAll_playsAllocated engine
    · exact reset_playsAllocated
    · exact h
    · exact h
    · exact h
  | deviceGain report => exact h

theorem PlaysAllocated.step (h : engine.PlaysAllocated) (op : PidOp) :
    (engine.step op).PlaysAllocated := by
  cases op with
  | report report => exact h.report report
  | advance elapsedMs =>
    cases hpaused : engine.paused with
    | true =>
      simp only [PidEngine.step, advance, hpaused, ite_true]
      exact h
    | false =>
      intro i hplays
      simp only [PidEngine.step, engine.advance_effect hpaused] at hplays ⊢
      rw [PidEffect.advance_allocated]
      exact h i (PidEffect.playing_of_advance hplays)

theorem run_playsAllocated (ops : List PidOp) : (run ops).PlaysAllocated := by
  have hfrom (engine : PidEngine) (h : engine.PlaysAllocated) :
      (ops.foldl PidEngine.step engine).PlaysAllocated := by
    induction ops generalizing engine with
    | nil => exact h
    | cons op rest ih => exact ih _ (h.step op)
  exact hfrom _ reset_playsAllocated

end PlaysAllocated

section Quiet

variable {engine : PidEngine}

theorem needsTick_eq_false :
    engine.needsTick = false ↔
      ∀ effect ∈ engine.effects.toList, (effect.allocated && effect.playing) = false := by
  unfold needsTick
  simp only [List.any_eq_false, Bool.not_eq_true]

theorem motors_quiet (h : engine.needsTick = false) : engine.motors = (0, 0) := by
  have hnone : engine.contributions = engine.effects.toList.map fun _ => none :=
    List.map_congr_left fun effect hmem =>
      PidEffect.contribution_stopped (needsTick_eq_false.1 h effect hmem) engine.deviceGain
  unfold motors
  rw [hnone]
  induction engine.effects.toList with
  | nil => rfl
  | cons effect rest ih => exact ih

theorem rumble_quiet (h : engine.needsTick = false) : engine.rumble = ⟨0, 0⟩ := by
  unfold rumble
  rw [motors_quiet h]
  split
  · rfl
  · decide

end Quiet

section Ram

def allocatedCount (engine : PidEngine) : Nat :=
  engine.effects.toList.countP fun effect => effect.allocated

theorem used_toNat (effects : List PidEffect) (used : UInt16) :
    (effects.foldl (fun used effect =>
        if effect.allocated then used + UInt16.ofNat pidBytesPerEffect else used) used).toNat =
      (used.toNat + 64 * effects.countP fun effect => effect.allocated) % 65536 := by
  induction effects generalizing used with
  | nil =>
    have hlt := used.toNat_lt
    simp only [List.foldl_nil, List.countP_nil]
    omega
  | cons effect rest ih =>
    have hbytes : (UInt16.ofNat pidBytesPerEffect).toNat = 64 := by decide
    rw [List.foldl_cons, ih, List.countP_cons]
    cases effect.allocated with
    | true =>
      simp only [ite_true, UInt16.toNat_add, hbytes]
      omega
    | false =>
      simp only [Bool.false_eq_true, ite_false, Nat.add_zero]

theorem allocatedCount_le (engine : PidEngine) : engine.allocatedCount ≤ pidMaxEffects := by
  have hle := List.countP_le_length (p := fun effect : PidEffect => effect.allocated)
    (l := engine.effects.toList)
  rwa [Vector.length_toList] at hle

theorem ramPoolAvailable_eq (engine : PidEngine) :
    engine.blockLoad.ramPoolAvailable.toNat = 1024 - 64 * engine.allocatedCount := by
  have hle := engine.allocatedCount_le
  have hused := used_toNat engine.effects.toList 0
  have hsize : (UInt16.ofNat pidRamPoolSize).toNat = 1024 := by decide
  unfold pidMaxEffects at hle
  unfold blockLoad
  dsimp only
  rw [UInt16.toNat_sub_of_le _ _ (by
    rw [UInt16.le_iff_toNat_le, hused, hsize, UInt16.toNat_zero]
    unfold allocatedCount at hle
    omega), hused, hsize, UInt16.toNat_zero]
  unfold allocatedCount at hle ⊢
  omega

end Ram

-- The pool in a state of the engine.
structure PoolSound (engine : PidEngine) : Prop where
  succeeds : ∀ request, (engine.createNewEffect request).1 = true ↔
    (1 ≤ request.effectType ∧ request.effectType ≤ 12) ∧
      ∃ i : Fin pidMaxEffects, (engine.block i).allocated = false
  fresh : ∀ request, (engine.createNewEffect request).1 = true → ∃ i : Fin pidMaxEffects,
    effect (engine.createNewEffect request).2.blockLoad.effectBlockIndex = some i ∧
      (engine.block i).allocated = false ∧
      ((engine.createNewEffect request).2.block i).allocated = true ∧
      ∀ j ≠ i, (engine.createNewEffect request).2.block j = engine.block j
  available : engine.blockLoad.ramPoolAvailable.toNat + 64 * engine.allocatedCount = 1024
  full : ∀ request,
    (engine.createNewEffect request).2.blockLoad.blockLoadStatus = .full ↔
      (∀ i : Fin pidMaxEffects, (engine.block i).allocated = true) ∧
        1 ≤ request.effectType ∧ request.effectType ≤ 12
  playing : engine.PlaysAllocated
  quiet : engine.needsTick = false → engine.rumble = ⟨0, 0⟩
  solo : ∀ report : PidEffectOperationReport, report.operation = 2 →
    (engine.effectOperation report).1 = true → ∃ i : Fin pidMaxEffects,
      effect report.effectBlockIndex = some i ∧
      ∀ j : Fin pidMaxEffects,
        ((engine.effectOperation report).2.block j).playing = true ↔ j = i

section PoolSound

variable (engine : PidEngine)

theorem valid_iff (raw : UInt8) : PidEffectType.valid raw = true ↔ 1 ≤ raw ∧ raw ≤ 12 := by
  unfold PidEffectType.valid
  simp only [Bool.and_eq_true, bne_iff_ne, ne_eq, decide_eq_true_eq]
  have hne : ¬raw = 0 ↔ 1 ≤ raw := by
    rw [← UInt8.toNat_inj, UInt8.le_iff_toNat_le]
    simp only [UInt8.toNat_zero, UInt8.reduceToNat]
    omega
  rw [hne]

theorem effect_ofNat (i : Fin pidMaxEffects) : effect (UInt8.ofNat (i + 1)) = some i := by
  revert i
  decide

theorem poolSound_create (request : PidCreateNewEffectReport) :
    ((engine.createNewEffect request).1 = true ↔
      (1 ≤ request.effectType ∧ request.effectType ≤ 12) ∧
        ∃ i : Fin pidMaxEffects, (engine.block i).allocated = false) ∧
    ((engine.createNewEffect request).2.lastLoadStatus = .full ↔
      (∀ i : Fin pidMaxEffects, (engine.block i).allocated = true) ∧
        1 ≤ request.effectType ∧ request.effectType ≤ 12) := by
  rw [← valid_iff]
  obtain ⟨hvalid, heq⟩ | ⟨hvalid, hall, heq⟩ | ⟨hvalid, i, hi, heq⟩ :=
    engine.createNewEffect_cases request
  · simp only [heq, hvalid, Bool.false_eq_true, false_and, and_false, reduceCtorEq, and_self]
  · simp only [heq, hvalid, Bool.false_eq_true, false_iff, true_and, and_true, true_iff]
    refine ⟨?_, hall⟩
    rintro ⟨i, hi⟩
    rw [hall i] at hi
    cases hi
  · simp only [heq, hvalid, true_and, true_iff, reduceCtorEq, and_true, false_iff]
    refine ⟨⟨i, hi⟩, fun hall => ?_⟩
    rw [hall i] at hi
    cases hi

theorem poolSound_fresh (request : PidCreateNewEffectReport)
    (h : (engine.createNewEffect request).1 = true) : ∃ i : Fin pidMaxEffects,
      effect (engine.createNewEffect request).2.blockLoad.effectBlockIndex = some i ∧
        (engine.block i).allocated = false ∧
        ((engine.createNewEffect request).2.block i).allocated = true ∧
        ∀ j ≠ i, (engine.createNewEffect request).2.block j = engine.block j := by
  obtain ⟨-, heq⟩ | ⟨-, -, heq⟩ | ⟨-, i, hi, heq⟩ := engine.createNewEffect_cases request
  · rw [heq] at h
    cases h
  · rw [heq] at h
    cases h
  · rw [heq]
    exact ⟨i, effect_ofNat i, hi, 
      congrArg PidEffect.allocated (engine.update_same i fun _ => .fresh request.effectType),
      fun j hj => engine.update_other hj fun _ => .fresh request.effectType⟩

theorem poolSound_solo {report : PidEffectOperationReport} (hsolo : report.operation = 2)
    (h : (engine.effectOperation report).1 = true) : ∃ i : Fin pidMaxEffects,
      effect report.effectBlockIndex = some i ∧
      ∀ j : Fin pidMaxEffects,
        ((engine.effectOperation report).2.block j).playing = true ↔ j = i := by
  obtain hrefused | ⟨i, hindex, hi, -⟩ := engine.withBlock_cases report.effectBlockIndex
    fun i =>
      if report.operation = 2 then (true, engine.stopAll.start i report.loopCount)
      else if report.operation = 1 then (true, engine.start i report.loopCount)
      else if report.operation = 3 then (true, engine.update i PidEffect.stop)
      else (false, engine)
  · unfold effectOperation at h
    rw [hrefused] at h
    cases h
  · refine ⟨i, hindex, fun j => ?_⟩
    rw [engine.effectOperation_solo hindex hi hsolo]
    unfold start
    by_cases hj : j = i
    · subst hj
      rw [update_same]
      simp only
    · rw [update_other _ hj, engine.stopAll_effect, PidEffect.stop_playing]
      simp only [hj, Bool.false_eq_true]

end PoolSound

theorem effect_pool (ops : List PidOp) : (run ops).PoolSound where
  succeeds request := ((run ops).poolSound_create request).1
  fresh request := (run ops).poolSound_fresh request
  available := by
    have havailable := (run ops).ramPoolAvailable_eq
    have hle := (run ops).allocatedCount_le
    unfold pidMaxEffects at hle
    omega
  full request := ((run ops).poolSound_create request).2
  playing := run_playsAllocated ops
  quiet := rumble_quiet
  solo _ hsolo := (run ops).poolSound_solo hsolo

end PidEngine

end LibVirtualGamepad
