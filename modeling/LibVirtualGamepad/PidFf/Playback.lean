import LibVirtualGamepad.PidFf.Pool

-- How an effect plays while nothing but the clock reaches the engine.
namespace LibVirtualGamepad

open FixedWidth

namespace PidEffect

def ticks (effect : PidEffect) (times : List UInt32) : PidEffect := times.foldl advance effect

-- The time from a start to the end of the first play.
def total (effect : PidEffect) : Nat := effect.startDelayMs.toNat + effect.durationMs.toNat

def Plays (effect : PidEffect) : Prop := effect.allocated = true ∧ effect.playing = true

-- An effect at the end of a play: the next play starts behind the delay, or it stops.
def finish (effect : PidEffect) : PidEffect :=
  if effect.loopCount > 1 then
    { effect with
      loopCount := effect.loopCount - 1
      elapsedMs := effect.startDelayMs.toUInt32 }
  else effect.stop

-- The ticks of `dt` it takes to reach a time.
def ticksTo (time dt : Nat) : Nat := (time + dt - 1) / dt

-- The tick at which an effect stops that has played for `elapsed` of its first play.
def stopTick (effect : PidEffect) (elapsed dt : Nat) : Nat :=
  ticksTo (effect.total - elapsed) dt +
    (effect.loopCount.toNat - 1) * ticksTo effect.durationMs.toNat dt

-- The stop of an effect that was just started.
def scheduleTicks (delay duration loops dt : Nat) : Nat :=
  ticksTo (delay + duration) dt + (max loops 1 - 1) * ticksTo duration dt

-- The start delay and the attack are over.
def Past (effect : PidEffect) : Prop :=
  effect.startDelayMs.toNat + effect.envelopeAttackMs.toNat ≤ effect.elapsedMs.toNat

-- No tick leaves the 32-bit clock inside the start delay or the attack: either it does
-- not run over, or it runs over by enough.
def ClockClear (effect : PidEffect) : List UInt32 → Prop
  | [] => True
  | dt :: rest =>
    (effect.elapsedMs.toNat + dt.toNat < 4294967296 ∨
        4294967296 + effect.startDelayMs.toNat + effect.envelopeAttackMs.toNat ≤
          effect.elapsedMs.toNat + dt.toNat) ∧
      ClockClear { effect with elapsedMs := effect.elapsedMs + dt } rest

end PidEffect

namespace PidEngine

def ticks (engine : PidEngine) (times : List UInt32) : PidEngine := times.foldl advance engine

-- The block is as good as empty to the motors and to the clock.
structure Silent (engine : PidEngine) (i : Fin pidMaxEffects) : Prop where
  contribution : Id.run ((engine.block i).contribution wrapping engine.deviceGain) = none
  rumble : engine.rumble = (engine.update i fun _ => .zero).rumble
  needsTick : engine.needsTick = (engine.update i fun _ => .zero).needsTick

end PidEngine

namespace PidEffect

section TicksTo

variable {time dt : Nat} (hdt : 0 < dt)

include hdt

theorem lt_ticksTo (n : Nat) : n < ticksTo time dt ↔ n * dt < time := by
  unfold ticksTo
  rw [← Nat.succ_le_iff, Nat.le_div_iff_mul_le hdt, Nat.succ_mul]
  omega

theorem ticksTo_mul_ge : time ≤ ticksTo time dt * dt := by
  have h := (@lt_ticksTo time dt hdt (ticksTo time dt)).not.1 (Nat.lt_irrefl _)
  omega

theorem ticksTo_pos (h : 0 < time) : 0 < ticksTo time dt := by
  rw [lt_ticksTo hdt]
  omega

end TicksTo

section Advance

variable {effect : PidEffect} {dt : UInt32}

theorem advance_stopped (h : effect.playing = false) : effect.advance dt = effect := by
  unfold advance
  simp only [h, Bool.not_false, Bool.or_true, ite_true]

theorem ticks_stopped (h : effect.playing = false) (times : List UInt32) :
    effect.ticks times = effect := by
  induction times with
  | nil => rfl
  | cons dt rest ih =>
    unfold ticks at ih ⊢
    rw [List.foldl_cons, advance_stopped h, ih]

theorem advance_infinite (h : effect.Plays) (hd : effect.durationMs = 0) :
    effect.advance dt = { effect with elapsedMs := effect.elapsedMs + dt } := by
  unfold advance
  simp only [h.1, h.2, hd, Bool.not_true, Bool.or_self, Bool.false_eq_true, ite_false, ite_true]

theorem total_toNat :
    (effect.startDelayMs.toUInt32 + effect.durationMs.toUInt32).toNat = effect.total := by
  have hs := effect.startDelayMs.toNat_lt
  have hd := effect.durationMs.toNat_lt
  rw [UInt32.toNat_add, UInt16.toNat_toUInt32, UInt16.toNat_toUInt32]
  exact Nat.mod_eq_of_lt (by omega)

theorem elapsed_toNat (h : effect.elapsedMs.toNat + dt.toNat < 4294967296) :
    (effect.elapsedMs + dt).toNat = effect.elapsedMs.toNat + dt.toNat := by
  rw [UInt32.toNat_add]
  exact Nat.mod_eq_of_lt h

theorem total_le : effect.total ≤ 131070 := by
  have hs := effect.startDelayMs.toNat_lt
  have hd := effect.durationMs.toNat_lt
  unfold total
  omega

theorem advance_within (h : effect.Plays) (hlt : effect.elapsedMs.toNat + dt.toNat < effect.total) :
    effect.advance dt = { effect with elapsedMs := effect.elapsedMs + dt } := by
  have hle := @total_le effect
  have hclock : effect.elapsedMs + dt <
      effect.startDelayMs.toUInt32 + effect.durationMs.toUInt32 := by
    rw [UInt32.lt_iff_toNat_lt, total_toNat, elapsed_toNat (by omega)]
    exact hlt
  unfold advance
  simp only [h.1, h.2, hclock, Bool.not_true, Bool.or_self, Bool.false_eq_true, ite_false,
    ite_true, ite_self]

theorem advance_reached (h : effect.Plays) (hd : effect.durationMs ≠ 0)
    (hn : effect.loopCount ≠ 0xFF) (hge : effect.total ≤ effect.elapsedMs.toNat + dt.toNat)
    (hlt : effect.elapsedMs.toNat + dt.toNat < 4294967296) :
    effect.advance dt = effect.finish := by
  have hclock : ¬effect.elapsedMs + dt <
      effect.startDelayMs.toUInt32 + effect.durationMs.toUInt32 := by
    rw [UInt32.lt_iff_toNat_lt, total_toNat, elapsed_toNat hlt]
    omega
  unfold advance finish stop
  simp only [h.1, h.2, hclock, hd, hn, Bool.not_true, Bool.or_self, Bool.false_eq_true, ite_false]

end Advance

section Play

variable {effect : PidEffect} {dt : UInt32} (h : effect.Plays) (hdt : 0 < dt.toNat)

include h hdt

-- Until the end of a play only the clock moves.
theorem ticks_within (k : Nat)
    (hk : k < ticksTo (effect.total - effect.elapsedMs.toNat) dt.toNat) :
    ∃ clock : UInt32, clock.toNat = effect.elapsedMs.toNat + k * dt.toNat ∧
      effect.ticks (List.replicate k dt) = { effect with elapsedMs := clock } := by
  induction k with
  | zero => exact ⟨effect.elapsedMs, by omega, rfl⟩
  | succ k ih =>
    obtain ⟨clock, hclock, hticks⟩ := ih (by omega)
    have hreach := (lt_ticksTo hdt (k + 1)).1 hk
    have hle := @total_le effect
    rw [Nat.succ_mul] at hreach
    have hwithin := @advance_within { effect with elapsedMs := clock } dt h
      (by simp only [total] at hreach hclock ⊢; omega)
    refine ⟨clock + dt, ?_, ?_⟩
    · rw [UInt32.toNat_add, Nat.mod_eq_of_lt (by omega), hclock, Nat.succ_mul]
      omega
    · unfold ticks at hticks ⊢
      rw [List.replicate_succ', List.foldl_append, hticks]
      exact hwithin

theorem ticks_end (hd : effect.durationMs ≠ 0) (hn : effect.loopCount ≠ 0xFF)
    (helapsed : effect.elapsedMs.toNat < effect.total)
    (hwrap : effect.elapsedMs.toNat + dt.toNat < 4294967296) :
    effect.ticks
        (List.replicate (ticksTo (effect.total - effect.elapsedMs.toNat) dt.toNat) dt) =
      effect.finish := by
  have hpos := @ticksTo_pos (effect.total - effect.elapsedMs.toNat) _ hdt (by omega)
  have hreach := @ticksTo_mul_ge (effect.total - effect.elapsedMs.toNat) _ hdt
  obtain ⟨k, hk⟩ := Nat.exists_eq_succ_of_ne_zero (Nat.ne_of_gt hpos)
  rw [hk] at hreach ⊢
  obtain ⟨clock, hclock, hticks⟩ := ticks_within h hdt k (by omega)
  have hlast := (lt_ticksTo hdt k).1 (by omega : k < ticksTo (effect.total -
    effect.elapsedMs.toNat) dt.toNat)
  have hle := @total_le effect
  rw [Nat.succ_mul] at hreach
  -- A tick that is long enough to wrap the clock ends the play at once.
  have hsum : clock.toNat + dt.toNat < 4294967296 := by
    by_cases h0 : k = 0
    · rw [hclock, h0]
      omega
    · have hone : dt.toNat ≤ k * dt.toNat := Nat.le_mul_of_pos_left _ (by omega)
      omega
  have hreached := @advance_reached { effect with elapsedMs := clock } dt h hd hn
    (by simp only [total] at hreach ⊢; omega) hsum
  unfold ticks at hticks ⊢
  rw [List.replicate_succ', List.foldl_append, hticks]
  exact hreached

end Play

theorem ticks_add (effect : PidEffect) (k l : Nat) (dt : UInt32) :
    effect.ticks (List.replicate (k + l) dt) =
      (effect.ticks (List.replicate k dt)).ticks (List.replicate l dt) := by
  unfold ticks
  rw [List.replicate_add, List.foldl_append]

theorem loops_left {effect : PidEffect} (h : effect.loopCount > 1) :
    (effect.loopCount - 1).toNat = effect.loopCount.toNat - 1 ∧ effect.loopCount - 1 ≠ 0xFF := by
  have hmany : 1 < effect.loopCount.toNat := UInt8.lt_iff_toNat_lt.1 h
  have hloops : (effect.loopCount - 1).toNat = effect.loopCount.toNat - 1 :=
    UInt8.toNat_sub_of_le _ _
      (UInt8.le_iff_toNat_le.2 (show 1 ≤ effect.loopCount.toNat by omega))
  refine ⟨hloops, fun heq => ?_⟩
  have htop := congrArg UInt8.toNat heq
  have hlt := effect.loopCount.toNat_lt
  rw [hloops] at htop
  simp only [UInt8.reduceToNat] at htop
  omega

-- By induction on the plays that are left.
theorem playing_iff {effect : PidEffect} {dt : UInt32} (h : effect.Plays) (hdt : 0 < dt.toNat)
    (hd : effect.durationMs ≠ 0) (hn : effect.loopCount ≠ 0xFF)
    (helapsed : effect.elapsedMs.toNat < effect.total)
    (hwrap : effect.elapsedMs.toNat + dt.toNat < 4294967296)
    (hloop : effect.loopCount.toNat ≤ 1 ∨ effect.startDelayMs.toNat + dt.toNat < 4294967296)
    (k : Nat) :
    (effect.ticks (List.replicate k dt)).playing = true ↔
      k < effect.stopTick effect.elapsedMs.toNat dt.toNat := by
  induction hplays : effect.loopCount.toNat using Nat.strongRecOn
    generalizing effect k with
  | _ n ih =>
    by_cases hk : k < ticksTo (effect.total - effect.elapsedMs.toNat) dt.toNat
    · obtain ⟨clock, -, hticks⟩ := ticks_within h hdt k hk
      rw [hticks]
      unfold stopTick
      simp only [h.2, true_iff]
      omega
    · obtain ⟨l, rfl⟩ := Nat.exists_eq_add_of_le (Nat.not_lt.1 hk)
      rw [ticks_add, ticks_end h hdt hd hn helapsed hwrap]
      have hduration : effect.durationMs.toNat ≠ 0 := fun h0 => hd (UInt16.toNat_inj.1 h0)
      by_cases hmore : effect.loopCount > 1
      · have hmany : 1 < effect.loopCount.toNat := UInt8.lt_iff_toNat_lt.1 hmore
        obtain ⟨hloops, hfewer⟩ := loops_left hmore
        have hdelay : effect.startDelayMs.toUInt32.toNat = effect.startDelayMs.toNat :=
          UInt16.toNat_toUInt32 _
        have hnext := @ih (effect.loopCount.toNat - 1) (by omega) effect.finish
          (by simp only [finish, hmore, ite_true]; exact h)
          (by simpa only [finish, hmore, ite_true] using hd)
          (by simpa only [finish, hmore, ite_true] using hfewer)
          (by simp only [finish, hmore, ite_true, total, hdelay]; omega)
          (by simp only [finish, hmore, ite_true, hdelay]; omega)
          (by simp only [finish, hmore, ite_true]; omega) l
          (by simp only [finish, hmore, ite_true, hloops])
        rw [hnext]
        obtain ⟨m, hm⟩ := Nat.exists_eq_add_of_lt hmany
        simp only [finish, hmore, ite_true, stopTick, total, hdelay, hloops,
          Nat.add_sub_cancel_left]
        rw [hm]
        simp only [Nat.add_sub_cancel, Nat.add_comm 1 m, Nat.succ_mul]
        omega
      · have hone : effect.loopCount.toNat ≤ 1 := by
          have hle := UInt8.le_iff_toNat_le.1 (UInt8.not_lt.1 hmore)
          simpa only [UInt8.reduceToNat] using hle
        have hstop : effect.finish = effect.stop := by
          unfold finish
          rw [if_neg hmore]
        rw [hstop, @ticks_stopped effect.stop rfl, stopTick]
        have hzero : effect.loopCount.toNat - 1 = 0 := by omega
        simp only [hzero, Nat.zero_mul, stop, Bool.false_eq_true, false_iff]
        omega

section Finite

variable {effect : PidEffect} {dt : UInt32}

-- Wherever the clock stands, a tick moves it on within the play or ends the play.
theorem advance_finite (h : effect.Plays) (hd : effect.durationMs ≠ 0)
    (hn : effect.loopCount ≠ 0xFF) :
    (effect.advance dt = { effect with elapsedMs := effect.elapsedMs + dt } ∧
      (effect.elapsedMs + dt).toNat < effect.total) ∨ effect.advance dt = effect.finish := by
  by_cases hclock : effect.elapsedMs + dt <
      effect.startDelayMs.toUInt32 + effect.durationMs.toUInt32
  · left
    constructor
    · unfold advance
      simp only [h.1, h.2, hclock, Bool.not_true, Bool.or_self, Bool.false_eq_true, ite_false,
        ite_true, ite_self]
    · rwa [UInt32.lt_iff_toNat_lt, total_toNat] at hclock
  · right
    unfold advance finish stop
    simp only [h.1, h.2, hclock, hd, hn, Bool.not_true, Bool.or_self, Bool.false_eq_true,
      ite_false]

-- A finite effect stops after some ticks, wherever its clock stands.
theorem exists_stopped (h : effect.Plays) (hdt : 0 < dt.toNat)
    (hroom : dt.toNat < 2147483648) (hd : effect.durationMs ≠ 0) (hn : effect.loopCount ≠ 0xFF) :
    ∃ k, (effect.ticks (List.replicate k dt)).playing = false := by
  -- Within a play the schedule says when.
  have hwithin {effect : PidEffect} (h : effect.Plays) (hd : effect.durationMs ≠ 0)
      (hn : effect.loopCount ≠ 0xFF) (helapsed : effect.elapsedMs.toNat < effect.total) :
      ∃ k, (effect.ticks (List.replicate k dt)).playing = false := by
    have htotal := @total_le effect
    have hdelay := effect.startDelayMs.toNat_lt
    refine ⟨effect.stopTick effect.elapsedMs.toNat dt.toNat, ?_⟩
    rw [Bool.eq_false_iff]
    intro hplaying
    exact Nat.lt_irrefl _ ((playing_iff h hdt hd hn helapsed (by omega) (.inr (by omega)) _).1
      hplaying)
  have hafter : (∃ k, ((effect.advance dt).ticks (List.replicate k dt)).playing = false) →
      ∃ k, (effect.ticks (List.replicate k dt)).playing = false := by
    rintro ⟨k, hk⟩
    exact ⟨k + 1, hk⟩
  apply hafter
  obtain ⟨heq, hclock⟩ | heq := @advance_finite effect dt h hd hn
  · rw [heq]
    exact hwithin h hd hn hclock
  · rw [heq]
    by_cases hmore : effect.loopCount > 1
    · have hduration : effect.durationMs.toNat ≠ 0 := fun h0 => hd (UInt16.toNat_inj.1 h0)
      have hdelay : effect.startDelayMs.toUInt32.toNat = effect.startDelayMs.toNat :=
        UInt16.toNat_toUInt32 _
      apply hwithin
      · simp only [finish, hmore, ite_true]
        exact h
      · simpa only [finish, hmore, ite_true] using hd
      · simpa only [finish, hmore, ite_true] using (loops_left hmore).2
      · simp only [finish, hmore, ite_true, total, hdelay]
        omega
    · unfold finish
      rw [if_neg hmore]
      exact ⟨0, rfl⟩

end Finite

section Infinite

variable {effect : PidEffect}

-- Behind the attack an infinite effect has one strength.
theorem envelopeValue_infinite (h : effect.Plays) (hd : effect.durationMs = 0)
    (hpast : effect.Past) :
    Id.run (effect.envelopeValue wrapping) =
      (Id.run (effect.strength wrapping 0)).map fun strength =>
        (clampMagnitude strength.1, strength.2) := by
  have hclock := effect.elapsedMs.toNat_lt
  have hattack := hpast
  unfold Past at hattack
  have hsounding : effect.sounding = true := by
    unfold sounding
    simp only [h.1, h.2, Bool.and_self, Bool.true_and, Bool.not_eq_true', decide_eq_false_iff_not]
    omega
  have hactive : wrapping .uint32 ((effect.elapsedMs.toNat : Int) - effect.startDelayMs.toNat) =
      ((effect.elapsedMs.toNat : Int) - (effect.startDelayMs.toNat : Int) : Int) := by
    apply IntType.wrap_of_fits
    constructor <;> simp only [IntType.uint32] <;> omega
  have hstrength (activeMs : Int) :
      effect.strength wrapping activeMs = effect.strength wrapping 0 := by
    unfold strength rampValue
    simp only [hd, ne_eq, not_true_eq_false, ite_false]
  have henvelope (magnitude : Int) : effect.applyEnvelope wrapping
      ((effect.elapsedMs.toNat : Int) - effect.startDelayMs.toNat) magnitude =
        clampMagnitude magnitude := by
    have hover : ¬((effect.elapsedMs.toNat : Int) - effect.startDelayMs.toNat <
        effect.envelopeAttackMs.toNat) := by omega
    unfold applyEnvelope attacked faded
    simp only [hd, hover, ne_eq, not_true_eq_false, false_and, and_false, ite_false]
    rfl
  unfold envelopeValue
  simp only [hsounding, ite_true, bind, hactive, hstrength, Id.run, henvelope]
  cases effect.strength wrapping 0 with
  | none => rfl
  | some strength => rfl

theorem contribution_infinite (h : effect.Plays) (hd : effect.durationMs = 0) (hpast : effect.Past)
    (clock : UInt32) (hclock : Past { effect with elapsedMs := clock }) (deviceGain : UInt8) :
    Id.run ({ effect with elapsedMs := clock }.contribution wrapping deviceGain) =
      Id.run (effect.contribution wrapping deviceGain) := by
  have hvalue := @envelopeValue_infinite { effect with elapsedMs := clock } h hd hclock
  have hvalue' := envelopeValue_infinite h hd hpast
  have hsame : Id.run ({ effect with elapsedMs := clock }.envelopeValue wrapping) =
      Id.run (effect.envelopeValue wrapping) := by
    rw [hvalue, hvalue']
    rfl
  unfold contribution
  simp only [Id.run, bind] at hsame ⊢
  rw [hsame]

theorem past_tick (hpast : effect.Past) (dt : UInt32) :
    Past { effect with elapsedMs := effect.elapsedMs + dt } ↔
      effect.elapsedMs.toNat + dt.toNat < 4294967296 ∨
        4294967296 + effect.startDelayMs.toNat + effect.envelopeAttackMs.toNat ≤
          effect.elapsedMs.toNat + dt.toNat := by
  have helapsed := effect.elapsedMs.toNat_lt
  have hdt := dt.toNat_lt
  unfold Past at hpast ⊢
  simp only [UInt32.toNat_add]
  omega

theorem ticks_infinite (h : effect.Plays) (hd : effect.durationMs = 0) (hpast : effect.Past)
    (times : List UInt32) (hclear : effect.ClockClear times) :
    ∃ clock : UInt32, effect.ticks times = { effect with elapsedMs := clock } ∧
      Past { effect with elapsedMs := clock } := by
  induction times generalizing effect with
  | nil => exact ⟨effect.elapsedMs, rfl, hpast⟩
  | cons dt rest ih =>
    obtain ⟨htick, hrest⟩ := hclear
    have hnext := (past_tick hpast dt).2 htick
    obtain ⟨clock, hticks, hclock⟩ :=
      @ih { effect with elapsedMs := effect.elapsedMs + dt } h hd hnext hrest
    refine ⟨clock, ?_, hclock⟩
    unfold ticks at hticks ⊢
    rw [List.foldl_cons, advance_infinite h hd]
    exact hticks

theorem ClockClear.take {times : List UInt32} (h : effect.ClockClear times) (k : Nat) :
    effect.ClockClear (times.take k) := by
  induction times generalizing effect k with
  | nil => rwa [List.take_nil]
  | cons dt rest ih =>
    cases k with
    | zero => trivial
    | succ k => exact ⟨h.1, ih h.2 k⟩

end Infinite

end PidEffect

namespace PidEngine

open PidEffect

section Update

variable (engine : PidEngine) (i : Fin pidMaxEffects)

theorem update_map {β : Type} (f : PidEffect → PidEffect) (g : PidEffect → β)
    (h : g (f (engine.block i)) = g (engine.block i)) :
    (engine.update i f).effects.toList.map g = engine.effects.toList.map g := by
  apply List.ext_getElem
  · simp only [List.length_map, Vector.length_toList]
  · intro j hj hj'
    simp only [update, List.getElem_map, Vector.getElem_toList]
    by_cases hij : i.val = j
    · subst hij
      simpa only [block, Fin.getElem_fin, Vector.getElem_set_self] using h
    · rw [Vector.getElem_set_ne _ _ hij]

theorem silent_of_stopped (h : (engine.block i).playing = false) : engine.Silent i := by
  have hzero (deviceGain : UInt8) :
      Id.run (PidEffect.zero.contribution wrapping deviceGain) = none :=
    contribution_stopped rfl deviceGain
  have hnone := @contribution_stopped (engine.block i)
    (by rw [h, Bool.and_false]) engine.deviceGain
  constructor
  · exact hnone
  · have hcontributions : (engine.update i fun _ => .zero).contributions = engine.contributions :=
      engine.update_map i (fun _ => .zero)
        (fun effect => effect.contribution wrapping engine.deviceGain)
        ((hzero _).trans hnone.symm)
    have hmotors : (engine.update i fun _ => .zero).motors = engine.motors := by
      unfold motors
      rw [hcontributions]
    unfold rumble
    rw [hmotors]
    rfl
  · have hmap := engine.update_map i (fun _ => .zero)
      (fun effect => effect.allocated && effect.playing)
      (by simp only [PidEffect.zero, h, Bool.and_false])
    unfold needsTick
    have hany := congrArg (fun flags : List Bool => flags.any id) hmap
    simp only [List.any_map, Function.id_comp] at hany
    exact hany.symm

end Update

theorem ticks_eq (engine : PidEngine) (h : engine.paused = false) (times : List UInt32) :
    engine.ticks times =
      { engine with effects := engine.effects.map fun effect => effect.ticks times } := by
  induction times generalizing engine with
  | nil =>
    have hid : engine.effects.map (fun effect => effect) = engine.effects := Vector.map_id _
    simp only [ticks, PidEffect.ticks, List.foldl_nil, hid]
  | cons dt rest ih =>
    have hrest := ih (engine.advance dt) (by
      unfold advance
      rw [if_neg (by rw [h]; decide)]
      exact h)
    unfold ticks at hrest ⊢
    rw [List.foldl_cons, hrest]
    unfold advance
    simp only [h, Bool.false_eq_true, ite_false, Vector.map_map]
    rfl

theorem ticks_effect (engine : PidEngine) (h : engine.paused = false) (times : List UInt32)
    (i : Fin pidMaxEffects) : (engine.ticks times).block i = (engine.block i).ticks times := by
  rw [ticks_eq engine h]
  simp only [block, Fin.getElem_fin, Vector.getElem_map]

-- A start request, plain or solo, for an allocated block.
structure Starts (engine : PidEngine) (report : PidEffectOperationReport)
    (i : Fin pidMaxEffects) : Prop where
  block : effect report.effectBlockIndex = some i
  allocated : (engine.block i).allocated = true
  operation : report.operation = 1 ∨ report.operation = 2

theorem Starts.started {engine : PidEngine} {report : PidEffectOperationReport}
    {i : Fin pidMaxEffects} (h : engine.Starts report i) :
    (engine.effectOperation report).2.block i =
        { engine.block i with playing := true, elapsedMs := 0, loopCount := report.loopCount } ∧
      (engine.effectOperation report).2.paused = engine.paused := by
  cases h.operation with
  | inl hstart =>
    rw [engine.effectOperation_start h.block h.allocated hstart]
    exact ⟨engine.update_same i _, rfl⟩
  | inr hsolo =>
    rw [engine.effectOperation_solo h.block h.allocated hsolo]
    refine ⟨(engine.stopAll.update_same i _).trans ?_, rfl⟩
    rw [engine.stopAll_effect]
    rfl

-- A finite effect plays until a tick that only its delay, its duration, its plays and
-- the tick length determine: each play ends at the first tick that reaches its end and
-- the next one starts there.
theorem finite_schedule (engine : PidEngine) (report : PidEffectOperationReport)
    (i : Fin pidMaxEffects) (dt : UInt32) (hstarts : engine.Starts report i)
    (hpaused : engine.paused = false) (hd : (engine.block i).durationMs ≠ 0)
    (hn : report.loopCount ≠ 0xFF) (hdt : dt ≠ 0)
    (hloop : report.loopCount.toNat ≤ 1 ∨
      (engine.block i).startDelayMs.toNat + dt.toNat < 4294967296) (k : Nat) :
    let later := (engine.effectOperation report).2.ticks (List.replicate k dt)
    let stop := scheduleTicks (engine.block i).startDelayMs.toNat
      (engine.block i).durationMs.toNat report.loopCount.toNat dt.toNat
    ((later.block i).playing = true ↔ k < stop) ∧ (stop ≤ k → later.Silent i) := by
  intro later stop
  obtain ⟨hstarted, hsame⟩ := hstarts.started
  have hlater : later.block i =
      ((engine.effectOperation report).2.block i).ticks (List.replicate k dt) :=
    ticks_effect _ (hsame.trans hpaused) _ i
  have hduration : (engine.block i).durationMs.toNat ≠ 0 :=
    fun h0 => hd (UInt16.toNat_inj.1 h0)
  have hpos : 0 < dt.toNat := Nat.pos_of_ne_zero fun h0 => hdt (UInt32.toNat_inj.1 h0)
  have hlt := dt.toNat_lt
  have hplays := @playing_iff ((engine.effectOperation report).2.block i) dt
    (by rw [hstarted]; exact ⟨hstarts.allocated, rfl⟩) hpos
    (by rw [hstarted]; exact hd) (by rw [hstarted]; exact hn)
    (by rw [hstarted]; simp only [total, UInt32.toNat_zero]; omega)
    (by rw [hstarted]; simp only [UInt32.toNat_zero]; omega)
    (by rw [hstarted]; exact hloop) k
  have hstop : stopTick ((engine.effectOperation report).2.block i)
      ((engine.effectOperation report).2.block i).elapsedMs.toNat dt.toNat = stop := by
    have hone : max report.loopCount.toNat 1 - 1 = report.loopCount.toNat - 1 := by omega
    rw [hstarted]
    simp only [stopTick, total, UInt32.toNat_zero, Nat.sub_zero, stop, scheduleTicks, hone]
  rw [hstop, ← hlater] at hplays
  refine ⟨hplays, fun hle => ?_⟩
  apply silent_of_stopped
  rw [Bool.eq_false_iff]
  intro hplaying
  have hearly := hplays.1 hplaying
  omega

-- An infinite effect that is past its delay and attack keeps its contribution in every
-- run whose ticks do not bring the clock round into them.
theorem infinite_effect_steady (engine : PidEngine) (i : Fin pidMaxEffects)
    (times : List UInt32) (hpaused : engine.paused = false) (hplays : (engine.block i).Plays)
    (hd : (engine.block i).durationMs = 0) (hpast : (engine.block i).Past)
    (hclear : (engine.block i).ClockClear times) (k : Nat) :
    let later := engine.ticks (times.take k)
    (later.block i).playing = true ∧
      Id.run ((later.block i).contribution wrapping later.deviceGain) =
        Id.run ((engine.block i).contribution wrapping engine.deviceGain) := by
  intro later
  have hlater : later.block i = (engine.block i).ticks (times.take k) :=
    ticks_effect engine hpaused _ i
  have hgain : later.deviceGain = engine.deviceGain := by
    have heq : later = _ := ticks_eq engine hpaused (times.take k)
    rw [heq]
  obtain ⟨clock, hticks, hclock⟩ := ticks_infinite hplays hd hpast _ (hclear.take k)
  rw [hgain, hlater, hticks]
  exact ⟨hplays.2, contribution_infinite hplays hd hpast clock hclock _⟩

section Scenarios

-- A constant force of a given duration and delay, loaded into the first block.
def loaded (durationMs startDelayMs : UInt16) : PidEngine :=
  run [
    .report (.createNewEffect ⟨1, 0⟩),
    .report (.setConstantForce ⟨1, 10000⟩),
    .report (.setEffect ⟨1, 0, durationMs, 255, startDelayMs⟩)]

theorem loaded_starts :
    (loaded 15 0).Starts ⟨1, 1, 2⟩ 0 :=
  ⟨rfl, by decide, .inl rfl⟩

theorem finite_schedule_two_plays :
    let later := ((loaded 15 0).effectOperation ⟨1, 1, 2⟩).2.ticks (List.replicate 3 10)
    ((later.block 0).playing = true ↔ 3 < 4) ∧
      (4 ≤ 3 → later.Silent 0) := by
  have h := finite_schedule (loaded 15 0) ⟨1, 1, 2⟩ 0 10 loaded_starts (by decide)
    (by decide) (by decide) (by decide) (.inr (by decide)) 3
  have hstop : scheduleTicks ((loaded 15 0).block 0).startDelayMs.toNat
      ((loaded 15 0).block 0).durationMs.toNat 2 10 = 4 := by
    decide
  simp only [UInt8.reduceToNat, UInt32.reduceToNat, hstop] at h
  exact h

-- Two plays of 15 ms on a clock of 10 ms are not over after 30 ms; and a second play
-- with a delay is not over at once even when one tick spans it.
theorem overshoot_lost :
    ((((loaded 15 0).effectOperation ⟨1, 1, 2⟩).2.ticks
        (List.replicate 3 10)).block 0).playing = true ∧
      ¬3 * 10 < 0 + max 2 1 * 15 ∧
      ((((loaded 1 1000).effectOperation ⟨1, 1, 2⟩).2.ticks
        (List.replicate 3 4294967295)).block 0).playing = true ∧
      ¬3 < scheduleTicks 1000 1 2 4294967295 := by
  decide +kernel

theorem infinite_effect_steady_ticks :
    let engine := ((loaded 0 1000).effectOperation ⟨1, 1, 1⟩).2.advance 2000
    let later := engine.ticks ([10, 10].take 2)
    (later.block 0).playing = true ∧
      Id.run ((later.block 0).contribution wrapping later.deviceGain) =
        Id.run ((engine.block 0).contribution wrapping engine.deviceGain) := by
  intro engine
  exact infinite_effect_steady engine 0 [10, 10] (by decide +kernel)
    ⟨by decide +kernel, by decide +kernel⟩ (by decide +kernel)
    (by unfold PidEffect.Past; decide +kernel)
    ⟨.inl (by decide +kernel), .inl (by decide +kernel), trivial⟩ 2

-- Past its delay, until the 32-bit clock comes round to the delay again.
theorem infinite_effect_silenced :
    let engine := ((loaded 0 1000).effectOperation ⟨1, 1, 1⟩).2.advance 2000
    let later := engine.ticks [4294965796]
    (engine.block 0).Plays ∧
      (engine.block 0).durationMs = 0 ∧
      (engine.block 0).Past ∧
      engine.actuatorsEnabled = true ∧ engine.paused = false ∧
      Id.run ((engine.block 0).contribution wrapping engine.deviceGain) =
        some (10000, false) ∧
      Id.run ((later.block 0).contribution wrapping later.deviceGain) =
        none := by
  unfold PidEffect.Plays PidEffect.Past
  decide +kernel

end Scenarios

end PidEngine

end LibVirtualGamepad
