import LibVirtualGamepad.FixedWidth
import LibVirtualGamepad.Protocol

-- The force feedback engine of the generic profile: a host's effect blocks, reduced
-- to one rumble value.
namespace LibVirtualGamepad

open FixedWidth IntType

abbrev pidMaxEffects : Nat := 16
def pidNominalMax : Int := 10000
def pidRamPoolSize : Nat := 1024
def pidBytesPerEffect : Nat := pidRamPoolSize / pidMaxEffects

inductive PidEffectType where
  | none
  | constantForce
  | ramp
  | square
  | sine
  | triangle
  | sawtoothUp
  | sawtoothDown
  | spring
  | damper
  | inertia
  | friction
  | customForceData
  deriving DecidableEq

namespace PidEffectType

-- The types a host may ask for, by their value in a report.
def named : List PidEffectType :=
  [.constantForce, .ramp, .square, .sine, .triangle, .sawtoothUp, .sawtoothDown, .spring,
    .damper, .inertia, .friction, .customForceData]

-- The bounds that a type is checked against.
def valid (raw : UInt8) : Bool := raw != 0 && raw ≤ 12

-- The cast of a checked value.
def ofByte (raw : UInt8) : PidEffectType := (named[raw.toNat - 1]?).getD .none

end PidEffectType

inductive PidBlockLoadStatus where
  | success
  | full
  | error
  deriving DecidableEq

structure PidEffect where
  allocated : Bool
  playing : Bool
  type : PidEffectType
  durationMs : UInt16
  startDelayMs : UInt16
  gain : UInt8
  loopCount : UInt8
  constantMagnitude : Int16
  periodicMagnitude : UInt16
  rampStart : Int16
  rampEnd : Int16
  envelopeAttackLevel : UInt16
  envelopeFadeLevel : UInt16
  envelopeAttackMs : UInt16
  envelopeFadeMs : UInt16
  elapsedMs : UInt32
  deriving DecidableEq

def PidEffect.zero : PidEffect :=
  ⟨false, false, .none, 0, 0, 0, 0, 0, 0, 0, 0, 0, 0, 0, 0, 0⟩

-- A block as it is allocated.
def PidEffect.fresh (effectType : UInt8) : PidEffect :=
  { zero with allocated := true, type := .ofByte effectType, gain := 255 }

structure PidRumble where
  lowFrequency : UInt16
  highFrequency : UInt16
  deriving DecidableEq

-- `lastAllocated` is the block index that block_load reports, 0 for none yet.
structure PidEngine where
  effects : Vector PidEffect pidMaxEffects
  lastAllocated : UInt8
  lastLoadStatus : PidBlockLoadStatus
  deviceGain : UInt8
  actuatorsEnabled : Bool
  paused : Bool
  deriving DecidableEq

-- The reports as they are read from a host, without the report id that was checked.
structure PidCreateNewEffectReport where
  effectType : UInt8
  byteCount : UInt16

structure PidBlockLoadReport where
  effectBlockIndex : UInt8
  blockLoadStatus : PidBlockLoadStatus
  ramPoolAvailable : UInt16
  deriving DecidableEq

structure PidSetEffectReport where
  effectBlockIndex : UInt8
  effectType : UInt8
  durationMs : UInt16
  gain : UInt8
  startDelayMs : UInt16

structure PidSetEnvelopeReport where
  effectBlockIndex : UInt8
  attackLevel : UInt16
  fadeLevel : UInt16
  attackTimeMs : UInt16
  fadeTimeMs : UInt16

-- Of a condition report only the block is looked at.
structure PidSetConditionReport where
  effectBlockIndex : UInt8

structure PidSetPeriodicReport where
  effectBlockIndex : UInt8
  magnitude : UInt16

structure PidSetConstantForceReport where
  effectBlockIndex : UInt8
  magnitude : Int16

structure PidSetRampForceReport where
  effectBlockIndex : UInt8
  rampStart : Int16
  rampEnd : Int16

structure PidEffectOperationReport where
  effectBlockIndex : UInt8
  operation : UInt8
  loopCount : UInt8

structure PidBlockFreeReport where
  effectBlockIndex : UInt8

structure PidDeviceControlReport where
  control : UInt8

structure PidDeviceGainReport where
  deviceGain : UInt8

def clampMagnitude (value : Int) : Int :=
  if value < 0 then 0 else if value > pidNominalMax then pidNominalMax else value

def absolute (value : Int) : Int := if value < 0 then -value else value

namespace PidEffect

section Envelope

variable {m : Type → Type} [Monad m] (fit : Rounding m) (effect : PidEffect)

-- The product is taken in 64 bits, the quotient is cast to 32 before the sum.
def attackLine (activeMs magnitude : Int) : m Int := do
  let start : Int := effect.envelopeAttackLevel.toNat
  let span ← fit int64 (magnitude - start)
  let product ← fit int64 (span * activeMs)
  let quotient ← fit int64 (product.tdiv effect.envelopeAttackMs.toNat)
  let offset ← fit int32 quotient
  fit int32 (start + offset)

def fadeStart : Nat :=
  if effect.durationMs > effect.envelopeFadeMs then
    effect.durationMs.toNat - effect.envelopeFadeMs.toNat
  else 0

def fadeLine (activeMs magnitude : Int) : m Int := do
  let fadeEnd : Int := effect.envelopeFadeLevel.toNat
  let intoFade ← fit uint32 (activeMs - effect.fadeStart)
  let fadeSpan ← fit uint32 (effect.durationMs.toNat - effect.fadeStart)
  let span ← fit int64 (fadeEnd - magnitude)
  let product ← fit int64 (span * intoFade)
  let quotient ← fit int64 (product.tdiv fadeSpan)
  let offset ← fit int32 quotient
  fit int32 (magnitude + offset)

-- A zero attack or fade time leaves that edge alone.
def attacked (activeMs magnitude : Int) : m Int :=
  if effect.envelopeAttackMs ≠ 0 ∧ activeMs < effect.envelopeAttackMs.toNat then
    effect.attackLine fit activeMs magnitude
  else pure magnitude

def faded (activeMs magnitude result : Int) : m Int :=
  if effect.durationMs ≠ 0 ∧ effect.envelopeFadeMs ≠ 0 then
    if effect.fadeStart ≤ activeMs ∧ effect.durationMs.toNat - effect.fadeStart ≠ 0 then do
      let line ← effect.fadeLine fit activeMs magnitude
      pure (if result < line then result else line)
    else pure result
  else pure result

def applyEnvelope (activeMs magnitude : Int) : m Int := do
  let result ← effect.attacked fit activeMs magnitude
  let result ← effect.faded fit activeMs magnitude result
  pure (clampMagnitude result)

def rampValue (activeMs : Int) : m Int :=
  if effect.durationMs ≠ 0 then do
    let span : Int := effect.durationMs.toNat
    let position := if activeMs > span then span else activeMs
    let delta ← fit int64 (effect.rampEnd.toInt - effect.rampStart.toInt)
    let product ← fit int64 (delta * position)
    let quotient ← fit int64 (product.tdiv span)
    let offset ← fit int32 quotient
    fit int32 (effect.rampStart.toInt + offset)
  else
    pure effect.rampStart.toInt

-- The strength of a type that a rumble motor can reproduce, and whether it is
-- periodic. Conditions and custom forces have no rumble analogue.
def strength (activeMs : Int) : m (Option (Int × Bool)) :=
  match effect.type with
  | .constantForce => do
    let magnitude ← fit int32 (absolute effect.constantMagnitude.toInt)
    pure (some (magnitude, false))
  | .ramp => do
    let value ← effect.rampValue fit activeMs
    let magnitude ← fit int32 (absolute value)
    pure (some (magnitude, false))
  | .square | .sine | .triangle | .sawtoothUp | .sawtoothDown =>
    pure (some (effect.periodicMagnitude.toNat, true))
  | _ => pure none

-- Whether the effect plays and its start delay is over.
def sounding : Bool :=
  effect.allocated && effect.playing && !(effect.elapsedMs.toNat < effect.startDelayMs.toNat)

-- The strength after the envelope, none for an effect that rumble() passes over.
def envelopeValue : m (Option (Int × Bool)) :=
  if effect.sounding then do
    let activeMs ← fit uint32 (effect.elapsedMs.toNat - effect.startDelayMs.toNat)
    match ← effect.strength fit activeMs with
    | none => pure none
    | some (magnitude, periodic) => do
      let value ← effect.applyEnvelope fit activeMs magnitude
      pure (some (value, periodic))
  else
    pure none

def scale (magnitude : Int) (gain : UInt8) : m Int := do
  let product ← fit int32 (magnitude * gain.toNat)
  fit int32 (product.tdiv 255)

-- What the effect asks of a motor: the low one, or the high one when periodic.
def contribution (deviceGain : UInt8) : m (Option (Int × Bool)) := do
  match ← effect.envelopeValue fit with
  | none => pure none
  | some (value, periodic) => do
    let gained ← scale fit value effect.gain
    let magnitude ← scale fit gained deviceGain
    pure (some (clampMagnitude magnitude, periodic))

end Envelope

-- One effect's part of a clock tick.
def advance (effect : PidEffect) (elapsedMs : UInt32) : PidEffect :=
  if !effect.allocated || !effect.playing then
    effect
  else
    let effect := { effect with elapsedMs := effect.elapsedMs + elapsedMs }
    let total := effect.startDelayMs.toUInt32 + effect.durationMs.toUInt32
    if effect.durationMs = 0 then
      effect
    else if effect.elapsedMs < total then
      effect
    else if effect.loopCount = 0xFF then
      { effect with elapsedMs := effect.startDelayMs.toUInt32 }
    else if effect.loopCount > 1 then
      { effect with
        loopCount := effect.loopCount - 1
        elapsedMs := effect.startDelayMs.toUInt32 }
    else
      { effect with playing := false, elapsedMs := 0 }

def stop (effect : PidEffect) : PidEffect := { effect with playing := false, elapsedMs := 0 }

end PidEffect

namespace PidEngine

-- Block indices are 1-based.
def effect (blockIndex : UInt8) : Option (Fin pidMaxEffects) :=
  if h : blockIndex = 0 ∨ blockIndex > 16 then none
  else some ⟨blockIndex.toNat - 1, by
    have hle : blockIndex ≤ 16 := UInt8.not_lt.1 fun h' => h (.inr h')
    have := UInt8.le_iff_toNat_le.1 hle
    have hne : blockIndex.toNat ≠ 0 := fun h' => h (.inl (UInt8.toNat_inj.1 h'))
    simp only [UInt8.reduceToNat] at this
    unfold pidMaxEffects
    omega⟩

-- Every member is set, so the engine that was does not matter.
def reset : PidEngine where
  effects := Vector.replicate _ .zero
  lastAllocated := 0
  lastLoadStatus := .success
  deviceGain := 255
  actuatorsEnabled := true
  paused := false

def block (engine : PidEngine) (i : Fin pidMaxEffects) : PidEffect := engine.effects[i]

def stopAll (engine : PidEngine) : PidEngine :=
  { engine with effects := engine.effects.map PidEffect.stop }

def freeBlock (engine : PidEngine) : Option (Fin pidMaxEffects) :=
  (List.finRange pidMaxEffects).find? fun i => !engine.effects[i].allocated

def createNewEffect (engine : PidEngine) (request : PidCreateNewEffectReport) :
    Bool × PidEngine :=
  if !PidEffectType.valid request.effectType then
    (false, { engine with lastLoadStatus := .error })
  else
    match engine.freeBlock with
    | some i =>
      (true, { engine with
        effects := engine.effects.set i (.fresh request.effectType)
        lastAllocated := UInt8.ofNat (i + 1)
        lastLoadStatus := .success })
    | none => (false, { engine with lastLoadStatus := .full })

def blockLoad (engine : PidEngine) : PidBlockLoadReport :=
  let used := engine.effects.toList.foldl
    (fun used effect =>
      if effect.allocated then used + UInt16.ofNat pidBytesPerEffect else used) (0 : UInt16)
  { effectBlockIndex := engine.lastAllocated
    blockLoadStatus := engine.lastLoadStatus
    ramPoolAvailable := UInt16.ofNat pidRamPoolSize - used }

-- A report about a block that is not allocated is refused, another one goes to `f`.
def withBlock (engine : PidEngine) (blockIndex : UInt8)
    (f : Fin pidMaxEffects → Bool × PidEngine) : Bool × PidEngine :=
  match effect blockIndex with
  | none => (false, engine)
  | some i => if engine.effects[i].allocated then f i else (false, engine)

def update (engine : PidEngine) (i : Fin pidMaxEffects) (f : PidEffect → PidEffect) : PidEngine :=
  { engine with effects := engine.effects.set i (f engine.effects[i]) }

-- A type out of range leaves the block's type alone.
def setEffect (engine : PidEngine) (report : PidSetEffectReport) : Bool × PidEngine :=
  engine.withBlock report.effectBlockIndex fun i =>
    (true, engine.update i fun effect =>
      { effect with
        type := if PidEffectType.valid report.effectType then .ofByte report.effectType
          else effect.type
        durationMs := report.durationMs
        startDelayMs := report.startDelayMs
        gain := report.gain })

def setEnvelope (engine : PidEngine) (report : PidSetEnvelopeReport) : Bool × PidEngine :=
  engine.withBlock report.effectBlockIndex fun i =>
    (true, engine.update i fun effect =>
      { effect with
        envelopeAttackLevel := report.attackLevel
        envelopeFadeLevel := report.fadeLevel
        envelopeAttackMs := report.attackTimeMs
        envelopeFadeMs := report.fadeTimeMs })

-- Accepted without inventing vibration.
def setCondition (engine : PidEngine) (report : PidSetConditionReport) : Bool × PidEngine :=
  engine.withBlock report.effectBlockIndex fun _ => (true, engine)

def setPeriodic (engine : PidEngine) (report : PidSetPeriodicReport) : Bool × PidEngine :=
  engine.withBlock report.effectBlockIndex fun i =>
    (true, engine.update i fun effect => { effect with periodicMagnitude := report.magnitude })

def setConstantForce (engine : PidEngine) (report : PidSetConstantForceReport) :
    Bool × PidEngine :=
  engine.withBlock report.effectBlockIndex fun i =>
    (true, engine.update i fun effect => { effect with constantMagnitude := report.magnitude })

def setRampForce (engine : PidEngine) (report : PidSetRampForceReport) : Bool × PidEngine :=
  engine.withBlock report.effectBlockIndex fun i =>
    (true, engine.update i fun effect =>
      { effect with rampStart := report.rampStart, rampEnd := report.rampEnd })

def start (engine : PidEngine) (i : Fin pidMaxEffects) (loopCount : UInt8) : PidEngine :=
  engine.update i fun effect =>
    { effect with playing := true, elapsedMs := 0, loopCount := loopCount }

-- A solo start stops every effect, the named one too, and falls through.
def effectOperation (engine : PidEngine) (report : PidEffectOperationReport) :
    Bool × PidEngine :=
  engine.withBlock report.effectBlockIndex fun i =>
    if report.operation = 2 then (true, engine.stopAll.start i report.loopCount)
    else if report.operation = 1 then (true, engine.start i report.loopCount)
    else if report.operation = 3 then (true, engine.update i PidEffect.stop)
    else (false, engine)

def blockFree (engine : PidEngine) (report : PidBlockFreeReport) : Bool × PidEngine :=
  engine.withBlock report.effectBlockIndex fun i =>
    (true, engine.update i fun _ => .zero)

def deviceControl (engine : PidEngine) (report : PidDeviceControlReport) : Bool × PidEngine :=
  if report.control = 1 then (true, { engine with actuatorsEnabled := true })
  else if report.control = 2 then (true, { engine with actuatorsEnabled := false })
  else if report.control = 3 then (true, engine.stopAll)
  else if report.control = 4 then (true, reset)
  else if report.control = 5 then (true, { engine with paused := true })
  else if report.control = 6 then (true, { engine with paused := false })
  else (false, engine)

def setDeviceGain (engine : PidEngine) (report : PidDeviceGainReport) : Bool × PidEngine :=
  (true, { engine with deviceGain := report.deviceGain })

def advance (engine : PidEngine) (elapsedMs : UInt32) : PidEngine :=
  if engine.paused then engine
  else { engine with effects := engine.effects.map (·.advance elapsedMs) }

def needsTick (engine : PidEngine) : Bool :=
  engine.effects.toList.any fun effect => effect.allocated && effect.playing

-- The louder of what a motor has and what an effect asks of it.
def louder (motors : Int × Int) : Option (Int × Bool) → Int × Int
  | none => motors
  | some (magnitude, true) => (motors.1, if motors.2 > magnitude then motors.2 else magnitude)
  | some (magnitude, false) => (if motors.1 > magnitude then motors.1 else magnitude, motors.2)

def contributions (engine : PidEngine) : List (Option (Int × Bool)) :=
  engine.effects.toList.map fun effect => effect.contribution wrapping engine.deviceGain

def motors (engine : PidEngine) : Int × Int := engine.contributions.foldl louder (0, 0)

-- A magnitude in the range of the rumble reports.
def toRumble {m : Type → Type} [Monad m] (fit : Rounding m) (magnitude : Int) : m Int := do
  let product ← fit int32 (clampMagnitude magnitude * 65535)
  fit int32 (product.tdiv pidNominalMax)

def rumble (engine : PidEngine) : PidRumble :=
  if !engine.actuatorsEnabled || engine.paused then
    ⟨0, 0⟩
  else
    let low := toRumble wrapping engine.motors.1
    let high := toRumble wrapping engine.motors.2
    ⟨UInt16.ofNat low.toNat, UInt16.ofNat high.toNat⟩

end PidEngine

inductive PidReport where
  | createNewEffect (report : PidCreateNewEffectReport)
  | setEffect (report : PidSetEffectReport)
  | setEnvelope (report : PidSetEnvelopeReport)
  | setCondition (report : PidSetConditionReport)
  | setPeriodic (report : PidSetPeriodicReport)
  | setConstantForce (report : PidSetConstantForceReport)
  | setRampForce (report : PidSetRampForceReport)
  | effectOperation (report : PidEffectOperationReport)
  | blockFree (report : PidBlockFreeReport)
  | deviceControl (report : PidDeviceControlReport)
  | deviceGain (report : PidDeviceGainReport)

def PidReport.apply (engine : PidEngine) : PidReport → Bool × PidEngine
  | .createNewEffect report => engine.createNewEffect report
  | .setEffect report => engine.setEffect report
  | .setEnvelope report => engine.setEnvelope report
  | .setCondition report => engine.setCondition report
  | .setPeriodic report => engine.setPeriodic report
  | .setConstantForce report => engine.setConstantForce report
  | .setRampForce report => engine.setRampForce report
  | .effectOperation report => engine.effectOperation report
  | .blockFree report => engine.blockFree report
  | .deviceControl report => engine.deviceControl report
  | .deviceGain report => engine.setDeviceGain report

-- What happens to an engine: a host's report, or a clock tick.
inductive PidOp where
  | report (report : PidReport)
  | advance (elapsedMs : UInt32)

namespace PidEngine

def step (engine : PidEngine) : PidOp → PidEngine
  | .report report => (report.apply engine).2
  | .advance elapsedMs => engine.advance elapsedMs

def run (ops : List PidOp) : PidEngine := ops.foldl step reset

end PidEngine

end LibVirtualGamepad
