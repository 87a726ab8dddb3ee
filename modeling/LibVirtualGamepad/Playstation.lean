import LibVirtualGamepad.Sc26Usb

-- What the two PlayStation pads share: stick and hat scaling, the touch surface,
-- motion, battery, the pairing features and the retained output state.
namespace LibVirtualGamepad.Playstation

def addBit8 (bits mask : UInt8) (on : Bool) : UInt8 := if on then bits ||| mask else bits

-- Clockwise from up, 8 when released or when opposite directions are held.
def encodeHat (buttons : UInt32) : UInt8 :=
  let up := hasAny buttons ButtonMask.dpadUp
  let down := hasAny buttons ButtonMask.dpadDown
  let left := hasAny buttons ButtonMask.dpadLeft
  let right := hasAny buttons ButtonMask.dpadRight
  if (up && down) || (left && right) then 8
  else if up then (if right then 1 else if left then 7 else 0)
  else if down then (if right then 3 else if left then 5 else 4)
  else if right then 2
  else if left then 6
  else 8

def toStick (value : Int16) : UInt8 := UInt8.ofInt ((value.toInt + 32768) >>> 8)

def toStickInverted (value : Int16) : UInt8 :=
  let scaled := (32768 - value.toInt) >>> 8
  UInt8.ofInt (if scaled > 255 then 255 else if scaled < 0 then 0 else scaled)

-- Hat, then square, cross, circle and triangle.
def faceButtons (buttons : UInt32) : UInt8 :=
  let bits := encodeHat buttons
  let bits := addBit8 bits 0x10 (hasAny buttons ButtonMask.west)
  let bits := addBit8 bits 0x20 (hasAny buttons ButtonMask.south)
  let bits := addBit8 bits 0x40 (hasAny buttons ButtonMask.east)
  addBit8 bits 0x80 (hasAny buttons ButtonMask.north)

-- L1, R1, L2, R2, share, options, L3, R3; L2 and R2 come from the analog travel.
def shoulderButtons (input : InputStateRequest) : UInt8 :=
  let bits := addBit8 0 0x01 (hasAny input.buttons ButtonMask.leftShoulder)
  let bits := addBit8 bits 0x02 (hasAny input.buttons ButtonMask.rightShoulder)
  let bits := addBit8 bits 0x04 (input.leftTrigger > 0)
  let bits := addBit8 bits 0x08 (input.rightTrigger > 0)
  let bits := addBit8 bits 0x10 (hasAny input.buttons ButtonMask.back)
  let bits := addBit8 bits 0x20 (hasAny input.buttons ButtonMask.start)
  let bits := addBit8 bits 0x40 (hasAny input.buttons ButtonMask.leftStick)
  addBit8 bits 0x80 (hasAny input.buttons ButtonMask.rightStick)

abbrev touchContacts : Nat := 2

structure Contacts where
  nextTrackingId : UInt8
  active : Vector Bool touchContacts
  trackingId : Vector UInt8 touchContacts
  x : Vector UInt16 touchContacts
  y : Vector UInt16 touchContacts

namespace Contacts

def initial : Contacts where
  nextTrackingId := 1
  active := Vector.replicate _ false
  trackingId := Vector.replicate _ 0
  x := Vector.replicate _ 0
  y := Vector.replicate _ 0

-- Seven bits, and never zero again.
def nextId (id : UInt8) : UInt8 := if (id + 1) &&& 0x7F = 0 then 1 else (id + 1) &&& 0x7F

theorem toNat_succ_low (id : UInt8) : ((id + 1) &&& 0x7F).toNat = (id.toNat + 1) % 128 := by
  have hmask : (0x7F : UInt8).toNat = 2 ^ 7 - 1 := rfl
  have hone : (1 : UInt8).toNat = 1 := rfl
  rw [UInt8.toNat_and, UInt8.toNat_add, hmask, Nat.and_two_pow_sub_one_eq_mod]
  omega

theorem toNat_nextId (id : UInt8) : (nextId id).toNat =
    if (id.toNat + 1) % 128 = 0 then 1 else (id.toNat + 1) % 128 := by
  have hzero : (id + 1) &&& 0x7F = 0 ↔ (id.toNat + 1) % 128 = 0 := by
    rw [← UInt8.toNat_inj, toNat_succ_low]
    rfl
  unfold nextId
  split
  · rename_i hwraps
    rw [if_pos (hzero.mp hwraps)]
    rfl
  · rename_i hnext
    rw [if_neg (fun hmod => hnext (hzero.mpr hmod)), toNat_succ_low]

theorem nextId_ne (id : UInt8) : nextId id ≠ id := by
  intro hsame
  have hid := toNat_nextId id
  rw [hsame] at hid
  split at hid <;> omega

-- Hand out ids until one differs from the other finger's; the second component is
-- the counter afterwards.
def allocateId (other : Option UInt8) (next : UInt8) : UInt8 × UInt8 :=
  if other = some next then allocateId other (nextId next) else (next, nextId next)
termination_by if other = some next then 1 else 0
decreasing_by
  rename_i h
  have hne : next ≠ nextId next := (nextId_ne next).symm
  simp [h, hne]

def place (contacts : Contacts) (i : Fin touchContacts) (touch : TouchStateRequest) : Contacts :=
  { contacts with x := contacts.x.set i touch.x, y := contacts.y.set i touch.y }

def lift (contacts : Contacts) (i : Fin touchContacts) : Contacts :=
  { contacts with active := contacts.active.set i false }

-- A finger that was up gets a new id, one that was down keeps its own.
def press (contacts : Contacts) (i : Fin touchContacts) : Contacts :=
  if contacts.active[i] then
    contacts
  else
    let other := 1 - i
    let (id, next) := allocateId
      (if contacts.active[other] then some contacts.trackingId[other] else none)
      contacts.nextTrackingId
    { contacts with
      nextTrackingId := next
      trackingId := contacts.trackingId.set i id
      active := contacts.active.set i true }

def otherContact (i : Fin touchContacts) : Fin touchContacts := 1 - i

def apply (touch : TouchStateRequest) (contacts : Contacts) : Bool × Contacts :=
  match TouchEvent.ofByte touch.eventType with
  | .cancelAll => (true, { contacts with active := Vector.replicate _ false })
  | event =>
    if h : touch.contactIndex.toNat < touchContacts then
      let i : Fin touchContacts := ⟨touch.contactIndex.toNat, h⟩
      match event with
      | .down => (true, (contacts.press i).place i touch)
      | .move | .hover =>
        if contacts.active[i] then (true, contacts.place i touch) else (false, contacts)
      | .up | .cancel => (true, contacts.lift i)
      | _ => (false, contacts)
    else
      (false, contacts)

end Contacts

-- A value of the normalized surface on `size` device units.
def toTouch (size : Nat) (value : UInt16) : UInt16 := UInt16.ofNat (value.toNat * (size - 1) / 65535)

-- Tracking byte (its high bit means no contact) and two packed 12-bit coordinates.
def packTouchPoint (active : Bool) (trackingId : UInt8) (x y : UInt16) : List UInt8 :=
  [(if active then 0 else 0x80) ||| (trackingId &&& 0x7F),
    x.toUInt8,
    ((x >>> 8) &&& 0x0F).toUInt8 ||| ((y &&& 0x0F).toUInt8 <<< 4),
    (y >>> 4).toUInt8]

def Contacts.points (contacts : Contacts) (width height : Nat) : List UInt8 :=
  (List.finRange touchContacts).flatMap fun i =>
    packTouchPoint contacts.active[i] contacts.trackingId[i]
      (toTouch width contacts.x[i]) (toTouch height contacts.y[i])

def accelCountsPerG : Int := 8192
def gyroCountsPerDps : Int := 16
def milliG : Int := 9807

def clampInt32 (value : Int) : Int := max (-2147483648) (min value 2147483647)

structure Motion where
  gyro : Int16 × Int16 × Int16
  accel : Int16 × Int16 × Int16

-- One gravity on y at rest.
def Motion.initial : Motion := ⟨(0, 0, 0), (0, 8192, 0)⟩

def Motion.apply (request : MotionStateRequest) (motion : Motion) : Bool × Motion :=
  match MotionKind.ofByte request.motionType with
  | .accelerometer =>
    let convert (milli : Int32) :=
      Sc26Usb.clampI16 (clampInt32 ((milli.toInt * accelCountsPerG).tdiv milliG))
    (true, { motion with
      accel := (convert request.xMilli, convert request.yMilli, convert request.zMilli) })
  | .gyroscope =>
    let convert (milli : Int32) :=
      Sc26Usb.clampI16 (clampInt32 ((milli.toInt * gyroCountsPerDps).tdiv 1000))
    (true, { motion with
      gyro := (convert request.xMilli, convert request.yMilli, convert request.zMilli) })
  | .other _ => (false, motion)

def axisBytes (axes : Int16 × Int16 × Int16) : List UInt8 :=
  Sc26Usb.leInt16 axes.1 ++ Sc26Usb.leInt16 axes.2.1 ++ Sc26Usb.leInt16 axes.2.2

structure Battery where
  level : UInt8
  cableConnected : Bool
  full : Bool

-- The level is tens of percent; a percentage out of range leaves it alone.
def Battery.apply (request : BatteryStateRequest) (battery : Battery) : Battery :=
  let reported := BatteryState.ofByte request.flags
  { level := if request.percent ≤ 100 then
      (if request.percent ≥ 100 then 10 else request.percent / 10) else battery.level
    cableConnected := reported == .charging || reported == .full || reported == .notCharging
    full := reported == .full }

-- The feature contract: the pairing address and the sensor-enable command.
structure FeatureState where
  address : Vector UInt8 6
  sensorsEnabled : Bool

def fillPairing (pairingId : UInt8) (address : Vector UInt8 6) : List UInt8 :=
  [pairingId] ++ address.toList ++ [0x08, 0x25, 0x00]

-- A report in a transfer buffer of `capacity` bytes, zeros behind it; none when it
-- does not fit.
def answerFeature (report : List UInt8) (length capacity : Nat) : Option (List UInt8) :=
  if capacity < length then none else some (report ++ List.replicate (capacity - report.length) 0)

-- Only the command that enables the sensors is known, with zeros behind it.
def setFeature (controlId : UInt8) (size : Nat) (id : UInt8) (buffer : Option (List UInt8))
    (state : FeatureState) : Bool × FeatureState :=
  match buffer with
  | none => (false, state)
  | some bytes =>
    if id ≠ controlId ∨ bytes.length < size ∨ bytes.getD 0 0 ≠ controlId ∨ bytes.getD 1 0 ≠ 2 ∨
        ((bytes.take size).drop 2).any (· != 0) then
      (false, state)
    else
      (true, { state with sensorsEnabled := true })

def encodePlaystationFeedback (controllerId : UInt32) (feedback : PlaystationOutputFeedback) :
    FeedbackEvent :=
  .make controllerId .playstationOutput feedback.bytes

end LibVirtualGamepad.Playstation
