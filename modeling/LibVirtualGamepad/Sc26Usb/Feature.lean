import LibVirtualGamepad.Sc26Usb

-- The control channel: commands a host writes and the replies it reads back.
namespace LibVirtualGamepad.Sc26Usb

namespace Command

def clearDigitalMappings : UInt8 := 0x81
def getAttributesValues : UInt8 := 0x83
def setDefaultDigitalMappings : UInt8 := 0x85
def setSettingsValues : UInt8 := 0x87
def getSettingsValues : UInt8 := 0x89
def getSettingsMaxs : UInt8 := 0x8B
def getSettingsDefaults : UInt8 := 0x8C
def loadDefaultSettings : UInt8 := 0x8E
def triggerHapticPulse : UInt8 := 0x8F
def getStringAttribute : UInt8 := 0xAE
def writeC1 : UInt8 := 0xC1
def writeDc : UInt8 := 0xDC
def writeE2 : UInt8 := 0xE2
def getKeyedValue : UInt8 := 0xED
def getDeviceInfo : UInt8 := 0xF2

end Command

namespace Attribute

def productId : UInt8 := 1
def capabilities : UInt8 := 2
def firmwareBuildTime : UInt8 := 4
def boardRevision : UInt8 := 9
def bootloaderBuildTime : UInt8 := 10
def connectionIntervalUs : UInt8 := 11

end Attribute

def stringAttrBoardSerial : UInt8 := 0x00
def stringAttrUnitSerial : UInt8 := 0x01
def stringAttrReplyLength : Nat := 20

def settingLizardMode : UInt8 := 9
def settingImuMode : UInt8 := 48
abbrev settingCount : Nat := 99

def defaultSetting (id : UInt8) : UInt16 := if id = settingLizardMode then 1 else 0

def defaultSettings : Vector UInt16 settingCount :=
  Vector.ofFn fun id => defaultSetting (UInt8.ofNat id.val)

structure Attributes where
  productId : UInt32
  capabilities : UInt32
  firmwareBuildTime : UInt32
  boardRevision : UInt32
  bootloaderBuildTime : UInt32
  connectionIntervalUs : UInt32
  deriving DecidableEq

def Attributes.initial : Attributes where
  productId := 0x1302
  capabilities := 0
  firmwareBuildTime := 0x6A4D85E3
  boardRevision := 0x4A
  bootloaderBuildTime := 0x68D2F92E
  connectionIntervalUs := 4000

-- An ASCII text in a fixed array, padded with zeros.
def text (n : Nat) (chars : List Char) : Vector UInt8 n :=
  Vector.ofFn fun i => (chars.map fun c => UInt8.ofNat c.toNat).getD i 0

structure FeatureState where
  attrs : Attributes
  unitSerial : Vector UInt8 16
  boardSerial : Vector UInt8 16
  buildId : Vector UInt8 16
  settings : Vector UInt16 settingCount
  lizardMode : Bool
  imuMode : UInt8
  reply : Vector UInt8 featureReportSize
  haveReply : Bool
  lastUnknownCommand : UInt8
  unknownCommands : UInt32

def FeatureState.initial : FeatureState where
  attrs := .initial
  unitSerial := text 16 "LVGSC260000".toList
  boardSerial := text 16 "LVGSC26BOARD0".toList
  buildId := text 16 "000000000000".toList
  settings := defaultSettings
  lizardMode := true
  imuMode := 0
  reply := Vector.replicate _ 0
  haveReply := false
  lastUnknownCommand := 0
  unknownCommands := 0

namespace AttrUpdate

def firmwareBuildTime : UInt32 := 0x01
def bootloaderBuildTime : UInt32 := 0x02
def boardRevision : UInt32 := 0x04
def capabilities : UInt32 := 0x08
def buildId : UInt32 := 0x40
def serials : UInt32 := 0x80

end AttrUpdate

-- The characters in front of the first zero byte.
def untilNul (chars : List UInt8) : List UInt8 := chars.takeWhile (· != 0)

-- At least one character, and all of them printable.
def printableAttributeString (chars : Vector UInt8 16) : Bool :=
  let chars := untilNul chars.toList
  chars.all (fun c => 0x20 ≤ c && c ≤ 0x7E) && !chars.isEmpty

-- At most fifteen characters, padded with zeros.
def storeAttributeString (chars : Vector UInt8 16) : Vector UInt8 16 :=
  Vector.ofFn fun i => ((untilNul chars.toList).take 15).getD i 0

-- The flagged fields are replaced one after the other; the second component is
-- the flags that took effect.
def applyAttributes (update : SteamControllerAttributesRequest) (fs : FeatureState) :
    FeatureState × UInt32 :=
  let has (flag : UInt32) : Bool := update.flags &&& flag != 0
  let attrs := fs.attrs
  let attrs := if has AttrUpdate.firmwareBuildTime then
    { attrs with firmwareBuildTime := update.firmwareBuildTime } else attrs
  let attrs := if has AttrUpdate.bootloaderBuildTime then
    { attrs with bootloaderBuildTime := update.bootloaderBuildTime } else attrs
  let attrs := if has AttrUpdate.boardRevision then
    { attrs with boardRevision := update.boardRevision } else attrs
  let attrs := if has AttrUpdate.capabilities then
    { attrs with capabilities := update.capabilities } else attrs
  let buildId := has AttrUpdate.buildId && printableAttributeString update.buildId
  let unitSerial := has AttrUpdate.serials && printableAttributeString update.unitSerial
  let boardSerial := has AttrUpdate.serials && printableAttributeString update.boardSerial
  ({ fs with
      attrs := attrs
      buildId := if buildId then storeAttributeString update.buildId else fs.buildId
      unitSerial := if unitSerial then storeAttributeString update.unitSerial else fs.unitSerial
      boardSerial := if boardSerial then storeAttributeString update.boardSerial else fs.boardSerial },
    (update.flags &&& (AttrUpdate.firmwareBuildTime ||| AttrUpdate.bootloaderBuildTime |||
        AttrUpdate.boardRevision ||| AttrUpdate.capabilities)) |||
      (if buildId then AttrUpdate.buildId else 0) |||
      (if unitSerial || boardSerial then AttrUpdate.serials else 0))

-- The complete (id, value) triples at the start of a payload.
def triples : List UInt8 → List (UInt8 × UInt16)
  | id :: low :: high :: rest => (id, getLe16 low high) :: triples rest
  | _ => []

def loadDefaults (fs : FeatureState) : FeatureState :=
  { fs with settings := defaultSettings, lizardMode := true, imuMode := 0 }

def storeSetting (fs : FeatureState) (setting : UInt8 × UInt16) : FeatureState :=
  { fs with
    settings := fs.settings.setIfInBounds setting.1.toNat setting.2
    lizardMode := if setting.1 = settingLizardMode then setting.2 != 0 else fs.lizardMode
    imuMode := if setting.1 = settingImuMode then setting.2.toUInt8 else fs.imuMode }

def replyCapacity : Nat := featureReportSize - 3

-- Fill the reply in: the command, the declared length and the payload.
def FeatureState.answer (fs : FeatureState) (type : UInt8) (length : Nat) (out : List UInt8) :
    FeatureState :=
  { fs with
    reply := Vector.ofFn fun i =>
      ([featuresReportId, type, UInt8.ofNat length] ++ out.take replyCapacity).getD i 0
    haveReply := true }

def settingValue (fs : FeatureState) (type id : UInt8) : UInt16 :=
  if id.toNat < settingCount ∧ type = Command.getSettingsValues then
    fs.settings.toList.getD id.toNat 0
  else if type = Command.getSettingsMaxs then
    0xFFFF
  else if id.toNat < settingCount then
    defaultSetting id
  else
    0

-- The values a settings request asks for: of the ids it lists, or of all of them
-- when it lists none, as many as fit.
def settingsReply (fs : FeatureState) (type : UInt8) (payload : List UInt8) : List UInt8 :=
  let ids := if payload.isEmpty then (List.range settingCount).map UInt8.ofNat else payload
  (ids.take (replyCapacity / 3)).flatMap fun id => id :: le16 (settingValue fs type id)

def attributesReply (fs : FeatureState) : List UInt8 :=
  let list : List (UInt8 × UInt32) :=
    [(Attribute.productId, fs.attrs.productId),
      (Attribute.capabilities, fs.attrs.capabilities),
      (Attribute.bootloaderBuildTime, fs.attrs.bootloaderBuildTime),
      (Attribute.firmwareBuildTime, fs.attrs.firmwareBuildTime),
      (Attribute.boardRevision, fs.attrs.boardRevision),
      (Attribute.connectionIntervalUs, fs.attrs.connectionIntervalUs)]
  (list.take (replyCapacity / 5)).flatMap fun entry => entry.1 :: le32 entry.2

-- The tag and the text up to its first zero byte.
def stringReply (fs : FeatureState) (payload : List UInt8) : List UInt8 :=
  let tag := payload.headD stringAttrUnitSerial
  let chars := if tag = stringAttrBoardSerial then fs.boardSerial else fs.unitSerial
  tag :: (untilNul chars.toList).take (stringAttrReplyLength - 1)

def transportKey : List UInt8 :=
  ("user/wireless_transport".toList.map fun c => UInt8.ofNat c.toNat) ++ [0]

-- `chars` in a field of sixteen bytes.
def field16 (chars : List UInt8) : List UInt8 :=
  (untilNul chars).take 16 ++ List.replicate (16 - ((untilNul chars).take 16).length) 0

-- The declared length and the payload for one of the sub ids.
def deviceInfoReply (fs : FeatureState) (payload : List UInt8) : Nat × List UInt8 :=
  let sub := payload.headD 0
  if sub = 0 then
    (41, [sub] ++ le32 fs.attrs.firmwareBuildTime ++ le32 fs.attrs.boardRevision ++
      field16 fs.buildId.toList ++ field16 fs.unitSerial.toList)
  else if sub = 1 then
    (34, [sub])
  else
    (9, [sub, 0, 0, 1])

-- What an accepted command of a type does; `fs` already holds the empty reply.
def runCommand (fs : FeatureState) (type : UInt8) (payload : List UInt8) : FeatureState :=
  if type = Command.clearDigitalMappings ∨ type = Command.setDefaultDigitalMappings then
    fs
  else if type = Command.loadDefaultSettings then
    loadDefaults fs
  else if type = Command.setSettingsValues then
    (triples payload).foldl storeSetting fs
  else if type = Command.getSettingsValues ∨ type = Command.getSettingsDefaults ∨
      type = Command.getSettingsMaxs then
    let out := settingsReply fs type payload
    fs.answer type out.length out
  else if type = Command.getAttributesValues then
    let out := attributesReply fs
    fs.answer type out.length out
  else if type = Command.getStringAttribute then
    fs.answer type stringAttrReplyLength (stringReply fs payload)
  else if type = Command.writeC1 ∨ type = Command.writeDc ∨ type = Command.writeE2 then
    fs
  else if type = Command.getKeyedValue then
    -- Only the transport key has a value; a wired unit has no bond.
    if payload = transportKey then fs.answer type 1 [0] else fs
  else if type = Command.getDeviceInfo then
    let reply := deviceInfoReply fs payload
    fs.answer type reply.1 reply.2
  else if type = Command.triggerHapticPulse then
    fs
  else
    { fs with lastUnknownCommand := type, unknownCommands := fs.unknownCommands + 1 }

-- The command and payload of a well-formed transfer. `data` is the transfer buffer,
-- none for a null pointer.
def parseFeature (data : Option (List UInt8)) : Option (UInt8 × List UInt8) :=
  match data with
  | some (id :: type :: length :: payload) =>
    if id ≠ featuresReportId ∨ payload.length < length.toNat then
      none
    else
      some (type, payload.take length.toNat)
  | _ => none

-- A malformed transfer is refused and changes nothing; every command, known or
-- not, starts from an empty reply.
def setFeature (data : Option (List UInt8)) (fs : FeatureState) : Bool × FeatureState :=
  match parseFeature data with
  | none => (false, fs)
  | some (type, payload) => (true, runCommand (fs.answer type 0 []) type payload)

-- The reply to the last command, in a buffer of `capacity` bytes; none when the
-- report does not fit.
def getFeature (capacity : Nat) (fs : FeatureState) : Option (List UInt8) :=
  if capacity < featureReportSize then
    none
  else
    let report := if fs.haveReply then fs.reply.toList
      else featuresReportId :: List.replicate (featureReportSize - 1) 0
    some (report ++ List.replicate (capacity - featureReportSize) 0)

end LibVirtualGamepad.Sc26Usb
