import LibVirtualGamepad.Driver.SettingsReplica
import LibVirtualGamepad.Sc26Usb.Reply

-- What the control channel reads back of the settings that were written to it.
namespace LibVirtualGamepad

open Sc26Usb

namespace Sc26Usb

-- The control transfers one after the other.
def FeatureState.receive (fs : FeatureState) (transfers : List (Option (List UInt8))) :
    FeatureState :=
  transfers.foldl (fun fs transfer => (setFeature transfer fs).2) fs

-- The settings written since the defaults were last loaded, oldest first.
def writtenBy (log : List (UInt8 × UInt16)) (transfer : Option (List UInt8)) :
    List (UInt8 × UInt16) :=
  match parseFeature transfer with
  | some (type, payload) =>
    if type = Command.loadDefaultSettings then []
    else if type = Command.setSettingsValues then log ++ triples payload
    else log
  | none => log

def written (transfers : List (Option (List UInt8))) : List (UInt8 × UInt16) :=
  transfers.foldl writtenBy []

-- What was last written to a setting, or its default.
def lastWritten (log : List (UInt8 × UInt16)) (id : UInt8) : UInt16 :=
  match log.reverse.find? fun setting => setting.1 == id with
  | some setting => setting.2
  | none => defaultSetting id

def readBack (log : List (UInt8 × UInt16)) (id : UInt8) : UInt16 :=
  if id.toNat < settingCount then lastWritten log id else 0

end Sc26Usb

section LastWritten

variable {log : List (UInt8 × UInt16)} {setting : UInt8 × UInt16} {id : UInt8}

theorem lastWritten_append_same (h : setting.1 = id) :
    lastWritten (log ++ [setting]) id = setting.2 := by
  simp [lastWritten, h]

theorem lastWritten_append_other (h : setting.1 ≠ id) :
    lastWritten (log ++ [setting]) id = lastWritten log id := by
  simp [lastWritten, h]

end LastWritten

-- The table and its two copies hold what was last written.
structure Reads (replica : SettingsReplica) (log : List (UInt8 × UInt16)) : Prop where
  table : ∀ id : UInt8, id.toNat < settingCount →
    replica.settings.toList.getD id.toNat 0 = lastWritten log id
  lizardMode : replica.lizardMode = (lastWritten log settingLizardMode != 0)
  imuMode : replica.imuMode = (lastWritten log settingImuMode).toUInt8

namespace Reads

variable {replica : SettingsReplica} {log : List (UInt8 × UInt16)}

theorem defaults : Reads .defaults [] where
  table := fun id hid => by
    have hget : SettingsReplica.defaults.settings.toList.getD id.toNat 0 =
        defaultSetting (UInt8.ofNat id.toNat) := by
      simp [SettingsReplica.defaults, defaultSettings, List.getD_eq_getElem?_getD, hid]
    rw [hget, UInt8.ofNat_toNat]
    rfl
  lizardMode := rfl
  imuMode := rfl

theorem store (h : Reads replica log) (setting : UInt8 × UInt16) :
    Reads (replica.store setting) (log ++ [setting]) where
  table := fun id hid => by
    by_cases hsame : setting.1 = id
    · rw [lastWritten_append_same hsame]
      simp [SettingsReplica.store, hsame, List.getD_eq_getElem?_getD, hid]
    · have hne : setting.1.toNat ≠ id.toNat := fun heq => hsame (UInt8.toNat_inj.mp heq)
      have htable := h.table id hid
      rw [lastWritten_append_other hsame, ← htable]
      simp [SettingsReplica.store, List.getD_eq_getElem?_getD, hid, hne]
  lizardMode := by
    by_cases hsame : setting.1 = settingLizardMode
    · rw [lastWritten_append_same hsame]
      simp [SettingsReplica.store, hsame]
    · rw [lastWritten_append_other hsame, ← h.lizardMode]
      simp [SettingsReplica.store, hsame]
  imuMode := by
    by_cases hsame : setting.1 = settingImuMode
    · rw [lastWritten_append_same hsame]
      simp [SettingsReplica.store, hsame]
    · rw [lastWritten_append_other hsame, ← h.imuMode]
      simp [SettingsReplica.store, hsame]

theorem foldl_store (h : Reads replica log) (settings : List (UInt8 × UInt16)) :
    Reads (settings.foldl .store replica) (log ++ settings) := by
  induction settings generalizing replica log with
  | nil =>
      rw [List.append_nil]
      exact h
  | cons setting rest ih =>
      have hrest := ih (h.store setting)
      rw [List.append_assoc] at hrest
      exact hrest

end Reads

theorem Reads.setFeature {fs : FeatureState} {log : List (UInt8 × UInt16)}
    (h : Reads (.ofFeatures fs) log) (transfer : Option (List UInt8)) :
    Reads (.ofFeatures (Sc26Usb.setFeature transfer fs).2) (writtenBy log transfer) := by
  unfold Sc26Usb.setFeature writtenBy
  cases parseFeature transfer with
  | none => exact h
  | some command =>
      obtain ⟨type, payload⟩ := command
      simp only [SettingsReplica.ofFeatures_runCommand, SettingsReplica.ofFeatures_answer,
        SettingsReplica.command]
      split
      · exact .defaults
      · split
        · exact h.foldl_store _
        · exact h

-- The table holds what was last written, after any transfers.
theorem reads_receive (transfers : List (Option (List UInt8))) :
    Reads (.ofFeatures (FeatureState.initial.receive transfers)) (written transfers) := by
  have hfrom : ∀ (fs : FeatureState) (log : List (UInt8 × UInt16)), Reads (.ofFeatures fs) log →
      Reads (.ofFeatures (fs.receive transfers)) (transfers.foldl writtenBy log) := by
    induction transfers with
    | nil => exact fun _ _ h => h
    | cons transfer rest ih => exact fun fs log h => ih _ _ (h.setFeature transfer)
  exact hfrom .initial [] .defaults

section Reply

variable {fs : FeatureState} {log : List (UInt8 × UInt16)}

theorem settingValue_readBack (h : Reads (.ofFeatures fs) log) (id : UInt8) :
    settingValue fs Command.getSettingsValues id = readBack log id := by
  unfold settingValue readBack
  have hmaxs : Command.getSettingsValues ≠ Command.getSettingsMaxs := by decide
  by_cases hid : id.toNat < settingCount
  · rw [if_pos ⟨hid, rfl⟩, if_pos hid]
    exact h.table id hid
  · rw [if_neg (fun hand => hid hand.1), if_neg hmaxs, if_neg hid, if_neg hid]

-- The ids that a read of settings asks for.
def idsAsked (payload : List UInt8) : List UInt8 :=
  if payload.isEmpty then (List.range 20).map UInt8.ofNat else payload

theorem settingsReply_readBack (h : Reads (.ofFeatures fs) log) {payload : List UInt8}
    (hlen : payload.length ≤ 20) :
    settingsReply fs Command.getSettingsValues payload =
      (idsAsked payload).flatMap fun id => id :: le16 (readBack log id) := by
  have hids : (if payload.isEmpty then (List.range settingCount).map UInt8.ofNat
      else payload).take (replyCapacity / 3) = idsAsked payload := by
    unfold idsAsked
    split
    · rfl
    · exact List.take_of_length_le hlen
  unfold settingsReply
  simp only [hids, settingValue_readBack h]

theorem idsAsked_length {payload : List UInt8} (hlen : payload.length ≤ 20) :
    (idsAsked payload).length ≤ 20 := by
  unfold idsAsked
  split
  · simp
  · exact hlen

theorem triples_length (ids : List UInt8) (value : UInt8 → UInt16) :
    (ids.flatMap fun id => id :: le16 (value id)).length = 3 * ids.length := by
  induction ids with
  | nil => rfl
  | cons id rest ih =>
      rw [List.flatMap_cons, List.length_append, ih, List.length_cons]
      simp only [le16, List.length_cons, List.length_nil]
      omega

theorem runCommand_getSettings (payload : List UInt8) :
    runCommand fs Command.getSettingsValues payload =
      fs.answer Command.getSettingsValues
        (settingsReply fs Command.getSettingsValues payload).length
        (settingsReply fs Command.getSettingsValues payload) := by
  unfold runCommand
  rw [if_neg (by decide), if_neg (by decide), if_neg (by decide), if_pos (.inl rfl)]

theorem runCommand_setSettings (payload : List UInt8) :
    runCommand fs Command.setSettingsValues payload = (triples payload).foldl storeSetting fs := by
  unfold runCommand
  rw [if_neg (by decide), if_neg (by decide), if_pos rfl]

-- A setting that the table has no room for is not stored.
theorem settings_of_outside (settings : List (UInt8 × UInt16))
    (h : ∀ setting ∈ settings, settingCount ≤ setting.1.toNat) :
    (settings.foldl storeSetting fs).settings = fs.settings := by
  induction settings generalizing fs with
  | nil => rfl
  | cons setting rest ih =>
      have hout := h setting (by simp)
      rw [List.foldl_cons, ih fun s hs => h s (by simp [hs])]
      simp only [storeSetting]
      exact Vector.setIfInBounds_eq_of_size_le hout

end Reply

-- A read of settings answers each id that it names, and of the first twenty where it
-- names none, with what was last written to it; writes outside the table are lost, and
-- the two flags follow their settings.
structure ReadsBack (fs : FeatureState) (log : List (UInt8 × UInt16)) : Prop where
  reply : ∀ transfer payload, parseFeature transfer = some (Command.getSettingsValues, payload) →
    payload.length ≤ 20 →
      getFeature featureReportSize (setFeature transfer fs).2 =
        some ([featuresReportId, Command.getSettingsValues,
            UInt8.ofNat (3 * (idsAsked payload).length)] ++
          ((idsAsked payload).flatMap fun id => id :: le16 (readBack log id)) ++
          List.replicate (61 - 3 * (idsAsked payload).length) 0)
  outside : ∀ transfer payload,
    parseFeature transfer = some (Command.setSettingsValues, payload) →
      (∀ setting ∈ triples payload, settingCount ≤ setting.1.toNat) →
        (setFeature transfer fs).2.settings = fs.settings
  table : ∀ id : UInt8, id.toNat < settingCount →
    fs.settings.toList.getD id.toNat 0 = lastWritten log id
  lizardMode : fs.lizardMode = true ↔ fs.settings.toList.getD settingLizardMode.toNat 0 ≠ 0
  imuMode : fs.imuMode = (fs.settings.toList.getD settingImuMode.toNat 0).toUInt8

theorem control_read_back (transfers : List (Option (List UInt8))) :
    ReadsBack (FeatureState.initial.receive transfers) (written transfers) := by
  generalize hfs : FeatureState.initial.receive transfers = fs
  generalize hlog : written transfers = log
  have hreads : Reads (.ofFeatures fs) log := by
    rw [← hfs, ← hlog]
    exact reads_receive transfers
  have hlizard : fs.lizardMode = (lastWritten log settingLizardMode != 0) := hreads.lizardMode
  have himu : fs.imuMode = (lastWritten log settingImuMode).toUInt8 := hreads.imuMode
  refine ⟨fun transfer payload hparse hlen => ?_, fun transfer payload hparse hout => ?_,
    hreads.table, ?_, ?_⟩
  · have hanswered : Reads (.ofFeatures (fs.answer Command.getSettingsValues 0 [])) log := by
      rw [SettingsReplica.ofFeatures_answer]
      exact hreads
    have hids := idsAsked_length hlen
    have hreply : setFeature transfer fs =
        (true, runCommand (fs.answer Command.getSettingsValues 0 []) Command.getSettingsValues
          payload) := by
      simp only [setFeature, hparse]
    rw [hreply]
    simp only [runCommand_getSettings, settingsReply_readBack hanswered hlen]
    rw [getFeature_answer, triples_length]
    · rfl
    · rw [triples_length]
      show 3 * (idsAsked payload).length ≤ 61
      omega
  · have hstored : setFeature transfer fs =
        (true, runCommand (fs.answer Command.setSettingsValues 0 []) Command.setSettingsValues
          payload) := by
      simp only [setFeature, hparse]
    rw [hstored]
    simp only [runCommand_setSettings]
    exact settings_of_outside _ hout
  · have htable : fs.settings.toList.getD settingLizardMode.toNat 0 =
        lastWritten log settingLizardMode := hreads.table settingLizardMode (by decide)
    rw [hlizard, htable]
    simp
  · have htable : fs.settings.toList.getD settingImuMode.toNat 0 =
        lastWritten log settingImuMode := hreads.table settingImuMode (by decide)
    rw [himu, htable]

end LibVirtualGamepad
