import LibVirtualGamepad.Driver.Feedback
import LibVirtualGamepad.SteamHapticQueue.Refinement

namespace LibVirtualGamepad

open Sc26Usb SteamController

-- What a client rebuilds from the settings events it polls.
structure SettingsReplica where
  settings : Vector UInt16 settingCount
  lizardMode : Bool
  imuMode : UInt8

namespace SettingsReplica

def defaults : SettingsReplica := ⟨defaultSettings, true, 0⟩

def store (replica : SettingsReplica) (setting : UInt8 × UInt16) : SettingsReplica where
  settings := replica.settings.setIfInBounds setting.1.toNat setting.2
  lizardMode := if setting.1 = settingLizardMode then setting.2 != 0 else replica.lizardMode
  imuMode := if setting.1 = settingImuMode then setting.2.toUInt8 else replica.imuMode

-- The settings a settings event carries.
def eventTriples (event : FeedbackEvent) : List (UInt8 × UInt16) :=
  let chunk := SteamSettingsFeedback.ofPayload event.payload
  triples (chunk.triples.toList.take (3 * chunk.count.toNat))

-- A reload event reloads the defaults, a settings event applies its triples.
def apply (replica : SettingsReplica) (event : FeedbackEvent) : SettingsReplica :=
  if event.type ≠ .steamSettings then
    replica
  else
    let chunk := SteamSettingsFeedback.ofPayload event.payload
    if chunk.command = Command.loadDefaultSettings then
      defaults
    else if chunk.command = Command.setSettingsValues then
      (eventTriples event).foldl store replica
    else
      replica

def ofFeatures (fs : FeatureState) : SettingsReplica := ⟨fs.settings, fs.lizardMode, fs.imuMode⟩

theorem ofFeatures_answer (fs : FeatureState) (type : UInt8) (length : Nat) (out : List UInt8) :
    ofFeatures (fs.answer type length out) = ofFeatures fs := by
  simp only [ofFeatures, FeatureState.answer]

theorem ofFeatures_storeSetting (fs : FeatureState) (setting : UInt8 × UInt16) :
    ofFeatures (storeSetting fs setting) = (ofFeatures fs).store setting := by
  simp only [ofFeatures, storeSetting, store]

theorem ofFeatures_foldl_storeSetting (settings : List (UInt8 × UInt16)) (fs : FeatureState) :
    ofFeatures (settings.foldl storeSetting fs) = settings.foldl store (ofFeatures fs) := by
  induction settings generalizing fs with
  | nil => rfl
  | cons setting rest ih =>
      rw [List.foldl_cons, List.foldl_cons, ih, ofFeatures_storeSetting]

-- Of all commands only two touch the settings.
def command (replica : SettingsReplica) (type : UInt8) (payload : List UInt8) : SettingsReplica :=
  if type = Command.loadDefaultSettings then
    defaults
  else if type = Command.setSettingsValues then
    (triples payload).foldl store replica
  else
    replica

theorem ofFeatures_runCommand (fs : FeatureState) (type : UInt8) (payload : List UInt8) :
    ofFeatures (runCommand fs type payload) = (ofFeatures fs).command type payload := by
  unfold runCommand command
  by_cases hclear : type = Command.clearDigitalMappings ∨ type = Command.setDefaultDigitalMappings
  · have hload : type ≠ Command.loadDefaultSettings := by
      rcases hclear with rfl | rfl <;> decide
    have hset : type ≠ Command.setSettingsValues := by
      rcases hclear with rfl | rfl <;> decide
    rw [if_pos hclear, if_neg hload, if_neg hset]
  rw [if_neg hclear]
  split
  · rfl
  split
  · exact ofFeatures_foldl_storeSetting _ fs
  split
  · exact ofFeatures_answer fs _ _ _
  split
  · exact ofFeatures_answer fs _ _ _
  split
  · exact ofFeatures_answer fs _ _ _
  split
  · rfl
  split
  · split
    · exact ofFeatures_answer fs _ _ _
    · rfl
  split
  · exact ofFeatures_answer fs _ _ _
  split
  · rfl
  · simp only [ofFeatures]

end SettingsReplica

-- Whole triples at the front of a payload can be cut off it.
theorem triples_append (front back : List UInt8) (count : Nat) (h : front.length = 3 * count) :
    triples (front ++ back) = triples front ++ triples back := by
  induction count generalizing front with
  | zero =>
      have hnil : front = [] := List.length_eq_zero_iff.mp (by omega)
      simp [hnil, triples]
  | succ count ih =>
      match front with
      | id :: low :: high :: rest =>
        have hrest : rest.length = 3 * count := by
          simp only [List.length_cons] at h
          omega
        simp only [List.cons_append, triples, ih rest hrest]
      | [] | [_] | [_, _] =>
        simp only [List.length_cons, List.length_nil] at h
        omega

-- A trailing partial triple holds no setting.
theorem triples_short (payload : List UInt8) (h : payload.length < 3) : triples payload = [] := by
  match payload with
  | [] | [_] | [_, _] => rfl
  | _ :: _ :: _ :: _ =>
    simp only [List.length_cons] at h
    omega

theorem triples_take (payload : List UInt8) :
    triples payload = triples (payload.take (payload.length / 3 * 3)) := by
  have hlen : (payload.take (payload.length / 3 * 3)).length = 3 * (payload.length / 3) := by
    rw [List.length_take]
    omega
  have hsplit := triples_append _ (payload.drop (payload.length / 3 * 3)) _ hlen
  rw [List.take_append_drop] at hsplit
  rw [hsplit, triples_short (payload.drop _) (by rw [List.length_drop]; omega), List.append_nil]

-- Bytes kept in a longer zero-padded array read back as they are.
theorem take_padded (n : Nat) (bytes : List UInt8) (h : bytes.length ≤ n) :
    (Vector.ofFn fun i : Fin n => bytes.getD i 0).toList.take bytes.length = bytes := by
  apply List.ext_getElem?
  intro i
  by_cases hi : i < bytes.length
  · rw [List.getElem?_take_of_lt hi, Vector.getElem?_toList, Vector.getElem?_eq_getElem (by omega),
      Vector.getElem_ofFn, List.getD_eq_getElem?_getD, List.getElem?_eq_getElem hi,
      Option.getD_some]
  · rw [List.getElem?_eq_none (by rw [List.length_take]; omega),
      List.getElem?_eq_none (by omega)]

-- A settings chunk survives the trip through an event's payload.
theorem ofPayload_make (controllerId : UInt32) (chunk : SteamSettingsFeedback) :
    SteamSettingsFeedback.ofPayload
      (FeedbackEvent.make controllerId .steamSettings chunk.bytes).payload = chunk := by
  have htriples : SteamSettingsFeedback.ofPayload
      (FeedbackEvent.make controllerId .steamSettings chunk.bytes).payload =
      ⟨chunk.command, chunk.count, Vector.ofFn fun i => chunk.triples.toList.getD i 0⟩ := by
    simp [SteamSettingsFeedback.ofPayload, FeedbackEvent.make, SteamSettingsFeedback.bytes,
      Nat.add_comm 5]
  have hcells : (Vector.ofFn fun i : Fin (steamSettingsTriplesMax * 3) =>
      chunk.triples.toList.getD i 0) = chunk.triples := by
    apply Vector.ext
    intro i hi
    have hlen : i < chunk.triples.toList.length := by simpa using hi
    simp only [Vector.getElem_ofFn, List.getD_eq_getElem?_getD, List.getElem?_eq_getElem hlen,
      Option.getD_some, Vector.getElem_toList]
  rw [htriples, hcells]

theorem apply_settings_event (controllerId : UInt32) (chunk : SteamSettingsFeedback)
    (replica : SettingsReplica) (h : chunk.command = Command.setSettingsValues) :
    replica.apply (.make controllerId .steamSettings chunk.bytes) =
      (SettingsReplica.eventTriples (.make controllerId .steamSettings chunk.bytes)).foldl .store
        replica := by
  unfold SettingsReplica.apply
  rw [ofPayload_make]
  have hload : Command.setSettingsValues ≠ Command.loadDefaultSettings := by decide
  simp only [FeedbackEvent.make, ne_eq, not_true_eq_false, if_false, h, hload, if_true]

theorem eventTriples_chunk (controllerId : UInt32) (payload : List UInt8) (triples first : Nat)
    (hlen : triples * 3 ≤ payload.length) :
    SettingsReplica.eventTriples (.make controllerId .steamSettings
        (settingsChunk Command.setSettingsValues payload triples first).bytes) =
      Sc26Usb.triples ((payload.drop (first * 3)).take
        (min (triples - first) steamSettingsTriplesMax * 3)) := by
  have hcount : (if triples - first < steamSettingsTriplesMax then triples - first
      else steamSettingsTriplesMax) = min (triples - first) steamSettingsTriplesMax := by
    split <;> omega
  have hmax : min (triples - first) steamSettingsTriplesMax ≤ 9 := Nat.min_le_right _ _
  have hbyte : (UInt8.ofNat (min (triples - first) steamSettingsTriplesMax)).toNat =
      min (triples - first) steamSettingsTriplesMax :=
    UInt8.toNat_ofNat_of_lt (by
      have hsize : UInt8.size = 256 := rfl
      omega)
  have hbytes : ((payload.drop (first * 3)).take
      (min (triples - first) steamSettingsTriplesMax * 3)).length =
      3 * min (triples - first) steamSettingsTriplesMax := by
    rw [List.length_take, List.length_drop]
    omega
  have hpadded := take_padded (steamSettingsTriplesMax * 3)
    ((payload.drop (first * 3)).take (min (triples - first) steamSettingsTriplesMax * 3))
    (by rw [hbytes]; omega)
  rw [hbytes] at hpadded
  unfold SettingsReplica.eventTriples
  rw [ofPayload_make]
  simp only [settingsChunk, hcount, hbyte, hpadded]

-- The first `n` chunks carry the first `9 n` triples, as many as there are.
theorem eventTriples_chunks (controllerId : UInt32) (payload : List UInt8) (triples n : Nat)
    (hn : n ≤ (triples + steamSettingsTriplesMax - 1) / steamSettingsTriplesMax)
    (hlen : triples * 3 ≤ payload.length) :
    ((List.range n).map fun i => FeedbackEvent.make controllerId .steamSettings
        (settingsChunk Command.setSettingsValues payload triples
          (i * steamSettingsTriplesMax)).bytes).flatMap SettingsReplica.eventTriples =
      Sc26Usb.triples (payload.take (min (n * steamSettingsTriplesMax) triples * 3)) := by
  induction n with
  | zero => simp [Sc26Usb.triples]
  | succ n ih =>
      have hmax : steamSettingsTriplesMax = 9 := rfl
      have hfirst : n * steamSettingsTriplesMax < triples := by
        rw [hmax] at hn ⊢
        omega
      have hlow : min (n * steamSettingsTriplesMax) triples = n * steamSettingsTriplesMax :=
        Nat.min_eq_left (Nat.le_of_lt hfirst)
      have hhigh : min ((n + 1) * steamSettingsTriplesMax) triples * 3 =
          n * steamSettingsTriplesMax * 3 +
            min (triples - n * steamSettingsTriplesMax) steamSettingsTriplesMax * 3 := by
        rw [hmax] at hfirst ⊢
        omega
      have hfront : (payload.take (n * steamSettingsTriplesMax * 3)).length =
          3 * (n * steamSettingsTriplesMax) := by
        rw [List.length_take]
        omega
      rw [List.range_succ, List.map_append, List.flatMap_append, ih (by omega), List.map_singleton,
        List.flatMap_singleton, eventTriples_chunk _ _ _ _ hlen, hlow, hhigh, List.take_add,
        triples_append _ _ _ hfront]

-- The events for a settings write of at most 64 bytes: its whole triples in chunks.
theorem applySc26Settings_set (controllerId : UInt32) (data : List UInt8) (payload : List UInt8)
    (hsize : data.length ≤ featureReportSize)
    (h : parseFeature (some data) = some (Command.setSettingsValues, payload)) :
    ∃ chunks : List SteamSettingsFeedback,
      applySc26Settings (some data) controllerId settingsEventsPerWrite =
        chunks.map (fun chunk => .make controllerId .steamSettings chunk.bytes) ∧
      (∀ chunk ∈ chunks, chunk.command = Command.setSettingsValues) ∧
      (applySc26Settings (some data) controllerId settingsEventsPerWrite).flatMap
        SettingsReplica.eventTriples = triples payload := by
  match data with
  | [] | [_] | [_, _] => simp [parseFeature] at h
  | id :: command :: length :: rest =>
    have hsize : rest.length ≤ 61 := by
      have hreport : featureReportSize = 64 := rfl
      simp only [List.length_cons] at hsize
      omega
    simp only [parseFeature, Option.ite_none_left_eq_some, not_or, not_not, Nat.not_lt,
      Option.some.injEq, Prod.mk.injEq] at h
    obtain ⟨⟨hid, hlength⟩, rfl, rfl⟩ := h
    have hmax : steamSettingsTriplesMax = 9 := rfl
    have hper : settingsEventsPerWrite = 3 := rfl
    have hother : Command.setSettingsValues ≠ Command.loadDefaultSettings := by decide
    have htrim := triples_take (rest.take length.toNat)
    have htake : (rest.take length.toNat).length = length.toNat := by
      rw [List.length_take]
      omega
    rw [htake, List.take_take, Nat.min_eq_left (by omega)] at htrim
    by_cases hnone : length.toNat / 3 = 0
    · have hnil : applySc26Settings
          (some (id :: Command.setSettingsValues :: length :: rest)) controllerId
          settingsEventsPerWrite = [] := by
        simp only [applySc26Settings, hnone, if_true, and_self, ite_self]
      refine ⟨[], hnil, by simp, ?_⟩
      rw [hnil, htrim, hnone]
      rfl
    · have hfew : ¬settingsEventsPerWrite <
          (length.toNat / 3 + steamSettingsTriplesMax - 1) / steamSettingsTriplesMax := by
        rw [hmax, hper]
        omega
      have hevents : applySc26Settings
          (some (id :: Command.setSettingsValues :: length :: rest)) controllerId
          settingsEventsPerWrite =
          (List.range ((length.toNat / 3 + steamSettingsTriplesMax - 1) /
            steamSettingsTriplesMax)).map fun i => .make controllerId .steamSettings
              (settingsChunk Command.setSettingsValues rest (length.toNat / 3)
                (i * steamSettingsTriplesMax)).bytes := by
        simp only [applySc26Settings, hid, ne_eq, not_true_eq_false, if_false, gt_iff_lt,
          Nat.not_lt.mpr hlength, hother, hnone, hfew, if_true, and_false, false_and]
      refine ⟨(List.range ((length.toNat / 3 + steamSettingsTriplesMax - 1) /
        steamSettingsTriplesMax)).map fun i => settingsChunk Command.setSettingsValues rest
          (length.toNat / 3) (i * steamSettingsTriplesMax), ?_, ?_, ?_⟩
      · rw [hevents, List.map_map]
        rfl
      · intro chunk hm
        obtain ⟨i, _, rfl⟩ := List.mem_map.mp hm
        rfl
      · rw [hevents, eventTriples_chunks _ _ _ _ (Nat.le_refl _) (by omega), htrim,
          Nat.min_eq_right (by rw [hmax]; omega)]

theorem applySc26Settings_load (controllerId : UInt32) (data : Option (List UInt8))
    (payload : List UInt8)
    (h : parseFeature data = some (Command.loadDefaultSettings, payload)) :
    ∃ chunk : SteamSettingsFeedback, chunk.command = Command.loadDefaultSettings ∧
      applySc26Settings data controllerId settingsEventsPerWrite =
        [.make controllerId .steamSettings chunk.bytes] := by
  match data with
  | none | some [] | some [_] | some [_, _] => simp [parseFeature] at h
  | some (id :: command :: length :: rest) =>
    simp only [parseFeature, Option.ite_none_left_eq_some, not_or, not_not, Nat.not_lt,
      Option.some.injEq, Prod.mk.injEq] at h
    obtain ⟨⟨hid, hlength⟩, rfl, rfl⟩ := h
    have hset : Command.loadDefaultSettings ≠ Command.setSettingsValues := by decide
    have hone : ¬settingsEventsPerWrite < 1 := by decide
    refine ⟨settingsChunk Command.loadDefaultSettings rest 0 (0 * steamSettingsTriplesMax), rfl, ?_⟩
    simp only [applySc26Settings, hid, ne_eq, not_true_eq_false, if_false, gt_iff_lt,
      Nat.not_lt.mpr hlength, hset, false_and, and_false, if_true, hone, List.range_one,
      List.map_cons, List.map_nil]

theorem applySc26Settings_other (controllerId : UInt32) (data : Option (List UInt8))
    (type : UInt8) (payload : List UInt8) (h : parseFeature data = some (type, payload))
    (hset : type ≠ Command.setSettingsValues) (hload : type ≠ Command.loadDefaultSettings) :
    applySc26Settings data controllerId settingsEventsPerWrite = [] := by
  match data with
  | none | some [] | some [_] | some [_, _] => simp [parseFeature] at h
  | some (id :: command :: length :: rest) =>
    simp only [parseFeature, Option.ite_none_left_eq_some, not_or, not_not, Nat.not_lt,
      Option.some.injEq, Prod.mk.injEq] at h
    obtain ⟨_, rfl, _⟩ := h
    simp only [applySc26Settings, hset, hload, ne_eq, not_false_eq_true, and_self, if_true,
      if_false, false_and, ite_self]

-- The events of a well-formed transfer do to a replica what its command does.
theorem apply_events (controllerId : UInt32) (data : List UInt8) (type : UInt8)
    (payload : List UInt8) (replica : SettingsReplica) (hsize : data.length ≤ featureReportSize)
    (h : parseFeature (some data) = some (type, payload)) :
    (applySc26Settings (some data) controllerId settingsEventsPerWrite).foldl .apply replica =
      replica.command type payload := by
  unfold SettingsReplica.command
  by_cases hload : type = Command.loadDefaultSettings
  · subst hload
    obtain ⟨chunk, hcommand, hevents⟩ := applySc26Settings_load controllerId _ payload h
    rw [if_pos rfl, hevents, List.foldl_cons, List.foldl_nil, SettingsReplica.apply, ofPayload_make]
    simp only [FeedbackEvent.make, ne_eq, not_true_eq_false, if_false, hcommand, if_true]
  · rw [if_neg hload]
    by_cases hset : type = Command.setSettingsValues
    · subst hset
      obtain ⟨chunks, hevents, hcommand, htriples⟩ :=
        applySc26Settings_set controllerId data payload hsize h
      rw [if_pos rfl, ← htriples, hevents]
      clear hevents htriples
      induction chunks generalizing replica with
      | nil => rfl
      | cons chunk rest ih =>
          have hfirst := apply_settings_event controllerId chunk replica
            (hcommand chunk List.mem_cons_self)
          rw [List.map_cons, List.foldl_cons, List.flatMap_cons, List.foldl_append, ← hfirst]
          exact ih _ fun other hm => hcommand other (List.mem_cons_of_mem _ hm)
    · rw [if_neg hset, applySc26Settings_other controllerId _ type payload h hset hload]
      rfl

theorem applySc26Settings_length (controllerId : UInt32) (data : Option (List UInt8)) :
    (applySc26Settings data controllerId settingsEventsPerWrite).length ≤
      settingsEventsPerWrite := by
  match data with
  | none | some [] | some [_] | some [_, _] => exact Nat.zero_le _
  | some (id :: command :: length :: rest) =>
    simp only [applySc26Settings]
    generalize (if command = Command.setSettingsValues then length.toNat / 3 else 0) = triples
    generalize (if command = Command.loadDefaultSettings then 1
      else (triples + steamSettingsTriplesMax - 1) / steamSettingsTriplesMax) = needed
    split
    · exact Nat.zero_le _
    split
    · exact Nat.zero_le _
    split
    · exact Nat.zero_le _
    split
    · exact Nat.zero_le _
    split
    · exact Nat.zero_le _
    · rename_i hfew
      rw [List.length_map, List.length_range]
      exact Nat.not_lt.mp hfew

theorem applySc26Output_type (data : Option (List UInt8)) (controllerId : UInt32)
    (event : FeedbackEvent) (h : applySc26Output data controllerId = some event) :
    event.type = .steamHaptic := by
  cases data with
  | none => simp [applySc26Output] at h
  | some bytes =>
      simp only [applySc26Output, Option.ite_none_left_eq_some, Option.some.injEq] at h
      rw [← h.2.2]
      rfl

end LibVirtualGamepad
