import Mathlib.Data.List.Induction
import LibVirtualGamepad.Linux.Ds5Interfaces

-- The recorded settings against the endpoints they stand for, over every run of requests and
-- resets in which the endpoint calls succeed and fail as they like.
namespace LibVirtualGamepad.Ds5Interfaces

inductive Step where
  | setup (ctrl : CtrlRequest) (calls : Calls) (other : Slot → CtrlRequest → Int × List UInt8)
  | reset
  | disconnect

namespace Step

def run (op : Step) (slot : Slot) : Slot :=
  match op with
  | .setup ctrl calls other => (ds5Setup calls other ctrl slot).slot
  | .reset => ds5Disconnect slot
  | .disconnect => ds5Disconnect slot

end Step

def runSteps (slot : Slot) (ops : List Step) : Slot :=
  ops.foldl (fun slot op => op.run slot) slot

-- The slot as the module loads it.
def zeroed : Slot where
  epIntIn := { enabled := false, queued := [] }
  epIntOut := { enabled := false, queued := [] }
  epIsoOut := { enabled := false, queued := [] }
  epIsoIn := { enabled := false, queued := [] }
  config := 0
  alt1 := 0
  alt2 := 0
  hidEnabled := false
  isoOutEnabled := false
  isoInEnabled := false
  intInBusy := false

structure Consistent (slot : Slot) : Prop where
  intIn : slot.epIntIn.enabled = true ↔ slot.config ≠ 0
  intOut : slot.epIntOut.enabled = true ↔ slot.config ≠ 0
  isoOut : slot.epIsoOut.enabled = true ↔ slot.alt1 ≠ 0
  isoIn : slot.epIsoIn.enabled = true ↔ slot.alt2 ≠ 0
  isoOutConfigured : slot.epIsoOut.enabled = true → slot.config ≠ 0
  isoInConfigured : slot.epIsoIn.enabled = true → slot.config ≠ 0

namespace Calls

def BringsUpHid (calls : Calls) : Prop :=
  calls.enableIntIn = 0 ∧ calls.enableIntOut = 0 ∧ calls.queueIntOut = 0

def BringsUpIsoOut (calls : Calls) : Prop :=
  calls.enableIsoOut = 0 ∧ ∀ req < isoOutQ, calls.queueIsoOut req = 0

def BringsUpIsoIn (calls : Calls) : Prop :=
  calls.enableIsoIn = 0 ∧ ∀ req < isoInQ, calls.queueIsoIn req = 0

end Calls

namespace CtrlRequest

def Configures (ctrl : CtrlRequest) : Prop :=
  ctrl.bRequest = 0x09 ∧ ctrl.bRequestType = 0 ∧ ctrl.wValue.toUInt8 ≠ 0

-- Another alternate setting than the first is asked of an interface.
def Selects (ctrl : CtrlRequest) (intf : UInt8) : Prop :=
  ctrl.bRequest = 0x0B ∧ ctrl.bRequestType = 1 ∧ ctrl.wIndex.toUInt8 = intf ∧
    ctrl.wValue.toUInt8 ≠ 0

end CtrlRequest

-- An endpoint the request asks for is down, and a call that would bring it up fails.
inductive CannotBringUp (slot : Slot) (ctrl : CtrlRequest) (calls : Calls) : Prop where
  | hid (hasks : ctrl.Configures) (hdown : ¬(slot.epIntIn.enabled ∧ slot.epIntOut.enabled))
      (hfails : ¬calls.BringsUpHid)
  | isoOut (hasks : ctrl.Selects 1) (hdown : slot.epIsoOut.enabled = false)
      (hfails : ¬calls.BringsUpIsoOut)
  | isoIn (hasks : ctrl.Selects 2) (hdown : slot.epIsoIn.enabled = false)
      (hfails : ¬calls.BringsUpIsoIn)

def Reports (slot : Slot) : Step → Prop
  | .setup ctrl calls other =>
    CannotBringUp slot ctrl calls → (ds5Setup calls other ctrl slot).ret ≠ 0
  | .reset => True
  | .disconnect => True

-- An alternate setting is selected on a configured device, and its endpoint is up already or
-- comes up. A request that is refused shows only where endpoint 0 refuses the status stage.
def Met (slot : Slot) : Step → Prop
  | .setup ctrl calls _ =>
    (ctrl.Selects 1 → slot.config ≠ 0 ∧ (slot.epIsoOut.enabled = true ∨
      calls.enableIsoOut = 0 ∧ (calls.BringsUpIsoOut ∨ calls.queueEp0 ≠ 0))) ∧
    (ctrl.Selects 2 → slot.config ≠ 0 ∧ (slot.epIsoIn.enabled = true ∨
      calls.enableIsoIn = 0 ∧ (calls.BringsUpIsoIn ∨ calls.queueEp0 ≠ 0)))
  | .reset => True
  | .disconnect => True

-- The driver's flags say which endpoints are up.
def Flagged (slot : Slot) : Prop :=
  slot.epIntIn.enabled = slot.hidEnabled ∧ slot.epIntOut.enabled = slot.hidEnabled ∧
    slot.epIsoOut.enabled = slot.isoOutEnabled ∧ slot.epIsoIn.enabled = slot.isoInEnabled

theorem zeroed_flagged : Flagged zeroed := ⟨rfl, rfl, rfl, rfl⟩

theorem zeroed_consistent : Consistent zeroed := by
  constructor <;> simp [zeroed]

instance (calls : Calls) : Decidable calls.BringsUpHid :=
  inferInstanceAs (Decidable (_ ∧ _ ∧ _))

-- What of a slot the host can tell: the recorded settings, and what is up.
structure Settings where
  config : UInt8
  alt1 : UInt8
  alt2 : UInt8
  hid : Bool
  isoOut : Bool
  isoIn : Bool
  deriving DecidableEq

def Slot.settings (slot : Slot) : Settings where
  config := slot.config
  alt1 := slot.alt1
  alt2 := slot.alt2
  hid := slot.hidEnabled
  isoOut := slot.isoOutEnabled
  isoIn := slot.isoInEnabled

namespace Slot

-- Bringing the HID endpoints up fails as a whole: the endpoints that came up go down again.
theorem enableHid_spec (calls : Calls) (slot : Slot) (hf : Flagged slot) :
    Flagged (slot.enableHid calls).1 ∧
    (slot.enableHid calls).1.settings =
      { slot.settings with hid := slot.hidEnabled || decide calls.BringsUpHid } ∧
    ((slot.enableHid calls).2 = 0 ↔ (slot.hidEnabled = true ∨ calls.BringsUpHid)) := by
  obtain ⟨hin, hout, hisoOut, hisoIn⟩ := hf
  unfold enableHid
  cases hup : slot.hidEnabled with
  | true => simp [hup, hin, hout, hisoOut, hisoIn, Flagged, settings]
  | false =>
      rw [hup] at hin hout
      by_cases h1 : calls.enableIntIn = 0
      · by_cases h2 : calls.enableIntOut = 0
        · by_cases h3 : calls.queueIntOut = 0
          · simp [h1, h2, h3, Flagged, settings, Calls.BringsUpHid, hisoOut, hisoIn]
          · simp [h1, h2, h3, Flagged, settings, Calls.BringsUpHid, hisoOut, hisoIn, hup]
        · simp [h1, h2, Endpoint.enable_failed, Flagged, settings, Calls.BringsUpHid, hisoOut,
            hisoIn, hup, hout]
      · simp [h1, Endpoint.enable_failed, Flagged, settings, Calls.BringsUpHid, hisoOut, hisoIn,
          hup, hin, hout]

theorem disableHid_spec (slot : Slot) (hf : Flagged slot) :
    Flagged slot.disableHid ∧ slot.disableHid.settings = { slot.settings with hid := false } := by
  obtain ⟨hin, hout, hisoOut, hisoIn⟩ := hf
  unfold disableHid
  cases hup : slot.hidEnabled with
  | true => simp [Flagged, settings, hisoOut, hisoIn]
  | false => simp [Flagged, settings, hup, hin, hout, hisoOut, hisoIn]

theorem enableIsoOut_spec (calls : Calls) (slot : Slot) (hf : Flagged slot) :
    Flagged (slot.enableIsoOut calls).1 ∧
    (slot.enableIsoOut calls).1.settings =
      { slot.settings with isoOut := slot.isoOutEnabled || decide (calls.enableIsoOut = 0) } := by
  obtain ⟨hin, hout, hisoOut, hisoIn⟩ := hf
  unfold enableIsoOut
  cases hup : slot.isoOutEnabled with
  | true => simp [Flagged, settings, hup, hin, hout, hisoOut, hisoIn]
  | false =>
      by_cases h1 : calls.enableIsoOut = 0
      · simp [h1, Flagged, settings, hin, hout, hisoIn]
      · simp [h1, Endpoint.enable_failed, Flagged, settings, hup, hin, hout, hisoOut, hisoIn]

theorem disableIsoOut_spec (slot : Slot) (hf : Flagged slot) :
    Flagged slot.disableIsoOut ∧
      slot.disableIsoOut.settings = { slot.settings with isoOut := false } := by
  obtain ⟨hin, hout, hisoOut, hisoIn⟩ := hf
  unfold disableIsoOut
  cases hup : slot.isoOutEnabled with
  | true => simp [Flagged, settings, hin, hout, hisoIn]
  | false => simp [Flagged, settings, hup, hin, hout, hisoOut, hisoIn]

theorem enableIsoIn_spec (calls : Calls) (slot : Slot) (hf : Flagged slot) :
    Flagged (slot.enableIsoIn calls).1 ∧
    (slot.enableIsoIn calls).1.settings =
      { slot.settings with isoIn := slot.isoInEnabled || decide (calls.enableIsoIn = 0) } := by
  obtain ⟨hin, hout, hisoOut, hisoIn⟩ := hf
  unfold enableIsoIn
  cases hup : slot.isoInEnabled with
  | true => simp [Flagged, settings, hup, hin, hout, hisoOut, hisoIn]
  | false =>
      by_cases h1 : calls.enableIsoIn = 0
      · simp [h1, Flagged, settings, hin, hout, hisoOut]
      · simp [h1, Endpoint.enable_failed, Flagged, settings, hup, hin, hout, hisoOut, hisoIn]

theorem disableIsoIn_spec (slot : Slot) (hf : Flagged slot) :
    Flagged slot.disableIsoIn ∧
      slot.disableIsoIn.settings = { slot.settings with isoIn := false } := by
  obtain ⟨hin, hout, hisoOut, hisoIn⟩ := hf
  unfold disableIsoIn
  cases hup : slot.isoInEnabled with
  | true => simp [Flagged, settings, hin, hout, hisoOut]
  | false => simp [Flagged, settings, hup, hin, hout, hisoOut, hisoIn]

theorem tearDown_spec (slot : Slot) (hf : Flagged slot) :
    Flagged slot.disableIsoOut.disableIsoIn.disableHid ∧
    slot.disableIsoOut.disableIsoIn.disableHid.settings =
      { slot.settings with hid := false, isoOut := false, isoIn := false } := by
  obtain ⟨hf1, hs1⟩ := slot.disableIsoOut_spec hf
  obtain ⟨hf2, hs2⟩ := slot.disableIsoOut.disableIsoIn_spec hf1
  obtain ⟨hf3, hs3⟩ := slot.disableIsoOut.disableIsoIn.disableHid_spec hf2
  exact ⟨hf3, by rw [hs3, hs2, hs1]⟩

theorem settings_cleared (slot : Slot) :
    settings { slot with alt1 := 0, alt2 := 0 } = { slot.settings with alt1 := 0, alt2 := 0 } := rfl

theorem settings_unconfigured (slot : Slot) :
    settings { slot with config := 0 } = { slot.settings with config := 0 } := rfl

end Slot

namespace Settings

structure Sound (set : Settings) : Prop where
  hid : set.hid = true ↔ set.config ≠ 0
  isoOut : set.isoOut = true ↔ set.alt1 ≠ 0
  isoIn : set.isoIn = true ↔ set.alt2 ≠ 0
  isoOutConfigured : set.isoOut = true → set.config ≠ 0
  isoInConfigured : set.isoIn = true → set.config ≠ 0

def down : Settings where
  config := 0
  alt1 := 0
  alt2 := 0
  hid := false
  isoOut := false
  isoIn := false

theorem down_sound : Sound down := by
  constructor <;> simp [down]

-- Nothing but its configuration brings a device without one up.
theorem Sound.eq_down {set : Settings} (h : set.Sound) (hconfig : set.config = 0) :
    set = down := by
  obtain ⟨hhid, hout, hin, houtc, hinc⟩ := h
  have h1 : set.hid = false := by
    by_contra hup
    exact hhid.mp (Bool.eq_true_of_not_eq_false hup) hconfig
  have h2 : set.isoOut = false := by
    by_contra hup
    exact houtc (Bool.eq_true_of_not_eq_false hup) hconfig
  have h3 : set.isoIn = false := by
    by_contra hup
    exact hinc (Bool.eq_true_of_not_eq_false hup) hconfig
  have h4 : set.alt1 = 0 := by
    by_contra halt
    exact Bool.false_ne_true (h2.symm.trans (hout.mpr halt))
  have h5 : set.alt2 = 0 := by
    by_contra halt
    exact Bool.false_ne_true (h3.symm.trans (hin.mpr halt))
  cases set
  simp only at hconfig h1 h2 h3 h4 h5
  rw [hconfig, h1, h2, h3, h4, h5, down]

theorem Sound.configured {set : Settings} (h : set.Sound) {config : UInt8} (hne : config ≠ 0) :
    Sound { set with config := config, hid := true } :=
  ⟨iff_of_true rfl hne, h.isoOut, h.isoIn, fun _ => hne, fun _ => hne⟩

end Settings

theorem consistent_iff {slot : Slot} (hf : Flagged slot) :
    Consistent slot ↔ slot.settings.Sound := by
  obtain ⟨hin, hout, hisoOut, hisoIn⟩ := hf
  constructor
  · rintro ⟨h1, _, h3, h4, h5, h6⟩
    rw [hin] at h1
    rw [hisoOut] at h3 h5
    rw [hisoIn] at h4 h6
    exact ⟨h1, h3, h4, h5, h6⟩
  · rintro ⟨h1, h3, h4, h5, h6⟩
    constructor
    · rw [hin]; exact h1
    · rw [hout]; exact h1
    · rw [hisoOut]; exact h3
    · rw [hisoIn]; exact h4
    · rw [hisoOut]; exact h5
    · rw [hisoIn]; exact h6

-- A configuration that is refused can only have met a device without one.
theorem setConfiguration_spec (calls : Calls) (wValue : UInt16) {slot : Slot} (hf : Flagged slot)
    (hs : slot.settings.Sound) :
    Flagged (setConfiguration calls wValue slot).slot ∧
    (setConfiguration calls wValue slot).slot.settings.Sound ∧
    (wValue.toUInt8 ≠ 0 → slot.hidEnabled = false → ¬calls.BringsUpHid →
      (setConfiguration calls wValue slot).ret ≠ 0) := by
  unfold setConfiguration
  by_cases hzero : wValue.toUInt8 = 0
  · simp only [hzero, ne_eq, not_true_eq_false, if_false, queueEp0]
    obtain ⟨hf', hs'⟩ := Slot.tearDown_spec { slot with config := 0 } hf
    refine ⟨hf', ?_, False.elim⟩
    rw [Slot.settings_cleared, hs']
    exact Settings.down_sound
  · obtain ⟨hf', hs', hret⟩ := Slot.enableHid_spec calls { slot with config := wValue.toUInt8 } hf
    simp only [ne_eq, hzero, not_false_eq_true, if_true]
    by_cases hup : slot.hidEnabled = true ∨ calls.BringsUpHid
    · have hn := hret.mpr hup
      rw [if_neg (not_not.mpr hn)]
      refine ⟨hf', ?_, fun _ hdown hfails => ?_⟩
      · have htrue : (slot.hidEnabled || decide calls.BringsUpHid) = true := by simpa using hup
        simp only [queueEp0, hs', htrue]
        exact hs.configured hzero
      · rcases hup with hup | hup
        · exact absurd hup (by simp [hdown])
        · exact absurd hup hfails
    · have hn : ¬(Slot.enableHid calls { slot with config := wValue.toUInt8 }).2 = 0 :=
        fun hn => hup (hret.mp hn)
      rw [if_pos hn]
      refine ⟨hf', ?_, fun _ _ _ => hn⟩
      have hdown : slot.hidEnabled = false :=
        Bool.eq_false_of_not_eq_true fun h => hup (Or.inl h)
      have hconfig : slot.config = 0 := by
        by_contra hne
        exact Bool.false_ne_true (hdown.symm.trans (hs.hid.mpr hne))
      have hfalse : (slot.hidEnabled || decide calls.BringsUpHid) = false := by
        simpa using not_or.mp hup
      rw [Slot.settings_unconfigured, hs', hfalse]
      have hset := hs.eq_down hconfig
      have halt1 : slot.alt1 = 0 := congrArg Settings.alt1 hset
      have halt2 : slot.alt2 = 0 := congrArg Settings.alt2 hset
      have hout : slot.isoOutEnabled = false := congrArg Settings.isoOut hset
      have hin : slot.isoInEnabled = false := congrArg Settings.isoIn hset
      simp only [Slot.settings, halt1, halt2, hout, hin]
      exact Settings.down_sound

-- Selecting an alternate setting of the playback interface keeps the settings and the endpoint
-- together on the stated condition, and on no other.
theorem selectOut_iff (calls : Calls) {slot : Slot} {alt : UInt8} (hf : Flagged slot)
    (hs : slot.settings.Sound) (halt : alt ≠ 0) :
    (Slot.enableIsoOut calls { slot with alt1 := alt }).1.settings.Sound ↔
      slot.config ≠ 0 ∧ (slot.isoOutEnabled = true ∨ calls.enableIsoOut = 0) := by
  rw [(Slot.enableIsoOut_spec calls { slot with alt1 := alt } hf).2]
  constructor
  · rintro ⟨_, hout, _, houtc, _⟩
    have hup := hout.mpr halt
    refine ⟨houtc hup, ?_⟩
    simpa using hup
  · rintro ⟨hconfig, hup⟩
    have htrue : (slot.isoOutEnabled || decide (calls.enableIsoOut = 0)) = true := by
      simpa using hup
    refine ⟨hs.hid, ?_, hs.isoIn, fun _ => hconfig, hs.isoInConfigured⟩
    exact iff_of_true htrue halt

theorem selectIn_iff (calls : Calls) {slot : Slot} {alt : UInt8} (hf : Flagged slot)
    (hs : slot.settings.Sound) (halt : alt ≠ 0) :
    (Slot.enableIsoIn calls { slot with alt2 := alt }).1.settings.Sound ↔
      slot.config ≠ 0 ∧ (slot.isoInEnabled = true ∨ calls.enableIsoIn = 0) := by
  rw [(Slot.enableIsoIn_spec calls { slot with alt2 := alt } hf).2]
  constructor
  · rintro ⟨_, _, hin, _, hinc⟩
    have hup := hin.mpr halt
    refine ⟨hinc hup, ?_⟩
    simpa using hup
  · rintro ⟨hconfig, hup⟩
    have htrue : (slot.isoInEnabled || decide (calls.enableIsoIn = 0)) = true := by
      simpa using hup
    refine ⟨hs.hid, hs.isoOut, ?_, hs.isoOutConfigured, fun _ => hconfig⟩
    exact iff_of_true htrue halt

-- The first alternate setting is always reached.
theorem releaseOut_sound {slot : Slot} (hf : Flagged slot) (hs : slot.settings.Sound) :
    (Slot.disableIsoOut { slot with alt1 := 0 }).settings.Sound := by
  rw [(Slot.disableIsoOut_spec { slot with alt1 := 0 } hf).2]
  refine ⟨hs.hid, ?_, hs.isoIn, ?_, hs.isoInConfigured⟩
  · exact iff_of_false Bool.false_ne_true (not_not.mpr rfl)
  · intro h
    exact absurd h Bool.false_ne_true

theorem releaseIn_sound {slot : Slot} (hf : Flagged slot) (hs : slot.settings.Sound) :
    (Slot.disableIsoIn { slot with alt2 := 0 }).settings.Sound := by
  rw [(Slot.disableIsoIn_spec { slot with alt2 := 0 } hf).2]
  refine ⟨hs.hid, hs.isoOut, ?_, hs.isoOutConfigured, ?_⟩
  · exact iff_of_false Bool.false_ne_true (not_not.mpr rfl)
  · intro h
    exact absurd h Bool.false_ne_true

theorem setInterface_flagged (calls : Calls) (wValue wIndex : UInt16) {slot : Slot}
    (hf : Flagged slot) : Flagged (setInterface calls wValue wIndex slot).slot := by
  unfold setInterface queueEp0
  dsimp only
  split
  · dsimp only
    split
    · exact (Slot.enableIsoOut_spec calls { slot with alt1 := wValue.toUInt8 } hf).1
    · exact (Slot.disableIsoOut_spec { slot with alt1 := wValue.toUInt8 } hf).1
  · split
    · dsimp only
      split
      · exact (Slot.enableIsoIn_spec calls { slot with alt2 := wValue.toUInt8 } hf).1
      · exact (Slot.disableIsoIn_spec { slot with alt2 := wValue.toUInt8 } hf).1
    · split
      · exact hf
      · exact hf

-- A request that neither configures nor selects has nothing to bring up.
theorem quiet_iff {slot after : Slot} {ctrl : CtrlRequest} {calls : Calls}
    {other : Slot → CtrlRequest → Int × List UInt8} (hsame : after.settings.Sound)
    (hconfigures : ¬ctrl.Configures) (hout : ¬ctrl.Selects 1) (hin : ¬ctrl.Selects 2) :
    (after.settings.Sound ∧ Reports slot (.setup ctrl calls other)) ↔
      Met slot (.setup ctrl calls other) := by
  constructor
  · intro _
    exact ⟨fun h => absurd h hout, fun h => absurd h hin⟩
  · intro _
    refine ⟨hsame, fun hcannot => ?_⟩
    cases hcannot with
    | hid hasks _ _ => exact absurd hasks hconfigures
    | isoOut hasks _ _ => exact absurd hasks hout
    | isoIn hasks _ _ => exact absurd hasks hin

theorem CtrlRequest.Selects.not_configures {ctrl : CtrlRequest} {intf : UInt8}
    (h : ctrl.Selects intf) : ¬ctrl.Configures := by
  rintro ⟨hreq, -, -⟩
  rw [h.1] at hreq
  exact absurd hreq (by decide)

theorem CtrlRequest.Selects.intf_eq {ctrl : CtrlRequest} {intf intf' : UInt8}
    (h : ctrl.Selects intf) (h' : ctrl.Selects intf') : intf = intf' :=
  h.2.2.1.symm.trans h'.2.2.1

section

variable {slot : Slot} {ctrl : CtrlRequest} (calls : Calls)
  (other : Slot → CtrlRequest → Int × List UInt8) (hf : Flagged slot) (hs : slot.settings.Sound)

include hf hs

theorem setup_selectsOut_iff (hasks : ctrl.Selects 1)
    (hsetup : ds5Setup calls other ctrl slot = setInterface calls ctrl.wValue ctrl.wIndex slot) :
    ((ds5Setup calls other ctrl slot).slot.settings.Sound ∧
      Reports slot (.setup ctrl calls other)) ↔ Met slot (.setup ctrl calls other) := by
  have hone := hasks.2.2.1
  have halt := hasks.2.2.2
  have hnot : ¬ctrl.Selects 2 := fun h => absurd (hasks.intf_eq h) (by decide)
  have hslot : (ds5Setup calls other ctrl slot).slot =
      (Slot.enableIsoOut calls { slot with alt1 := ctrl.wValue.toUInt8 }).1 := by
    rw [hsetup]
    simp [setInterface, queueEp0, hone, halt]
  have hret : (ds5Setup calls other ctrl slot).ret = calls.queueEp0 := by
    rw [hsetup]
    simp [setInterface, queueEp0, hone]
  have hreports : Reports slot (.setup ctrl calls other) ↔
      (slot.isoOutEnabled = false → ¬calls.BringsUpIsoOut → calls.queueEp0 ≠ 0) := by
    simp only [Reports, hret]
    constructor
    · intro h hdown hfails
      exact h (.isoOut hasks (hf.2.2.1.trans hdown) hfails)
    · intro h hcannot
      cases hcannot with
      | hid hconfigures _ _ => exact absurd hconfigures hasks.not_configures
      | isoOut _ hdown hfails => exact h (hf.2.2.1.symm.trans hdown) hfails
      | isoIn hasks' _ _ => exact absurd hasks' hnot
  have hmet : Met slot (.setup ctrl calls other) ↔ (slot.config ≠ 0 ∧
      (slot.isoOutEnabled = true ∨
        calls.enableIsoOut = 0 ∧ (calls.BringsUpIsoOut ∨ calls.queueEp0 ≠ 0))) := by
    simp only [Met, hf.2.2.1]
    exact ⟨fun h => h.1 hasks, fun h => ⟨fun _ => h, fun h2 => absurd h2 hnot⟩⟩
  rw [hslot, selectOut_iff calls hf hs halt, hreports, hmet]
  cases slot.isoOutEnabled with
  | true => simp
  | false =>
      simp only [Bool.false_eq_true, false_or, forall_const]
      tauto

theorem setup_selectsIn_iff (hasks : ctrl.Selects 2)
    (hsetup : ds5Setup calls other ctrl slot = setInterface calls ctrl.wValue ctrl.wIndex slot) :
    ((ds5Setup calls other ctrl slot).slot.settings.Sound ∧
      Reports slot (.setup ctrl calls other)) ↔ Met slot (.setup ctrl calls other) := by
  have htwo := hasks.2.2.1
  have halt := hasks.2.2.2
  have hnot : ¬ctrl.Selects 1 := fun h => absurd (hasks.intf_eq h) (by decide)
  have hslot : (ds5Setup calls other ctrl slot).slot =
      (Slot.enableIsoIn calls { slot with alt2 := ctrl.wValue.toUInt8 }).1 := by
    rw [hsetup]
    simp [setInterface, queueEp0, htwo, halt]
  have hret : (ds5Setup calls other ctrl slot).ret = calls.queueEp0 := by
    rw [hsetup]
    simp [setInterface, queueEp0, htwo]
  have hreports : Reports slot (.setup ctrl calls other) ↔
      (slot.isoInEnabled = false → ¬calls.BringsUpIsoIn → calls.queueEp0 ≠ 0) := by
    simp only [Reports, hret]
    constructor
    · intro h hdown hfails
      exact h (.isoIn hasks (hf.2.2.2.trans hdown) hfails)
    · intro h hcannot
      cases hcannot with
      | hid hconfigures _ _ => exact absurd hconfigures hasks.not_configures
      | isoOut hasks' _ _ => exact absurd hasks' hnot
      | isoIn _ hdown hfails => exact h (hf.2.2.2.symm.trans hdown) hfails
  have hmet : Met slot (.setup ctrl calls other) ↔ (slot.config ≠ 0 ∧
      (slot.isoInEnabled = true ∨
        calls.enableIsoIn = 0 ∧ (calls.BringsUpIsoIn ∨ calls.queueEp0 ≠ 0))) := by
    simp only [Met, hf.2.2.2]
    exact ⟨fun h => h.2 hasks, fun h => ⟨fun h1 => absurd h1 hnot, fun _ => h⟩⟩
  rw [hslot, selectIn_iff calls hf hs halt, hreports, hmet]
  cases slot.isoInEnabled with
  | true => simp
  | false =>
      simp only [Bool.false_eq_true, false_or, forall_const]
      tauto

theorem setup_configures_iff (hreq : ctrl.bRequest = 0x09)
    (hsetup : ds5Setup calls other ctrl slot = setConfiguration calls ctrl.wValue slot) :
    ((ds5Setup calls other ctrl slot).slot.settings.Sound ∧
      Reports slot (.setup ctrl calls other)) ↔ Met slot (.setup ctrl calls other) := by
  have hnone : ∀ intf, ¬ctrl.Selects intf := by
    rintro intf ⟨heleven, -⟩
    rw [hreq] at heleven
    exact absurd heleven (by decide)
  obtain ⟨-, hsound, hfails⟩ := setConfiguration_spec calls ctrl.wValue hf hs
  constructor
  · intro _
    exact ⟨fun h => absurd h (hnone 1), fun h => absurd h (hnone 2)⟩
  · intro _
    rw [← hsetup] at hsound hfails
    refine ⟨hsound, fun hcannot => ?_⟩
    cases hcannot with
    | hid hasks hdown hbrings =>
        refine hfails hasks.2.2 ?_ hbrings
        by_contra hup
        have hup := Bool.eq_true_of_not_eq_false hup
        exact hdown ⟨hf.1.trans hup, hf.2.1.trans hup⟩
    | isoOut hasks _ _ => exact absurd hasks (hnone 1)
    | isoIn hasks _ _ => exact absurd hasks (hnone 2)

theorem setInterface_released (h1 : ¬ctrl.Selects 1) (h2 : ¬ctrl.Selects 2)
    (hreq : ctrl.bRequest = 0x0B) (htype : ctrl.bRequestType = 1) :
    (setInterface calls ctrl.wValue ctrl.wIndex slot).slot.settings.Sound := by
  unfold setInterface queueEp0
  dsimp only
  split
  next hone =>
    have halt : ctrl.wValue.toUInt8 = 0 := by
      by_contra halt
      exact h1 ⟨hreq, htype, hone, halt⟩
    simp only [halt, ne_eq, not_true_eq_false, if_false]
    exact releaseOut_sound hf hs
  next =>
    split
    next htwo =>
      have halt : ctrl.wValue.toUInt8 = 0 := by
        by_contra halt
        exact h2 ⟨hreq, htype, htwo, halt⟩
      simp only [halt, ne_eq, not_true_eq_false, if_false]
      exact releaseIn_sound hf hs
    next =>
      split
      · exact hs
      · exact hs

-- One request, from settings that match their endpoints.
theorem setup_iff :
    ((ds5Setup calls other ctrl slot).slot.settings.Sound ∧
      Reports slot (.setup ctrl calls other)) ↔ Met slot (.setup ctrl calls other) := by
  by_cases hconf : ctrl.bRequest = 0x09 ∧ ctrl.bRequestType = 0
  · apply setup_configures_iff calls other hf hs hconf.1
    unfold ds5Setup
    exact if_pos hconf
  · have hconfigures : ¬ctrl.Configures := fun h => hconf ⟨h.1, h.2.1⟩
    by_cases hset : ctrl.bRequest = 0x0B ∧ ctrl.bRequestType = 1
    · have hsetup : ds5Setup calls other ctrl slot =
          setInterface calls ctrl.wValue ctrl.wIndex slot := by
        simp [ds5Setup, hset]
      by_cases hone : ctrl.Selects 1
      · exact setup_selectsOut_iff calls other hf hs hone hsetup
      · by_cases htwo : ctrl.Selects 2
        · exact setup_selectsIn_iff calls other hf hs htwo hsetup
        · refine quiet_iff ?_ hconfigures hone htwo
          rw [hsetup]
          exact setInterface_released calls hf hs hone htwo hset.1 hset.2
    · have hnone : ∀ intf, ¬ctrl.Selects intf := fun intf h => hset ⟨h.1, h.2.1⟩
      refine quiet_iff ?_ hconfigures (hnone 1) (hnone 2)
      simp only [ds5Setup, if_neg hconf, if_neg hset, queueEp0, getInterface]
      split
      · exact hs
      · split
        · exact hs
        · exact hs

end

theorem setup_flagged (calls : Calls) (other : Slot → CtrlRequest → Int × List UInt8)
    (ctrl : CtrlRequest) {slot : Slot} (hf : Flagged slot) (hs : slot.settings.Sound) :
    Flagged (ds5Setup calls other ctrl slot).slot := by
  unfold ds5Setup
  dsimp only
  split
  · exact (setConfiguration_spec calls ctrl.wValue hf hs).1
  · split
    · exact hf
    · split
      · exact setInterface_flagged calls ctrl.wValue ctrl.wIndex hf
      · split
        · exact hf
        · exact hf

theorem ds5Disconnect_spec {slot : Slot} (hf : Flagged slot) :
    Flagged (ds5Disconnect slot) ∧ (ds5Disconnect slot).settings = Settings.down := by
  obtain ⟨hf', hs'⟩ := slot.tearDown_spec hf
  refine ⟨hf', ?_⟩
  have heq : (ds5Disconnect slot).settings =
      { slot.disableIsoOut.disableIsoIn.disableHid.settings with
        config := 0, alt1 := 0, alt2 := 0 } := rfl
  rw [heq, hs']
  rfl

theorem Step.run_flagged (op : Step) {slot : Slot} (hf : Flagged slot) (hc : Consistent slot) :
    Flagged (op.run slot) := by
  cases op with
  | setup ctrl calls other => exact setup_flagged calls other ctrl hf ((consistent_iff hf).mp hc)
  | reset => exact (ds5Disconnect_spec hf).1
  | disconnect => exact (ds5Disconnect_spec hf).1

-- What one step does to settings that match: they match again and the step reports its
-- failures exactly on the condition.
theorem Step.run_iff (op : Step) {slot : Slot} (hf : Flagged slot) (hc : Consistent slot) :
    (Consistent (op.run slot) ∧ Reports slot op) ↔ Met slot op := by
  rw [consistent_iff (op.run_flagged hf hc)]
  cases op with
  | setup ctrl calls other => exact setup_iff calls other hf ((consistent_iff hf).mp hc)
  | reset =>
      refine iff_of_true ⟨?_, trivial⟩ trivial
      rw [Step.run, (ds5Disconnect_spec hf).2]
      exact Settings.down_sound
  | disconnect =>
      refine iff_of_true ⟨?_, trivial⟩ trivial
      rw [Step.run, (ds5Disconnect_spec hf).2]
      exact Settings.down_sound

theorem runSteps_append (slot : Slot) (pre : List Step) (op : Step) :
    runSteps slot (pre ++ [op]) = op.run (runSteps slot pre) := by
  simp [runSteps]

-- The flags follow the endpoints in every run that has been consistent so far, by induction
-- from its end.
theorem runSteps_flagged (ops : List Step)
    (hc : ∀ pre post, ops = pre ++ post → post ≠ [] → Consistent (runSteps zeroed pre)) :
    Flagged (runSteps zeroed ops) := by
  induction ops using List.reverseRecOn with
  | nil => exact zeroed_flagged
  | append_singleton pre op ih =>
      rw [runSteps_append]
      apply op.run_flagged
      · apply ih
        intro pre' post hsplit hne
        apply hc pre' (post ++ [op])
        · rw [hsplit, List.append_assoc]
        · simp
      · exact hc pre [op] rfl (List.cons_ne_nil _ _)

theorem runSteps_consistent (ops : List Step)
    (hmet : ∀ pre op post, ops = pre ++ op :: post → Met (runSteps zeroed pre) op) :
    Flagged (runSteps zeroed ops) ∧ Consistent (runSteps zeroed ops) := by
  induction ops using List.reverseRecOn with
  | nil => exact ⟨zeroed_flagged, zeroed_consistent⟩
  | append_singleton pre op ih =>
      have hpre : ∀ pre' op' post, pre = pre' ++ op' :: post → Met (runSteps zeroed pre') op' := by
        intro pre' op' post hsplit
        apply hmet pre' op' (post ++ [op])
        rw [hsplit, List.append_assoc, List.cons_append]
      obtain ⟨hf, hc⟩ := ih hpre
      rw [runSteps_append]
      exact ⟨op.run_flagged hf hc, ((op.run_iff hf hc).mpr (hmet pre op [] rfl)).1⟩

-- In every run of requests and resets the settings match the endpoints in all the states
-- passed, and every request that cannot bring its endpoint up reports it, exactly when each
-- step of the run meets the condition where it is taken.
theorem settings_match_endpoints (ops : List Step) :
    ((∀ pre post, ops = pre ++ post → Consistent (runSteps zeroed pre)) ∧
      ∀ pre op post, ops = pre ++ op :: post → Reports (runSteps zeroed pre) op) ↔
    ∀ pre op post, ops = pre ++ op :: post → Met (runSteps zeroed pre) op := by
  constructor
  · rintro ⟨hc, hreports⟩ pre op post hsplit
    have hf : Flagged (runSteps zeroed pre) := by
      apply runSteps_flagged
      intro pre' post' hsplit' _
      apply hc pre' (post' ++ op :: post)
      rw [hsplit, hsplit', List.append_assoc]
    have hnext : Consistent (op.run (runSteps zeroed pre)) := by
      rw [← runSteps_append]
      apply hc _ post
      rw [hsplit, List.append_assoc, List.singleton_append]
    exact (op.run_iff hf (hc pre (op :: post) hsplit)).mp ⟨hnext, hreports pre op post hsplit⟩
  · intro hmet
    have hsub : ∀ pre post, ops = pre ++ post →
        Flagged (runSteps zeroed pre) ∧ Consistent (runSteps zeroed pre) := by
      intro pre post hsplit
      apply runSteps_consistent
      intro pre' op' post' hsplit'
      apply hmet pre' op' (post' ++ post)
      rw [hsplit, hsplit', List.append_assoc, List.cons_append]
    constructor
    · intro pre post hsplit
      exact (hsub pre post hsplit).2
    · intro pre op post hsplit
      obtain ⟨hf, hc⟩ := hsub pre (op :: post) hsplit
      exact ((op.run_iff hf hc).mpr (hmet pre op post hsplit)).2

def granted : Calls where
  enableIntIn := 0
  enableIntOut := 0
  enableIsoOut := 0
  enableIsoIn := 0
  queueIntOut := 0
  queueIsoOut := fun _ => 0
  queueIsoIn := fun _ => 0
  queueEp0 := 0

def stalled (_slot : Slot) (_ctrl : CtrlRequest) : Int × List UInt8 := (-95, [])

-- The device is configured, and the playback interface is selected while usb_ep_enable
-- answers -ESHUTDOWN.
def shutDown : List Step :=
  [.setup { bRequestType := 0, bRequest := 9, wValue := 1, wIndex := 0, wLength := 0 }
      granted stalled,
    .setup { bRequestType := 1, bRequest := 11, wValue := 1, wIndex := 1, wLength := 0 }
      { granted with enableIsoOut := -108 } stalled]

theorem shutDown_selected_but_down :
    ¬∀ ops : List Step,
      (∀ pre post, ops = pre ++ post → Consistent (runSteps zeroed pre)) ∧
        ∀ pre op post, ops = pre ++ op :: post → Reports (runSteps zeroed pre) op := by
  intro h
  have hc := (h shutDown).1 shutDown [] (List.append_nil _).symm
  have hup := hc.isoOut.mpr (by decide)
  exact absurd hup (by decide)

end LibVirtualGamepad.Ds5Interfaces
