import LibVirtualGamepad.SteamController
import LibVirtualGamepad.SteamHapticQueue

namespace LibVirtualGamepad

def hapticQueueCapacity : Nat := 8
def settingsQueueCapacity : Nat := 8
def settingsEventsPerWrite : Nat := 3

instance : NeZero hapticQueueCapacity := ⟨by decide⟩
instance : NeZero settingsQueueCapacity := ⟨by decide⟩

-- What a slot holds for its owner's next polls.
structure SlotFeedback where
  feedback : FeedbackEvent
  feedbackPending : Bool
  haptics : FeedbackRing hapticQueueCapacity
  settings : FeedbackRing settingsQueueCapacity

namespace SlotFeedback

-- The cleared memory of a reset slot.
def zero : SlotFeedback where
  feedback := .zero
  feedbackPending := false
  haptics := .emptyAt (Vector.replicate _ .zero) 0 0
  settings := .emptyAt (Vector.replicate _ .zero) 0 0

-- One event a poll, settings ahead of haptics ahead of the coalesced state.
def poll (slot : SlotFeedback) : Option (FeedbackEvent × SlotFeedback) :=
  match slot.settings.poll with
  | some (event, settings) => some (event, { slot with settings := settings })
  | none =>
    match slot.haptics.poll with
    | some (event, haptics) => some (event, { slot with haptics := haptics })
    | none =>
      if slot.feedbackPending then
        some (slot.feedback, { slot with feedbackPending := false })
      else
        none

-- A slot that is being torn down drops what was not polled.
def discard (slot : SlotFeedback) : SlotFeedback :=
  { slot with
    feedbackPending := false
    haptics := { slot.haptics with cursor := slot.haptics.cursor.clear }
    settings := { slot.settings with cursor := slot.settings.cursor.clear } }

end SlotFeedback

-- A SetFeature transfer to a Steam slot: the responder takes it, and an accepted
-- settings write also goes to the owner.
def steamSetFeature (reportId : UInt8) (buffer : Option (List UInt8)) (controllerId : UInt32)
    (sc26 : Sc26State) (slot : SlotFeedback) : Bool × Sc26State × SlotFeedback :=
  let (accepted, sc26) := SteamController.setSc26Feature reportId buffer sc26
  if accepted && reportId == Sc26Usb.featuresReportId then
    let events := SteamController.applySc26Settings buffer controllerId settingsEventsPerWrite
    (accepted, sc26, { slot with settings := events.foldl .enqueueSettings slot.settings })
  else
    (accepted, sc26, slot)

end LibVirtualGamepad
