import LibVirtualGamepad.Protocol

-- The client library's side of a feedback poll.
namespace LibVirtualGamepad

def errorSuccess : UInt32 := 0
def errorInvalidData : UInt32 := 13
def errorInvalidParameter : UInt32 := 87

def feedbackPayloadUnknown : UInt16 := 0xFFFF

-- The sizes of the payload structs.
def feedbackPayloadSize : FeedbackType → UInt16
  | .none => 0
  | .genericRumbleRgb | .genericRumble => 8
  | .rawOutputReport => 16
  | .xboxRumble => 8
  | .playstationOutput => 32
  | .steamHaptic => SteamHapticFeedback.size
  | .steamSettings => 32
  | .other _ => feedbackPayloadUnknown

def FeedbackEvent.validRequest (event : FeedbackEvent) (bytes : UInt32) : Bool :=
  bytes == feedbackEventBytes && event.header.size == feedbackEventBytes &&
    event.header.version == protocolVersion && event.header.reserved == 0

namespace Client

-- `output` tells whether the caller gave a place for the event. `issued` is what the
-- request came back with: an error, or the bytes returned and the event among them.
def pollFeedback (output : Bool) (controllerId : UInt32)
    (issued : Except UInt32 (UInt32 × FeedbackEvent)) : UInt32 :=
  if !output then
    errorInvalidParameter
  else
    match issued with
    | .error status => status
    | .ok (bytes, event) =>
      if bytes ≠ feedbackEventBytes ∨ !event.validRequest bytes ∨
          event.controllerId ≠ controllerId ∨
          event.payloadSize.toNat > feedbackPayloadBytes ∨
          event.payloadSize ≠ feedbackPayloadSize event.type then
        errorInvalidData
      else
        errorSuccess

end Client

end LibVirtualGamepad
