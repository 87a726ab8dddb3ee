import LibVirtualGamepad.Coalescing.Run
import LibVirtualGamepad.Driver.Gate.VhfHandles
import LibVirtualGamepad.Driver.ChildAbsence
import LibVirtualGamepad.Driver.NativePump.Current
import LibVirtualGamepad.Driver.SettingsReplica.Runs
import LibVirtualGamepad.KeyboardMouse.Drain
import LibVirtualGamepad.KeyboardMouse.Ring
import LibVirtualGamepad.ReportPump.Losses
import LibVirtualGamepad.SteamHapticQueue.Runs
import LibVirtualGamepad.Driver.SettingsReplica.ReadBack
import LibVirtualGamepad.Sc26Usb.Identity
import LibVirtualGamepad.Sc26Usb.Framing
import LibVirtualGamepad.Driver.ErrorLadder
import LibVirtualGamepad.Driver.PlaystationOutput
import LibVirtualGamepad.Driver.PolledEvents
import LibVirtualGamepad.Driver.SlotRun.DiscreteEdges
import LibVirtualGamepad.Driver.PidOutput
import LibVirtualGamepad.Driver.PidClock.Runs
import LibVirtualGamepad.PidFf.Envelope
import LibVirtualGamepad.PidFf.Playback
import LibVirtualGamepad.Linux.Ds5Gadget.Ownership
import LibVirtualGamepad.Linux.Ds5Interfaces.Settings
import LibVirtualGamepad.Linux.DummyHcd.IsoService
import LibVirtualGamepad.Driver.PreviousInstance
import LibVirtualGamepad.SwitchPro.Spi
import LibVirtualGamepad.SwitchPro.Motion
import LibVirtualGamepad.SwitchPro.Handshake
import LibVirtualGamepad.Playstation.Touch
import LibVirtualGamepad.SteamController.Latches
import LibVirtualGamepad.Wire.Outcomes
import LibVirtualGamepad.Driver.Progress.Termination
import LibVirtualGamepad.Driver.Cadence.Runs
import LibVirtualGamepad.Driver.Isolation.Alike
import LibVirtualGamepad.Driver.PowerDown
