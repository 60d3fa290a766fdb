import XoneDarwin.Machine.Run
import XoneDarwin.Machine.Emission
import XoneDarwin.Machine.Registry
import XoneDarwin.Machine.CString
import XoneDarwin.Mt76.Firmware
import XoneDarwin.Mt76.Traffic
import XoneDarwin.Mt76.Resident
import XoneDarwin.Daemon.Framing
import XoneDarwin.Daemon.Reads
import XoneDarwin.Daemon.Registration
import XoneDarwin.Daemon.OnAir
import XoneDarwin.Daemon.Channel
import XoneDarwin.Daemon.Address
import XoneDarwin.Daemon.Recovery
import XoneDarwin.Daemon.Isolation
import XoneDarwin.Daemon.Handshake
import XoneDarwin.Daemon.Clients
import XoneDarwin.Daemon.Lock
import XoneDarwin.Daemon.Pairing
import XoneDarwin.Bridge.Mirror
import XoneDarwin.Bridge.Stream
import XoneDarwin.Injector.Detach
import XoneDarwin.Injector.Agreement
import XoneDarwin.Injector.Lines
import XoneDarwin.Daemon.WlanFraming
import XoneDarwin.Daemon.WcidTable
import XoneDarwin.Daemon.Reports
import XoneDarwin.DriverKit.Decode
import XoneDarwin.DriverKit.Bounds
import XoneDarwin.ControlCenter.LogReader
import XoneDarwin.DriverKit.ReadLoop
import XoneDarwin.Daemon.Layouts
import XoneDarwin.Mt76.Placement
import XoneDarwin.Injector.Sticks
import XoneDarwin.Bridge.Guide
import XoneDarwin.Mt76.AddressStep
import XoneDarwin.Daemon.Outcomes
import XoneDarwin.Injector.SlotNumbers
import XoneDarwin.Injector.Overflow
import XoneDarwin.DriverKit.Guide
import XoneDarwin.ControlCenter.Quoting
import XoneDarwin.ControlCenter.Panes
import XoneDarwin.Mt76.Crystal
import XoneDarwin.Mapper.Datagrams
import XoneDarwin.Mapper.Mirror
import XoneDarwin.Machine.HidDescriptor
import XoneDarwin.Machine.Traces
import XoneDarwin.Daemon.Descriptor
import XoneDarwin.Daemon.Gamepads
import XoneDarwin.Daemon.Shown
import XoneDarwin.Daemon.Answers
import XoneDarwin.Daemon.MainCalls
import XoneDarwin.Bridge.Gamepads
import XoneDarwin.DriverKit.Descriptor
import XoneDarwin.DriverKit.AckTrace
import XoneDarwin.DriverKit.Lifecycle
import XoneDarwin.Injector.Shown
