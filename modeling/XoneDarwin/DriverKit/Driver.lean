import Mathlib.Logic.Function.Basic
import XoneDarwin.DriverKit.Protocol
import XoneDarwin.Machine.Reading
import XoneDarwin.Machine.Run

/-!
# The DriverKit driver

`XboxOneWirelessDriver.cpp` between `Start` and `Stop`: a machine that takes one GIP
frame after the other. Every use of `mSlots` and `mHIDDevices` records its index, in
bounds or not; what lies behind the slot table is a parameter.
-/

namespace XoneDarwin.DriverKit

open Machine (Reading)

/-- `MAX_CONTROLLERS`. -/
abbrev maxControllers : Nat := 8

/-- `ControllerSlot`. -/
structure ControllerSlot where
  connected : Bool := false
  clientId : UInt8 := 0
  sequence : UInt8 := 0
  initialized : Bool := false
  guidePressed : Bool := false
  deriving DecidableEq

/-- `IOReturn`, as far as the driver tells its values apart. -/
inductive IoReturn
  /-- `kIOReturnSuccess` -/
  | success
  /-- `kIOReturnAborted` -/
  | aborted
  | error (code : UInt32)
  deriving DecidableEq

/-- `kIOReturnNoDevice`. -/
def kIoReturnNoDevice : IoReturn := .error 0xe00002c0

/-- What the driver asks of DriverKit. -/
inductive DriverIo
  /-- the memory of a packet is there -/
  | createPacket
  /-- `mBulkOutPipe->IO` -/
  | send (packet : List UInt8)
  /-- the memory of a packet is given back -/
  | releasePacket
  /-- the creation of a virtual device got as far as `Start` -/
  | start (clientId : UInt8)
  | stop (clientId : UInt8)
  /-- `PostInputReport`; nobody looks at how it goes -/
  | post (clientId : UInt8) (report : XboxHidReport)
  deriving DecidableEq

/-- The members the frame handlers use; `mHidDevices` says which pointers are non-null. Calls to
DriverKit are listed newest first. -/
structure Driver where
  mSlots : Fin maxControllers → ControllerSlot := fun _ => {}
  mHidDevices : Fin maxControllers → Bool := fun _ => false
  mHostSequence : UInt8 := 0
  io : List DriverIo := []

/-- How the next creation of a virtual device goes: `OSTypeAlloc`, `init` and `attach`. -/
structure HidOutcome where
  alloc : Bool
  init : Bool
  attach : Bool
  deriving DecidableEq

/-- How the next `SendPacket` goes. -/
inductive SendOutcome
  | noPipe
  /-- `IOBufferMemoryDescriptor::Create` fails or hands out nothing -/
  | noMemory (created : IoReturn)
  | transfer (result : IoReturn)
  deriving DecidableEq

/-- The calls of a packet that gets as far as the pipe, newest first. -/
def SendOutcome.calls (packet : List UInt8) : SendOutcome → List DriverIo
  | .transfer _ => [.releasePacket, .send packet, .createPacket]
  | _ => []

/-- The device is allocated, initialised and attached. -/
def HidOutcome.created (outcome : HidOutcome) : Bool :=
  outcome.alloc && outcome.init && outcome.attach

/-- The range check of the handlers. -/
def controller? (clientId : UInt8) : Option (Fin maxControllers) :=
  if h : clientId.toNat < maxControllers then some ⟨clientId.toNat, h⟩ else none

namespace Driver

/-! ## The tables as memory -/

/-- `mSlots[index]`: behind the table lies what `outside` says. -/
def slotMemory (outside : Nat → ControllerSlot) (driver : Driver) (index : Nat) : ControllerSlot :=
  if h : index < maxControllers then driver.mSlots ⟨index, h⟩ else outside index

/-- A look at `mSlots[index]`. -/
def slotAt (outside : Nat → ControllerSlot) (driver : Driver) (index : Nat) :
    Reading ControllerSlot :=
  .cell (driver.slotMemory outside) index

/-- A look at `mHIDDevices[i]`. -/
def hidDeviceAt (driver : Driver) (i : Fin maxControllers) : Reading Bool :=
  .cell (fun _ => driver.mHidDevices i) i

def setSlot (i : Fin maxControllers) (slot : ControllerSlot) (driver : Driver) : Driver :=
  { driver with mSlots := Function.update driver.mSlots i slot }

def setHidDevice (i : Fin maxControllers) (present : Bool) (driver : Driver) : Driver :=
  { driver with mHidDevices := Function.update driver.mHidDevices i present }

def log (io : DriverIo) (driver : Driver) : Driver :=
  { driver with io := io :: driver.io }

/-! ## Handlers -/

section

variable (outside : Nat → ControllerSlot)

/-- `SendPacket`. -/
def sendPacket (sending : SendOutcome) (packet : List UInt8) (driver : Driver) :
    IoReturn × Driver :=
  match sending with
  | .noPipe => (kIoReturnNoDevice, driver)
  | .noMemory created => (created, driver)
  | .transfer result =>
      (result, ((driver.log .createPacket).log (.send packet)).log .releasePacket)

/-- `SendAcknowledge`: the sequence number is the driver's own, and nobody looks at what
`SendPacket` returns. -/
def sendAcknowledge (sending : SendOutcome) (clientId _command _sequence : UInt8)
    (driver : Driver) : Driver :=
  let packet := gipBuildPacket 16 gipCmdAcknowledge clientId driver.mHostSequence [0x00]
  let counted := { driver with mHostSequence := driver.mHostSequence + 1 }
  if packet.length > 0 then (counted.sendPacket sending packet).2 else counted

/-- The creation of a virtual device, written back to `mHIDDevices` if it succeeds. -/
def createHidDevice (outcome : HidOutcome) (clientId : UInt8) (i : Fin maxControllers)
    (driver : Driver) : Reading Driver :=
  if outcome.created then do
    let _ ← driver.hidDeviceAt i
    pure ((driver.log (.start clientId)).setHidDevice i true)
  else pure driver

/-- `HandleControllerAnnounce`. -/
def handleControllerAnnounce (outcome : HidOutcome) (clientId : UInt8) (driver : Driver) :
    Reading Driver :=
  match controller? clientId with
  | none => pure driver
  | some i => do
      let slot ← driver.slotAt outside i
      if slot.connected then pure driver
      else
        -- the slot is taken before there is a device for it
        let taken := driver.setSlot i
          { connected := true, clientId := clientId, sequence := 0, initialized := true,
            guidePressed := false }
        let hid ← taken.hidDeviceAt i
        if hid then pure taken else taken.createHidDevice outcome clientId i

/-- `HandleControllerInput`. -/
def handleControllerInput (clientId : UInt8) (payload : List UInt8) (driver : Driver) :
    Reading Driver :=
  match controller? clientId with
  | none => pure driver
  | some i => do
      let slot ← driver.slotAt outside i
      if ¬slot.connected then pure driver
      else
        let hid ← driver.hidDeviceAt i
        if ¬hid then pure driver
        else
          pure (driver.log (.post clientId
            { gipToHid (.load payload) with btnGuide := slot.guidePressed }))

/-- `PostHIDReport`: a neutral report with the guide button. -/
def postHidReport (clientId : UInt8) (driver : Driver) : Reading Driver :=
  match controller? clientId with
  | none => pure driver
  | some i => do
      let hid ← driver.hidDeviceAt i
      if ¬hid then pure driver
      else
        let slot ← driver.slotAt outside i
        pure (driver.log (.post clientId { btnGuide := slot.guidePressed, hat := 8 }))

/-- `HandleGuideButton`. -/
def handleGuideButton (clientId : UInt8) (pressed : Bool) (driver : Driver) : Reading Driver :=
  match controller? clientId with
  | none => pure driver
  | some i => do
      let slot ← driver.slotAt outside i
      (driver.setSlot i { slot with guidePressed := pressed }).postHidReport outside clientId

/-- `HandleControllerDisconnect`. -/
def handleControllerDisconnect (clientId : UInt8) (driver : Driver) : Reading Driver :=
  match controller? clientId with
  | none => pure driver
  | some i => do
      let _ ← driver.slotAt outside i
      let cleared := driver.setSlot i {}
      let hid ← cleared.hidDeviceAt i
      if hid then pure ((cleared.log (.stop clientId)).setHidDevice i false) else pure cleared

/-- `ProcessGIPFrame` on a buffer of which `buf` was received. -/
def processGipFrame (outcome : HidOutcome) (sending : SendOutcome) (buf : List UInt8)
    (driver : Driver) : Reading Driver :=
  if buf.length < 4 then pure driver
  else
    let hdr := GipHeader.load buf
    let payload := buf.drop 4
    let payloadLen := if buf.length - 4 < hdr.length.toNat then buf.length - 4 else hdr.length.toNat
    if hdr.command = dongleCmdControllerAdded then
      driver.handleControllerAnnounce outside outcome hdr.client
    else if hdr.command = dongleCmdControllerLost then
      driver.handleControllerDisconnect outside hdr.client
    else if hdr.command = gipCmdAnnounce then do
      let acked := driver.sendAcknowledge sending hdr.client gipCmdAnnounce hdr.sequence
      -- this look at the table comes before any range check
      let slot ← acked.slotAt outside hdr.client.toNat
      if ¬slot.initialized then acked.handleControllerAnnounce outside outcome hdr.client
      else pure acked
    else if hdr.command = gipCmdStatus then
      pure (driver.sendAcknowledge sending hdr.client gipCmdStatus hdr.sequence)
    else if hdr.command = gipCmdInput then
      if payloadLen ≥ sizeofGipInputReport then
        driver.handleControllerInput outside hdr.client payload
      else pure driver
    else if hdr.command = gipCmdGuideBtn then do
      let shown ←
        if payloadLen ≥ 1 then
          driver.handleGuideButton outside hdr.client (byteAt payload 0 ≠ 0)
        else pure driver
      pure (shown.sendAcknowledge sending hdr.client gipCmdGuideBtn hdr.sequence)
    else pure driver

end

/-! ## Steps -/

/-- A received frame, and how the creation and the acknowledgement go if it brings them about. -/
structure Step where
  frame : List UInt8
  outcome : HidOutcome
  sending : SendOutcome

/-- `HandleIncomingUSBData` with a successful status. -/
def step (outside : Nat → ControllerSlot) (driver : Driver) (input : Step) : Driver :=
  (driver.processGipFrame outside input.outcome input.sending input.frame).val

end Driver

end XoneDarwin.DriverKit
