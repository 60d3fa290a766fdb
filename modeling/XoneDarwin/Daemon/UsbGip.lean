import XoneDarwin.Daemon.State
import XoneDarwin.Machine.Reading
import XoneDarwin.Mt76.Usb

/-!
# The daemon's USB GIP dispatcher

`process_frame` and the slot handlers once more, now with the index of every use of
`g_slots`; what lies behind the table is a parameter. The values are those of the
handlers in `Daemon.Pads`.
-/

namespace XoneDarwin

namespace Pads

/-- `g_slots[index]`: behind the table lies what `outside` says. -/
def slotMemory (outside : Nat → Slot) (pads : Pads) (index : Nat) : Slot :=
  if h : index < maxSlots then pads.slots ⟨index, h⟩ else outside index

/-- A look at `g_slots[index]`. -/
def slotAt (outside : Nat → Slot) (pads : Pads) (index : Nat) : Machine.Reading Slot :=
  .cell (pads.slotMemory outside) index

/-- `g_slots[i]` written. -/
def writeSlot (i : Fin maxSlots) (slot : Slot) (pads : Pads) : Machine.Reading Pads :=
  .cell (fun _ => pads.setSlot i slot) i

@[simp] theorem slotAt_val (outside : Nat → Slot) (pads : Pads) (i : Fin maxSlots) :
    (pads.slotAt outside i).val = pads.slots i :=
  dif_pos i.isLt

@[simp] theorem writeSlot_val (i : Fin maxSlots) (slot : Slot) (pads : Pads) :
    (pads.writeSlot i slot).val = pads.setSlot i slot := rfl

end Pads

section

variable (outside : Nat → Slot) (host : Host) (eventUdp : Bool)

/-! ## Slot handlers -/

/-- `post_hid_report(&g_slots[i])`. -/
def postHidReportAt (i : Fin maxSlots) (pads : Pads) : Machine.Reading Pads := do
  let s ← pads.slotAt outside i
  if s.hidDevice then
    let posted ← pads.slotAt outside i
    pure { pads with hid := .report posted.lastReport :: pads.hid }
  else pure pads

/-- `on_connect`. -/
def onConnectAt (client : UInt8) (pads : Pads) : Machine.Reading Pads :=
  match slotIdx? client with
  | none => pure pads
  | some i => do
      let s ← pads.slotAt outside i
      if s.active then pure pads
      else
        let gamepad := createVirtualGamepad host client pads
        let taken ← gamepad.2.writeSlot i { s with
          active := true
          clientId := client
          lastReport := { s.lastReport with hat := 8 }
          hidDevice := gamepad.1 }
        pure (eventUdpSend eventUdp (connectedEvent client) taken)

/-- `on_disconnect`. -/
def onDisconnectAt (client : UInt8) (pads : Pads) : Machine.Reading Pads :=
  match slotIdx? client with
  | none => pure pads
  | some i => do
      let s ← pads.slotAt outside i
      if s.active then
        let held ← pads.slotAt outside i
        let released := if held.hidDevice then { pads with hid := .release :: pads.hid } else pads
        let cleared ← released.writeSlot i {}
        pure (eventUdpSend eventUdp (disconnectedEvent client) cleared)
      else pure pads

/-- `on_input`. -/
def onInputAt (client : UInt8) (payload : List UInt8) (plen : UInt8) (pads : Pads) :
    Machine.Reading Pads :=
  match slotIdx? client with
  | none => pure pads
  | some i => do
      let s ← pads.slotAt outside i
      if s.active then
        match parseInput payload plen with
        | none => pure pads
        | some g =>
            let written ← pads.writeSlot i { s with lastReport := gipToHid g s.guidePressed }
            let posted ← postHidReportAt outside i written
            pure (eventUdpSend eventUdp (inputEvent client g) posted)
      else pure pads

/-- `on_guide`. -/
def onGuideAt (client : UInt8) (pressed : Bool) (pads : Pads) : Machine.Reading Pads :=
  match slotIdx? client with
  | none => pure pads
  | some i => do
      let s ← pads.slotAt outside i
      let written ← pads.writeSlot i { s with
        guidePressed := pressed
        lastReport := s.lastReport.withGuide pressed }
      let posted ← postHidReportAt outside i written
      pure (eventUdpSend eventUdp (guideEvent client pressed) posted)

/-! ## The values are those of the handlers -/

theorem postHidReportAt_val (i : Fin maxSlots) (pads : Pads) :
    (postHidReportAt outside i pads).val = postHidReport i pads := by
  simp only [postHidReportAt, Machine.Reading.val_bind, Pads.slotAt_val, postHidReport]
  split
  · simp
  · simp

theorem onConnectAt_val (client : UInt8) (pads : Pads) :
    (onConnectAt outside host eventUdp client pads).val = onConnect host eventUdp client pads := by
  unfold onConnectAt onConnect
  cases slotIdx? client with
  | none => rfl
  | some i =>
      simp only [Machine.Reading.val_bind, Pads.slotAt_val]
      split
      · rfl
      · rfl

theorem onDisconnectAt_val (client : UInt8) (pads : Pads) :
    (onDisconnectAt outside eventUdp client pads).val = onDisconnect eventUdp client pads := by
  unfold onDisconnectAt onDisconnect
  cases slotIdx? client with
  | none => rfl
  | some i =>
      simp only [Machine.Reading.val_bind, Pads.slotAt_val]
      split
      · simp
      · rfl

theorem onInputAt_val (client : UInt8) (payload : List UInt8) (plen : UInt8) (pads : Pads) :
    (onInputAt outside eventUdp client payload plen pads).val =
      onInput eventUdp client payload plen pads := by
  unfold onInputAt onInput
  cases slotIdx? client with
  | none => rfl
  | some i =>
      simp only [Machine.Reading.val_bind, Pads.slotAt_val]
      split
      · cases parseInput payload plen with
        | none => rfl
        | some g => simp [reportInput, postHidReportAt_val]
      · rfl

theorem onGuideAt_val (client : UInt8) (pressed : Bool) (pads : Pads) :
    (onGuideAt outside eventUdp client pressed pads).val =
      onGuide eventUdp client pressed pads := by
  unfold onGuideAt onGuide
  cases slotIdx? client with
  | none => rfl
  | some i => simp [postHidReportAt_val]

end

/-! ## The dispatcher -/

section

variable (world : World) (epOut : UInt8)

/-- `usb_send`: `g_ep_out` is 0 until an endpoint has been found. -/
def usbSend (packet : List UInt8) (air : Air) : Air :=
  if epOut = 0 then air
  else { air with usb := (bulkTransfer world.dongle epOut packet air.usb).2 }

/-- `send_ack`: the sequence number is the host's own. -/
def sendAck (client _seq : UInt8) (air : Air) : Air :=
  let packet := (gipBuild 8 gipCmdAcknowledge client air.hostSeq [0x00] 1).getD []
  usbSend world epOut packet { air with hostSeq := air.hostSeq + 1 }

/-- A slot handler of the daemon. -/
def Daemon.onPads (handler : Pads → Machine.Reading Pads) (daemon : Daemon) :
    Machine.Reading Daemon := do
  let pads ← handler daemon.pads
  pure { daemon with pads := pads }

/-- `process_frame`. -/
def processFrame (outside : Nat → Slot) (buf : List UInt8) (daemon : Daemon) :
    Machine.Reading Daemon :=
  if buf.length < 4 then pure daemon
  else
    let command := byteAt buf 0
    let client := byteAt buf 1
    let sequence := byteAt buf 2
    let length := byteAt buf 3
    let payload := buf.drop 4
    let plen := if buf.length - 4 < length.toNat then UInt8.ofNat (buf.length - 4) else length
    if command = gipCmdCtrlAdded then
      daemon.onPads (onConnectAt outside world.host world.eventUdp client)
    else if command = gipCmdCtrlLost then
      daemon.onPads (onDisconnectAt outside world.eventUdp client)
    else if command = gipCmdAnnounce then do
      let acked := { daemon with air := sendAck world epOut client sequence daemon.air }
      -- this look at the table comes before any range check
      let slot ← acked.pads.slotAt outside client.toNat
      if ¬slot.active then
        acked.onPads (onConnectAt outside world.host world.eventUdp client)
      else pure acked
    else if command = gipCmdStatus then
      pure { daemon with air := sendAck world epOut client sequence daemon.air }
    else if command = gipCmdInput then
      daemon.onPads (onInputAt outside world.eventUdp client payload plen)
    else if command = gipCmdGuideBtn then do
      let shown ←
        if plen ≥ 1 then
          daemon.onPads (onGuideAt outside world.eventUdp client (byteAt payload 0 ≠ 0))
        else pure daemon
      pure { shown with air := sendAck world epOut client sequence shown.air }
    else pure daemon

end

end XoneDarwin
