import Mathlib.Logic.Function.Basic
import XoneDarwin.Machine.CString
import XoneDarwin.Protocol

/-!
# Controller slots

`g_slots` with everything its handlers touch: the virtual gamepads and the UDP
event stream. Which virtual devices can be created is up to the host system.
-/

namespace XoneDarwin

open CString

/-- `MAX_SLOTS`. -/
abbrev maxSlots : Nat := 8

/-- `slot_t`; `hidDevice` says whether `hid_device` is non-null. -/
structure Slot where
  active : Bool := false
  clientId : UInt8 := 0
  guidePressed : Bool := false
  hidDevice : Bool := false
  lastReport : HidReport := {}
  deriving DecidableEq

/-- The descriptors offered to `IOHIDUserDeviceCreate`. -/
inductive HidDescriptor
  /-- `kHIDDescriptor` -/
  | primary
  /-- `kHIDDescriptorFallback` -/
  | fallback
  /-- `kProbeDesc` -/
  | probe
  deriving DecidableEq

/-- Calls to the host's HID interface. -/
inductive HidIo
  | create (slot : UInt8) (descriptor : HidDescriptor) (ok : Bool)
  | release
  /-- `IOHIDUserDeviceHandleReport`: its result is only printed -/
  | report (report : HidReport)
  deriving DecidableEq

/-- The host system: does the next `IOHIDUserDeviceCreate` succeed? -/
structure Host where
  create : List HidIo → UInt8 → HidDescriptor → Bool

/-- A UDP datagram. `slots` is a ghost: the slot table when it was sent. -/
structure Datagram where
  text : List Char
  slots : Fin maxSlots → Slot

/-- `g_slots`, `g_hid_supported` and the calls made on their behalf, newest first. -/
structure Pads where
  slots : Fin maxSlots → Slot := fun _ => {}
  hidSupported : Bool := true
  hid : List HidIo := []
  datagrams : List Datagram := []

/-- The slot a `uint8_t` names, if it is below `MAX_SLOTS`. -/
def slotIdx? (client : UInt8) : Option (Fin maxSlots) :=
  if h : client.toNat < maxSlots then some ⟨client.toNat, h⟩ else none

theorem slotIdx?_val {client : UInt8} {i : Fin maxSlots} (hi : slotIdx? client = some i) :
    i.val = client.toNat := by
  unfold slotIdx? at hi
  split at hi
  · cases hi
    rfl
  · cases hi

def Pads.setSlot (i : Fin maxSlots) (slot : Slot) (pads : Pads) : Pads :=
  { pads with slots := Function.update pads.slots i slot }

/-- `active_slot_count`. -/
def activeSlotCount (pads : Pads) : Nat :=
  (List.finRange maxSlots).countP fun i => (pads.slots i).active

/-! ## Events -/

def connectedEvent (slot : UInt8) : List Char :=
  "\x7b\"type\":\"connected\",\"slot\":".toList ++ (printUnsigned slot.toNat ++ "\x7d".toList)

def disconnectedEvent (slot : UInt8) : List Char :=
  "\x7b\"type\":\"disconnected\",\"slot\":".toList ++ (printUnsigned slot.toNat ++ "\x7d".toList)

def guideEvent (slot : UInt8) (pressed : Bool) : List Char :=
  "\x7b\"type\":\"guide\",\"slot\":".toList ++ (printUnsigned slot.toNat ++
    (",\"pressed\":".toList ++ ((if pressed then "true" else "false").toList ++ "\x7d".toList)))

def inputEvent (slot : UInt8) (g : GipInput) : List Char :=
  "\x7b\"type\":\"input\",\"slot\":".toList ++ (printUnsigned slot.toNat ++
    (",\"buttons\":".toList ++ (printUnsigned g.buttons.toNat ++
    (",\"lt\":".toList ++ (printUnsigned g.triggerL.toNat ++
    (",\"rt\":".toList ++ (printUnsigned g.triggerR.toNat ++
    (",\"lx\":".toList ++ (printInt g.stickLx.toInt ++
    (",\"ly\":".toList ++ (printInt g.stickLy.toInt ++
    (",\"rx\":".toList ++ (printInt g.stickRx.toInt ++
    (",\"ry\":".toList ++ (printInt g.stickRy.toInt ++ "\x7d".toList)))))))))))))))

def hidUnavailableEvent : List Char :=
  "\x7b\"type\":\"hid_unavailable\"\x7d".toList

section

variable (host : Host) (eventUdp : Bool)

/-- `event_udp_send` of a formatted message: the 320-byte buffer keeps 318 characters
in front of the newline. -/
def eventUdpSend (message : List Char) (pads : Pads) : Pads :=
  if eventUdp ∧ message ≠ [] then
    { pads with datagrams := ⟨message.take 318 ++ ['\n'], pads.slots⟩ :: pads.datagrams }
  else pads

/-! ## Virtual gamepads -/

/-- `make_hid_device`. -/
def makeHidDevice (slot : UInt8) (descriptor : HidDescriptor) (pads : Pads) : Bool × Pads :=
  let ok := host.create pads.hid slot descriptor
  (ok, { pads with hid := .create slot descriptor ok :: pads.hid })

/-- `create_virtual_gamepad`. -/
def createVirtualGamepad (slot : UInt8) (pads : Pads) : Bool × Pads :=
  if pads.hidSupported then
    let primary := makeHidDevice host slot .primary pads
    if primary.1 then primary else makeHidDevice host slot .fallback primary.2
  else (false, pads)

/-- `probe_hid_support`, which `main` calls once. -/
def probeHidSupport (pads : Pads) : Pads :=
  let probe := makeHidDevice host 0 .probe pads
  if probe.1 then { probe.2 with hid := .release :: probe.2.hid }
  else eventUdpSend eventUdp hidUnavailableEvent { probe.2 with hidSupported := false }

/-- `post_hid_report`. -/
def postHidReport (i : Fin maxSlots) (pads : Pads) : Pads :=
  if (pads.slots i).hidDevice then
    { pads with hid := .report (pads.slots i).lastReport :: pads.hid }
  else pads

/-! ## Handlers -/

/-- `on_connect`. -/
def onConnect (client : UInt8) (pads : Pads) : Pads :=
  match slotIdx? client with
  | none => pads
  | some i =>
      if (pads.slots i).active then pads
      else
        let s := pads.slots i
        let gamepad := createVirtualGamepad host client pads
        eventUdpSend eventUdp (connectedEvent client)
          (gamepad.2.setSlot i { s with
            active := true
            clientId := client
            lastReport := { s.lastReport with hat := 8 }
            hidDevice := gamepad.1 })

/-- `on_disconnect`. -/
def onDisconnect (client : UInt8) (pads : Pads) : Pads :=
  match slotIdx? client with
  | none => pads
  | some i =>
      if (pads.slots i).active then
        let released :=
          if (pads.slots i).hidDevice then { pads with hid := .release :: pads.hid } else pads
        eventUdpSend eventUdp (disconnectedEvent client) (released.setSlot i {})
      else pads

/-- The part of an input payload behind the wireless wrapper, if there is one. -/
def unwrapInput (payload : List UInt8) (plen : UInt8) : List UInt8 × UInt8 :=
  if plen ≥ 24 ∧ byteAt payload 4 = gipCmdInput ∧ byteAt payload 7 ≥ 14 then
    (payload.drop 8, plen - 8)
  else (payload, plen)

/-- Layout A: two bytes of buttons. -/
def parseInput14 (input : List UInt8) : GipInput where
  buttons := load16 input
  triggerL := load16 (input.drop 2)
  triggerR := load16 (input.drop 4)
  stickLx := (load16 (input.drop 6)).toInt16
  stickLy := (load16 (input.drop 8)).toInt16
  stickRx := (load16 (input.drop 10)).toInt16
  stickRy := (load16 (input.drop 12)).toInt16

/-- The button bits layout B copies, in source order. -/
def buttons32Flags : List (UInt32 × UInt16) :=
  [(0, btnSync), (2, btnMenu), (3, btnView), (4, btnA), (5, btnB), (6, btnX), (7, btnY),
    (8, btnDpadUp), (9, btnDpadDown), (10, btnDpadLeft), (11, btnDpadRight), (12, btnLb),
    (13, btnRb), (14, btnLs), (15, btnRs)]

/-- Layout B: four bytes of buttons. -/
def parseInput16 (input : List UInt8) : GipInput where
  buttons := buttons32Flags.foldl (fun buttons flag =>
    if load32 input &&& ((1 : UInt32) <<< flag.1) ≠ 0 then buttons ||| flag.2 else buttons) 0
  triggerL := load16 (input.drop 4)
  triggerR := load16 (input.drop 6)
  stickLx := (load16 (input.drop 8)).toInt16
  stickLy := (load16 (input.drop 10)).toInt16
  stickRx := (load16 (input.drop 12)).toInt16
  stickRy := (load16 (input.drop 14)).toInt16

/-- Triggers in the realistic range. -/
def GipInput.TriggersOk (g : GipInput) : Prop :=
  g.triggerL ≤ 4095 ∧ g.triggerR ≤ 4095

instance (g : GipInput) : Decidable g.TriggersOk :=
  inferInstanceAs (Decidable (_ ∧ _))

/-- The decoding step of `on_input`: layout B only if layout A's triggers are
unrealistic and layout B's are not. -/
def parseInput (payload : List UInt8) (plen : UInt8) : Option GipInput :=
  let input := unwrapInput payload plen
  if input.2 < 14 then none
  else if input.2 ≥ 16 ∧ ¬(parseInput14 input.1).TriggersOk ∧ (parseInput16 input.1).TriggersOk then
    some (parseInput16 input.1)
  else some (parseInput14 input.1)

/-- `on_input` once the payload is decoded. -/
def reportInput (client : UInt8) (i : Fin maxSlots) (g : GipInput) (pads : Pads) : Pads :=
  let s := pads.slots i
  eventUdpSend eventUdp (inputEvent client g)
    (postHidReport i (pads.setSlot i { s with lastReport := gipToHid g s.guidePressed }))

/-- `on_input`. -/
def onInput (client : UInt8) (payload : List UInt8) (plen : UInt8) (pads : Pads) : Pads :=
  match slotIdx? client with
  | none => pads
  | some i =>
      if (pads.slots i).active then
        match parseInput payload plen with
        | none => pads
        | some g => reportInput eventUdp client i g pads
      else pads

/-- The guide bit of a report set or cleared. -/
def HidReport.withGuide (report : HidReport) (pressed : Bool) : HidReport :=
  { report with buttons :=
      if pressed then report.buttons ||| hidBtnGuide else report.buttons &&& ~~~hidBtnGuide }

/-- `on_guide`: unlike the other handlers it does not look at `active`. -/
def onGuide (client : UInt8) (pressed : Bool) (pads : Pads) : Pads :=
  match slotIdx? client with
  | none => pads
  | some i =>
      let s := pads.slots i
      eventUdpSend eventUdp (guideEvent client pressed)
        (postHidReport i (pads.setSlot i { s with
          guidePressed := pressed
          lastReport := s.lastReport.withGuide pressed }))

end

end XoneDarwin
