import XoneDarwin.Daemon.Pads

/-!
# The HID bridge

`xbox_hid_bridge.c`: a process with slots of its own that reads the daemon's UDP
events. An event is a line of text; the fields are found by searching for their
names.
-/

namespace XoneDarwin

open CString

/-- `slot_t` of the bridge; `hidDevice` says whether `hid_device` is non-null. -/
structure BridgeSlot where
  active : Bool := false
  guidePressed : Bool := false
  hidDevice : Bool := false
  lastReport : HidReport := {}
  deriving DecidableEq

/-- `g_slots` of the bridge and the calls to the HID interface, newest first. -/
structure Bridge where
  slots : Fin maxSlots → BridgeSlot := fun _ => {}
  hid : List HidIo := []

/-! ## Fields of an event -/

/-- `needle` of the `json_get` functions: the quoted key and a colon, in a 64-byte buffer. -/
def keyNeedle (key : String) : List Char :=
  ("\"".toList ++ (key.toList ++ "\":".toList)).take 63

/-- What the `json_get` functions skip behind the colon. -/
def isBlank (c : Char) : Bool :=
  c = ' ' || c = '\t'

/-- The text behind a key and the blanks that follow it. -/
def jsonValue (json : List Char) (key : String) : Option (List Char) :=
  (strstr (keyNeedle key) json).map fun p =>
    (p.drop (keyNeedle key).length).dropWhile isBlank

/-- `json_get_int`. -/
def jsonGetInt (json : List Char) (key : String) : Option Int :=
  (jsonValue json key).bind fun p => (strtol p).map fun v => toInt v.1

/-- `json_get_bool`. -/
def jsonGetBool (json : List Char) (key : String) : Option Bool :=
  (jsonValue json key).bind fun p =>
    if "true".toList.isPrefixOf p then some true
    else if "false".toList.isPrefixOf p then some false
    else none

/-- `needle` of `json_has_type`. -/
def typeNeedle (type : String) : List Char :=
  ("\"type\":\"".toList ++ (type.toList ++ "\"".toList)).take 63

/-- `json_has_type`. -/
def jsonHasType (json : List Char) (type : String) : Bool :=
  (strstr (typeNeedle type) json).isSome

/-- The slot an `int` names, if it is in range. -/
def bridgeSlot? (slot : Int) : Option (Fin maxSlots) :=
  if h : 0 ≤ slot ∧ slot < maxSlots then some ⟨slot.toNat, by omega⟩ else none

namespace Bridge

section

variable (host : Host)

/-! ## Virtual gamepads -/

/-- `make_hid_device`. -/
def makeHidDevice (slot : UInt8) (descriptor : HidDescriptor) (bridge : Bridge) : Bool × Bridge :=
  let ok := host.create bridge.hid slot descriptor
  (ok, { bridge with hid := .create slot descriptor ok :: bridge.hid })

/-- `create_virtual_gamepad`. -/
def createVirtualGamepad (slot : UInt8) (bridge : Bridge) : Bool × Bridge :=
  let primary := makeHidDevice host slot .primary bridge
  if primary.1 then primary else makeHidDevice host slot .fallback primary.2

/-- `post_hid_report`. -/
def postHidReport (i : Fin maxSlots) (bridge : Bridge) : Bridge :=
  if (bridge.slots i).hidDevice then
    { bridge with hid := .report (bridge.slots i).lastReport :: bridge.hid }
  else bridge

def setSlot (i : Fin maxSlots) (slot : BridgeSlot) (bridge : Bridge) : Bridge :=
  { bridge with slots := Function.update bridge.slots i slot }

/-! ## Handlers -/

/-- `handle_connected`. -/
def handleConnected (slot : Int) (bridge : Bridge) : Bridge :=
  match bridgeSlot? slot with
  | none => bridge
  | some i =>
      if (bridge.slots i).active then bridge
      else
        let gamepad := createVirtualGamepad host (UInt8.ofNat i) bridge
        if gamepad.1 then
          postHidReport i (gamepad.2.setSlot i
            { active := true, guidePressed := false, hidDevice := true, lastReport := { hat := 8 } })
        else gamepad.2.setSlot i { bridge.slots i with hidDevice := false }

/-- `handle_disconnected`. -/
def handleDisconnected (slot : Int) (bridge : Bridge) : Bridge :=
  match bridgeSlot? slot with
  | none => bridge
  | some i =>
      if (bridge.slots i).active then
        let released :=
          if (bridge.slots i).hidDevice then { bridge with hid := .release :: bridge.hid }
          else bridge
        released.setSlot i {}
      else bridge

/-- `handle_guide`. -/
def handleGuide (slot : Int) (pressed : Bool) (bridge : Bridge) : Bridge :=
  match bridgeSlot? slot with
  | none => bridge
  | some i =>
      if (bridge.slots i).active then
        postHidReport i (bridge.setSlot i { bridge.slots i with
          guidePressed := pressed
          lastReport := (bridge.slots i).lastReport.withGuide pressed })
      else bridge

/-- The input record `handle_input` puts together; absent fields are 0. -/
def parsedInput (json : List Char) : GipInput where
  buttons := UInt16.ofInt ((jsonGetInt json "buttons").getD 0)
  triggerL := UInt16.ofInt ((jsonGetInt json "lt").getD 0)
  triggerR := UInt16.ofInt ((jsonGetInt json "rt").getD 0)
  stickLx := Int16.ofInt ((jsonGetInt json "lx").getD 0)
  stickLy := Int16.ofInt ((jsonGetInt json "ly").getD 0)
  stickRx := Int16.ofInt ((jsonGetInt json "rx").getD 0)
  stickRy := Int16.ofInt ((jsonGetInt json "ry").getD 0)

/-- `handle_input`. -/
def handleInput (json : List Char) (bridge : Bridge) : Bridge :=
  match (jsonGetInt json "slot").bind bridgeSlot? with
  | none => bridge
  | some i =>
      if (bridge.slots i).active then
        postHidReport i (bridge.setSlot i { bridge.slots i with
          lastReport := gipToHid (parsedInput json) (bridge.slots i).guidePressed })
      else bridge

/-- `handle_event_line`. -/
def handleEventLine (bridge : Bridge) (line : List Char) : Bridge :=
  if jsonHasType line "connected" then
    match jsonGetInt line "slot" with
    | some slot => bridge.handleConnected host slot
    | none => bridge
  else if jsonHasType line "disconnected" then
    match jsonGetInt line "slot" with
    | some slot => bridge.handleDisconnected slot
    | none => bridge
  else if jsonHasType line "guide" then
    match jsonGetInt line "slot", jsonGetBool line "pressed" with
    | some slot, some pressed => bridge.handleGuide slot pressed
    | _, _ => bridge
  else if jsonHasType line "input" then bridge.handleInput line
  else bridge

/-! ## The receive loop -/

/-- `"\r\n"`. -/
def lineEnd (c : Char) : Bool :=
  c = '\r' || c = '\n'

/-- The lines of a datagram: at most 4095 bytes are received, and `strtok_r` stops at a null
character. -/
def lines (datagram : List Char) : List (List Char) :=
  strtok lineEnd ((datagram.take 4095).takeWhile (· ≠ '\x00'))

/-- One round of the loop of `main`. -/
def receive (bridge : Bridge) (datagram : List Char) : Bridge :=
  (lines datagram).foldl (handleEventLine host) bridge

/-- `main` up to the loop; `none` where the creation probe fails. -/
def start : Option Bridge :=
  let probe := createVirtualGamepad host 0 {}
  if probe.1 then some { probe.2 with hid := .release :: probe.2.hid } else none

end

end Bridge

end XoneDarwin
