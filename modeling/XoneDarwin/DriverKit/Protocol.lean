import XoneDarwin.Bytes

/-!
# The driver's protocol header

`XboxGIPProtocol.h`: the DriverKit driver has its own constants, its own view of a
controller's input and its own HID report. Bit fields are allocated from the least
significant bit of their byte on.
-/

namespace XoneDarwin.DriverKit

/-! ## Frames -/

abbrev gipCmdAcknowledge : UInt8 := 0x01
abbrev gipCmdAnnounce : UInt8 := 0x02
abbrev gipCmdStatus : UInt8 := 0x03
abbrev gipCmdGuideBtn : UInt8 := 0x07
abbrev gipCmdInput : UInt8 := 0x20
abbrev dongleCmdControllerAdded : UInt8 := 0x0e
abbrev dongleCmdControllerLost : UInt8 := 0x0f

/-- `GIPHeader`. -/
structure GipHeader where
  command : UInt8
  client : UInt8
  sequence : UInt8
  length : UInt8
  deriving DecidableEq

def GipHeader.load (buf : List UInt8) : GipHeader :=
  ⟨byteAt buf 0, byteAt buf 1, byteAt buf 2, byteAt buf 3⟩

/-- `GIPBuildPacket`: the packet, empty where the C function returns size 0. -/
def gipBuildPacket (bufSize : Nat) (cmd client seq : UInt8) (payload : List UInt8) : List UInt8 :=
  if bufSize < 4 + payload.length then []
  else [cmd, client, seq, UInt8.ofNat payload.length] ++ payload

/-! ## Controller input -/

/-- A one-bit field of a byte. -/
def bitField (byte : UInt8) (k : Nat) : Bool :=
  byte.toNat.testBit k

/-- `GIPInputReport` without its reserved fields. -/
structure GipInputReport where
  btnSync : Bool
  btnMenu : Bool
  btnView : Bool
  btnA : Bool
  btnB : Bool
  btnX : Bool
  btnY : Bool
  btnDpadUp : Bool
  btnDpadDown : Bool
  btnDpadLeft : Bool
  btnDpadRight : Bool
  btnLb : Bool
  btnRb : Bool
  btnLs : Bool
  btnRs : Bool
  triggerLeft : UInt16
  triggerRight : UInt16
  stickLeftX : Int16
  stickLeftY : Int16
  stickRightX : Int16
  stickRightY : Int16

/-- `sizeof(GIPInputReport)`. -/
abbrev sizeofGipInputReport : Nat := 18

/-- The report a payload is cast to. -/
def GipInputReport.load (payload : List UInt8) : GipInputReport where
  btnSync := bitField (byteAt payload 0) 0
  btnMenu := bitField (byteAt payload 0) 1
  btnView := bitField (byteAt payload 0) 2
  btnA := bitField (byteAt payload 0) 3
  btnB := bitField (byteAt payload 0) 4
  btnX := bitField (byteAt payload 0) 5
  btnY := bitField (byteAt payload 0) 6
  btnDpadUp := bitField (byteAt payload 0) 7
  btnDpadDown := bitField (byteAt payload 1) 0
  btnDpadLeft := bitField (byteAt payload 1) 1
  btnDpadRight := bitField (byteAt payload 1) 2
  btnLb := bitField (byteAt payload 1) 3
  btnRb := bitField (byteAt payload 1) 4
  btnLs := bitField (byteAt payload 1) 5
  btnRs := bitField (byteAt payload 1) 6
  triggerLeft := load16 (payload.drop 2)
  triggerRight := load16 (payload.drop 4)
  stickLeftX := (load16 (payload.drop 6)).toInt16
  stickLeftY := (load16 (payload.drop 8)).toInt16
  stickRightX := (load16 (payload.drop 10)).toInt16
  stickRightY := (load16 (payload.drop 12)).toInt16

/-! ## HID report -/

/-- `XboxHIDReport` without its padding. -/
structure XboxHidReport where
  btnA : Bool := false
  btnB : Bool := false
  btnX : Bool := false
  btnY : Bool := false
  btnLb : Bool := false
  btnRb : Bool := false
  btnMenu : Bool := false
  btnView : Bool := false
  btnLs : Bool := false
  btnRs : Bool := false
  btnGuide : Bool := false
  hat : UInt8 := 0
  leftX : Int16 := 0
  leftY : Int16 := 0
  rightX : Int16 := 0
  rightY : Int16 := 0
  triggerLeft : UInt16 := 0
  triggerRight : UInt16 := 0
  deriving DecidableEq

/-- The D-pad bits of `GIPToHID`: 0 is north, clockwise, 8 is neutral. -/
def hatOf (up down left right : Bool) : UInt8 :=
  if up && !down && !left && !right then 0
  else if up && !down && !left && right then 1
  else if !up && !down && !left && right then 2
  else if !up && down && !left && right then 3
  else if !up && down && !left && !right then 4
  else if !up && down && left && !right then 5
  else if !up && !down && left && !right then 6
  else if up && !down && left && !right then 7
  else 8

/-- `GIPToHID`; the guide button is not part of the input. -/
def gipToHid (gip : GipInputReport) : XboxHidReport where
  btnA := gip.btnA
  btnB := gip.btnB
  btnX := gip.btnX
  btnY := gip.btnY
  btnLb := gip.btnLb
  btnRb := gip.btnRb
  btnMenu := gip.btnMenu
  btnView := gip.btnView
  btnLs := gip.btnLs
  btnRs := gip.btnRs
  btnGuide := false
  hat := hatOf gip.btnDpadUp gip.btnDpadDown gip.btnDpadLeft gip.btnDpadRight
  leftX := gip.stickLeftX
  leftY := gip.stickLeftY
  rightX := gip.stickRightX
  rightY := gip.stickRightY
  triggerLeft := gip.triggerLeft
  triggerRight := gip.triggerRight

end XoneDarwin.DriverKit
