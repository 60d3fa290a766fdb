import XoneDarwin.Bytes
import XoneDarwin.Machine.Bits

/-!
# The Gaming Input Protocol

Constants, the controller input record, the HID report and the translation
between them, as in `xbox_protocol.h`.
-/

namespace XoneDarwin

open Machine (bitAt)

/-! ## Adapters and frames -/

/-- The USB product ids the daemon opens. -/
inductive Pid
  /-- `XBOX_PID_V1`, 0x02E6 -/
  | v1
  /-- `XBOX_PID_V2`, 0x02FD -/
  | v2
  /-- `XBOX_PID_V3`, 0x02FE: the only adapter that takes a firmware upload -/
  | v3
  deriving DecidableEq

/-- `USB_BUF_SIZE`. -/
abbrev usbBufSize : Nat := 4096

abbrev gipCmdAcknowledge : UInt8 := 0x01
abbrev gipCmdAnnounce : UInt8 := 0x02
abbrev gipCmdStatus : UInt8 := 0x03
abbrev gipCmdPower : UInt8 := 0x05
abbrev gipCmdGuideBtn : UInt8 := 0x07
abbrev gipCmdLed : UInt8 := 0x0a
abbrev gipCmdSerial : UInt8 := 0x1e
abbrev gipCmdInput : UInt8 := 0x20
abbrev gipCmdInputOverflow : UInt8 := 0x26
abbrev gipCmdCtrlAdded : UInt8 := 0x0e
abbrev gipCmdCtrlLost : UInt8 := 0x0f

abbrev gipTypeAck : UInt8 := 0x01
abbrev gipTypeRequest : UInt8 := 0x02

/-- `gip_build`: the packet, or `none` where the C function returns size 0. -/
def gipBuild (cap : Nat) (cmd client seq : UInt8) (payload : List UInt8) (plen : UInt8) :
    Option (List UInt8) :=
  if cap < 4 + plen.toNat then none
  else some ([cmd, client, seq, plen] ++ payload.take plen.toNat)

/-! ## Controller input -/

/-- `gip_input_t` without its reserved bytes. -/
structure GipInput where
  buttons : UInt16 := 0
  triggerL : UInt16 := 0
  triggerR : UInt16 := 0
  stickLx : Int16 := 0
  stickLy : Int16 := 0
  stickRx : Int16 := 0
  stickRy : Int16 := 0
  deriving DecidableEq

abbrev btnSync : UInt16 := (1 : UInt16) <<< 0
abbrev btnMenu : UInt16 := (1 : UInt16) <<< 2
abbrev btnView : UInt16 := (1 : UInt16) <<< 3
abbrev btnA : UInt16 := (1 : UInt16) <<< 4
abbrev btnB : UInt16 := (1 : UInt16) <<< 5
abbrev btnX : UInt16 := (1 : UInt16) <<< 6
abbrev btnY : UInt16 := (1 : UInt16) <<< 7
abbrev btnDpadUp : UInt16 := (1 : UInt16) <<< 8
abbrev btnDpadDown : UInt16 := (1 : UInt16) <<< 9
abbrev btnDpadLeft : UInt16 := (1 : UInt16) <<< 10
abbrev btnDpadRight : UInt16 := (1 : UInt16) <<< 11
abbrev btnLb : UInt16 := (1 : UInt16) <<< 12
abbrev btnRb : UInt16 := (1 : UInt16) <<< 13
abbrev btnLs : UInt16 := (1 : UInt16) <<< 14
abbrev btnRs : UInt16 := (1 : UInt16) <<< 15

/-- `xbox_hid_report_t`. -/
structure HidReport where
  buttons : UInt16 := 0
  hat : UInt8 := 0
  lx : Int16 := 0
  ly : Int16 := 0
  rx : Int16 := 0
  ry : Int16 := 0
  lt : UInt16 := 0
  rt : UInt16 := 0
  deriving DecidableEq

abbrev hidBtnA : UInt16 := (1 : UInt16) <<< 0
abbrev hidBtnB : UInt16 := (1 : UInt16) <<< 1
abbrev hidBtnX : UInt16 := (1 : UInt16) <<< 2
abbrev hidBtnY : UInt16 := (1 : UInt16) <<< 3
abbrev hidBtnLb : UInt16 := (1 : UInt16) <<< 4
abbrev hidBtnRb : UInt16 := (1 : UInt16) <<< 5
abbrev hidBtnMenu : UInt16 := (1 : UInt16) <<< 6
abbrev hidBtnView : UInt16 := (1 : UInt16) <<< 7
abbrev hidBtnLs : UInt16 := (1 : UInt16) <<< 8
abbrev hidBtnRs : UInt16 := (1 : UInt16) <<< 9
abbrev hidBtnGuide : UInt16 := (1 : UInt16) <<< 10
abbrev hidBtnSync : UInt16 := (1 : UInt16) <<< 12

/-- `flag` where the mask is set in `x`, nothing otherwise. -/
def whenSet (x mask flag : UInt16) : UInt16 :=
  if x &&& mask ≠ 0 then flag else 0

/-- The D-pad bits of `gip_to_hid`: 0 is north, clockwise, 8 is neutral. -/
def hatOf (buttons : UInt16) : UInt8 :=
  let up := buttons &&& btnDpadUp ≠ 0
  let down := buttons &&& btnDpadDown ≠ 0
  let left := buttons &&& btnDpadLeft ≠ 0
  let right := buttons &&& btnDpadRight ≠ 0
  if up ∧ ¬down ∧ ¬left ∧ ¬right then 0
  else if up ∧ ¬down ∧ ¬left ∧ right then 1
  else if ¬up ∧ ¬down ∧ ¬left ∧ right then 2
  else if ¬up ∧ down ∧ ¬left ∧ right then 3
  else if ¬up ∧ down ∧ ¬left ∧ ¬right then 4
  else if ¬up ∧ down ∧ left ∧ ¬right then 5
  else if ¬up ∧ ¬down ∧ left ∧ ¬right then 6
  else if up ∧ ¬down ∧ left ∧ ¬right then 7
  else 8

/-- `gip_to_hid`: every field of the report is written. -/
def gipToHid (g : GipInput) (guide : Bool) : HidReport where
  buttons :=
    whenSet g.buttons btnA hidBtnA ||| whenSet g.buttons btnB hidBtnB |||
    whenSet g.buttons btnX hidBtnX ||| whenSet g.buttons btnY hidBtnY |||
    whenSet g.buttons btnLb hidBtnLb ||| whenSet g.buttons btnRb hidBtnRb |||
    whenSet g.buttons btnMenu hidBtnMenu ||| whenSet g.buttons btnView hidBtnView |||
    whenSet g.buttons btnLs hidBtnLs ||| whenSet g.buttons btnRs hidBtnRs |||
    whenSet g.buttons btnSync hidBtnSync ||| (if guide then hidBtnGuide else 0)
  hat := hatOf g.buttons
  lx := g.stickLx
  ly := g.stickLy
  rx := g.stickRx
  ry := g.stickRy
  lt := g.triggerL
  rt := g.triggerR

/-! ## The buttons bit by bit -/

/-- A translated flag shows the bit it is translated from. -/
theorem bitAt_whenSet (x : UInt16) {bit flag : UInt16} (hbit : bit.toNat < 16)
    (hflag : flag.toNat < 16) (k : Nat) :
    bitAt (whenSet x ((1 : UInt16) <<< bit) ((1 : UInt16) <<< flag)) k =
      (bitAt x bit.toNat && decide (flag.toNat = k)) := by
  rw [whenSet]
  split
  next hset => rw [(Machine.and_bit_ne_zero hbit x).mp hset, Machine.bitAt_bit hflag, Bool.true_and]
  next hclear =>
    rw [Bool.eq_false_of_not_eq_true (mt (Machine.and_bit_ne_zero hbit x).mpr hclear),
      Machine.bitAt_zero, Bool.false_and]

theorem gipToHid_bitAt (g : GipInput) (guide : Bool) (k : Nat) :
    bitAt (gipToHid g guide).buttons k =
      (bitAt g.buttons 4 && decide (0 = k) || bitAt g.buttons 5 && decide (1 = k) ||
      bitAt g.buttons 6 && decide (2 = k) || bitAt g.buttons 7 && decide (3 = k) ||
      bitAt g.buttons 12 && decide (4 = k) || bitAt g.buttons 13 && decide (5 = k) ||
      bitAt g.buttons 2 && decide (6 = k) || bitAt g.buttons 3 && decide (7 = k) ||
      bitAt g.buttons 14 && decide (8 = k) || bitAt g.buttons 15 && decide (9 = k) ||
      bitAt g.buttons 0 && decide (12 = k) || guide && decide (10 = k)) := by
  have hguide : bitAt (if guide then hidBtnGuide else 0) k = (guide && decide (10 = k)) := by
    cases guide with
    | true => exact Machine.bitAt_bit (by decide) k
    | false => exact Machine.bitAt_zero k
  simp only [gipToHid, Machine.bitAt_or, hguide, btnA, btnB, btnX, btnY, btnLb, btnRb, btnMenu,
    btnView, btnLs, btnRs, btnSync, hidBtnA, hidBtnB, hidBtnX, hidBtnY, hidBtnLb, hidBtnRb,
    hidBtnMenu, hidBtnView, hidBtnLs, hidBtnRs, hidBtnSync]
  simp (disch := decide) only [bitAt_whenSet]
  rfl

theorem hatOf_le (buttons : UInt16) : (hatOf buttons).toNat ≤ 8 := by
  simp only [hatOf]
  repeat' split
  all_goals decide

end XoneDarwin
