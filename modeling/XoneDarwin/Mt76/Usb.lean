import XoneDarwin.Bytes
import XoneDarwin.Machine.Emission

/-!
# USB transfers

The dongle is a parameter: what it answers may depend on everything that
happened on the bus before. Each transfer is recorded, newest first, together
with its outcome, so a log position determines every later answer.
-/

namespace XoneDarwin

/-- Outcome of a `libusb_bulk_transfer`. -/
inductive UsbStatus
  | success
  | timeout
  | noDevice
  | io
  | pipe
  | other
  deriving DecidableEq

/-- One transfer as the bus saw it. A failed control read has no value. -/
inductive UsbIo
  | ctrlRead (addr : UInt16) (req : UInt8) (val : Option UInt32)
  | ctrlWrite (addr : UInt16) (val : UInt32) (req : UInt8) (ok : Bool)
  | bulkOut (ep : UInt8) (packet : List UInt8) (status : UsbStatus)
  deriving DecidableEq

/-- Transfers so far, newest first. -/
abbrev UsbLog := List UsbIo

/-- The dongle and the bus: the outcome of the next transfer after a history. -/
structure Dongle where
  ctrlRead : UsbLog → UInt16 → UInt8 → Option UInt32
  ctrlWrite : UsbLog → UInt16 → UInt32 → UInt8 → Bool
  bulkOut : UsbLog → UInt8 → List UInt8 → UsbStatus

/-! ## Register map and vendor requests -/

abbrev mtVendDevMode : UInt8 := 0x01
abbrev mtVendMultiWrite : UInt8 := 0x06
abbrev mtVendMultiRead : UInt8 := 0x07
abbrev mtVendWriteCfg : UInt8 := 0x46
abbrev mtVendReadCfg : UInt8 := 0x47

abbrev mtAsicVersion : UInt16 := 0x0000
abbrev mtEfuseCtrl : UInt16 := 0x0024
abbrev mtEfuseDataBase : UInt16 := 0x0028
abbrev mtXoCtrl5 : UInt16 := 0x0114
abbrev mtXoCtrl6 : UInt16 := 0x0118
abbrev mtRfPatch : UInt16 := 0x0130
abbrev mtFceDmaAddr : UInt16 := 0x0230
abbrev mtFceDmaLen : UInt16 := 0x0234
abbrev mtUsbDmaCfg : UInt16 := 0x0238
abbrev mtFcePseCtrl : UInt16 := 0x0800
abbrev mtTxCpuFromFceBasePtr : UInt16 := 0x09a0
abbrev mtTxCpuFromFceMaxCount : UInt16 := 0x09a4
abbrev mtTxCpuFromFceCpuDescIdx : UInt16 := 0x09a8
abbrev mtFcePdmaGlobalConf : UInt16 := 0x09c4
abbrev mtFceSkipFs : UInt16 := 0x0a6c
abbrev mtUsbU3dmaCfg : UInt16 := 0x9018
abbrev mtMacSysCtrl : UInt16 := 0x1004
abbrev mtMacAddrDw0 : UInt16 := 0x1008
abbrev mtMacAddrDw1 : UInt16 := 0x100c
abbrev mtMacBssidDw0 : UInt16 := 0x1010
abbrev mtMacBssidDw1 : UInt16 := 0x1014
abbrev mtRfBypass0 : UInt16 := 0x0504
abbrev mtRfSetting0 : UInt16 := 0x050c
abbrev mtBeaconTimeCfg : UInt16 := 0x1114
abbrev mtWcidAddrBase : UInt16 := 0x1800
/-- Boot commands travel in the address field of a `MT_VEND_DEV_MODE` request. -/
abbrev mtFwResetIvb : UInt16 := 0x01
abbrev mtFwLoadIvb : UInt16 := 0x12

/-! ## What the registers hold -/

/-- A value written to a register, if the transfer succeeded. -/
def UsbIo.written? (addr : UInt16) : UsbIo → Option UInt32
  | .ctrlWrite addr' val req ok =>
      if addr' = addr ∧ req = mtVendMultiWrite ∧ ok = true then some val else none
  | _ => none

/-- The value a register was last written. -/
def register (log : UsbLog) (addr : UInt16) : Option UInt32 :=
  log.findSome? (UsbIo.written? addr)

theorem register_cons (io : UsbIo) (log : UsbLog) (addr : UInt16) :
    register (io :: log) addr = (io.written? addr).or (register log addr) := by
  rw [register, List.findSome?_cons, register]
  cases io.written? addr <;> rfl

/-! ## Transfers -/

variable (dongle : Dongle)

/-- `mt76_ctrl_read`: a failed transfer leaves `val` at its initial 0. -/
def mt76CtrlRead (addr : UInt16) (req : UInt8) (log : UsbLog) : UInt32 × UsbLog :=
  let answer := dongle.ctrlRead log addr req
  (answer.getD 0, .ctrlRead addr req answer :: log)

/-- `mt76_ctrl_write`: failures are only logged to stderr. -/
def mt76CtrlWrite (addr : UInt16) (val : UInt32) (req : UInt8) (log : UsbLog) : UsbLog :=
  .ctrlWrite addr val req (dongle.ctrlWrite log addr val req) :: log

/-- `MT76_W`. -/
def mt76W (addr : UInt16) (val : UInt32) (log : UsbLog) : UsbLog :=
  mt76CtrlWrite dongle addr val mtVendMultiWrite log

/-- `MT76_R`. -/
def mt76R (addr : UInt16) (log : UsbLog) : UInt32 × UsbLog :=
  mt76CtrlRead dongle addr mtVendMultiRead log

/-- A sequence of `MT76_W` statements. -/
def mt76Writes (writes : List (UInt16 × UInt32)) (log : UsbLog) : UsbLog :=
  writes.foldl (fun log write => mt76W dongle write.1 write.2 log) log

/-- `libusb_bulk_transfer` to an OUT endpoint. -/
def bulkTransfer (ep : UInt8) (packet : List UInt8) (log : UsbLog) : UsbStatus × UsbLog :=
  let status := dongle.bulkOut log ep packet
  (status, .bulkOut ep packet status :: log)

/-- `mt76_poll` with `attempts` rounds left: 0 as soon as `fn` stops waiting, else -1. -/
def mt76PollLoop (fn : UsbLog → Bool × UsbLog) : Nat → UsbLog → Int × UsbLog
  | 0, log => (-1, log)
  | attempts + 1, log =>
      let waiting := fn log
      if waiting.1 then mt76PollLoop fn attempts waiting.2 else (0, waiting.2)

/-- `mt76_poll`. -/
def mt76Poll (fn : UsbLog → Bool × UsbLog) (log : UsbLog) : Int × UsbLog :=
  mt76PollLoop fn 200 log

/-- `mt76_poll_fce_done`. -/
def mt76PollFceDone (expected : UInt32) (log : UsbLog) : Bool × UsbLog :=
  let val := mt76CtrlRead dongle mtFceDmaLen mtVendReadCfg log
  (val.1 != expected, val.2)

/-- `mt76_poll_efuse_kick`. -/
def mt76PollEfuseKick (log : UsbLog) : Bool × UsbLog :=
  let val := mt76CtrlRead dongle mtEfuseCtrl mtVendMultiRead log
  ((val.1 >>> 30) &&& 1 != 0, val.2)

/-! ## Control transfers leave no packet behind -/

/-- Entries that are control transfers. -/
def UsbIo.IsCtrl : UsbIo → Prop
  | .ctrlRead .. => True
  | .ctrlWrite .. => True
  | .bulkOut .. => False

open Machine (Emits)

theorem mt76CtrlRead_emits (addr : UInt16) (req : UInt8) (log : UsbLog) :
    Emits UsbIo.IsCtrl log (mt76CtrlRead dongle addr req log).2 :=
  Emits.one trivial

theorem mt76CtrlWrite_emits (addr : UInt16) (val : UInt32) (req : UInt8) (log : UsbLog) :
    Emits UsbIo.IsCtrl log (mt76CtrlWrite dongle addr val req log) :=
  Emits.one trivial

/-- A sequence of `MT76_W` statements leaves its writes. -/
theorem mt76Writes_entries {P : UsbIo → Prop}
    (hwrite : ∀ addr val ok, P (.ctrlWrite addr val mtVendMultiWrite ok))
    (writes : List (UInt16 × UInt32)) (log : UsbLog) :
    Emits P log (mt76Writes dongle writes log) := by
  induction writes generalizing log with
  | nil => exact Emits.refl log
  | cons write rest ih => exact (Emits.one (hwrite write.1 write.2 _)).trans (ih _)

theorem mt76Writes_emits (writes : List (UInt16 × UInt32)) (log : UsbLog) :
    Emits UsbIo.IsCtrl log (mt76Writes dongle writes log) :=
  mt76Writes_entries dongle (fun _ _ _ => trivial) writes log

/-- A poll emits what its test emits. -/
theorem mt76Poll_emits {P : UsbIo → Prop} {fn : UsbLog → Bool × UsbLog}
    (hfn : ∀ log, Emits P log (fn log).2) (log : UsbLog) :
    Emits P log (mt76Poll fn log).2 := by
  suffices h : ∀ attempts log, Emits P log (mt76PollLoop fn attempts log).2 from h 200 log
  intro attempts
  induction attempts with
  | zero => exact fun log => Emits.refl log
  | succ attempts ih =>
      intro log
      simp only [mt76PollLoop]
      split
      · exact (hfn log).trans (ih _)
      · exact hfn log

end XoneDarwin
