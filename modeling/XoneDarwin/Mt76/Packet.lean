import XoneDarwin.Mt76.Usb

/-!
# Packets on the command endpoint

MCU commands and 802.11 frames share EP 0x04 and are told apart by their first
word. `wire?` reads a packet the way the dongle does; the two round-trip
theorems say that it recovers what the encoders were given.
-/

namespace XoneDarwin

open Machine (Emits)

abbrev cmdPacketTx : UInt8 := 0
abbrev mcuCmdFunSetOp : UInt8 := 1
abbrev mcuCmdLoadCr : UInt8 := 2
abbrev mcuCmdInternalFwOp : UInt8 := 3
abbrev mcuCmdBurstWrite : UInt8 := 8
abbrev mcuCmdPowerSavingOp : UInt8 := 20
abbrev mcuCmdSwitchChannel : UInt8 := 30
abbrev mcuCmdCalibrationOp : UInt8 := 31

abbrev mcuCpuTxPort : UInt32 := 2
abbrev txInfoNormal : UInt32 := 0
abbrev txInfoCmd : UInt32 := 1

/-- The bulk OUT endpoint of all packets below, also `MT_WLAN_TX_EP`. -/
abbrev epCmd : UInt8 := 0x04

/-! ## Encoders -/

/-- `mt76_make_txinfo_cmd`. -/
def mt76MakeTxinfoCmd (cmd : UInt8) (len : UInt16) : UInt32 :=
  len.toUInt32 ||| ((0 : UInt32) <<< 16) ||| (cmd.toUInt32 <<< 20) |||
    (mcuCpuTxPort <<< 27) ||| (txInfoCmd <<< 30)

/-- `mt76_make_txinfo_fw`. -/
def mt76MakeTxinfoFw (len : UInt16) : UInt32 :=
  len.toUInt32 ||| (mcuCpuTxPort <<< 27) ||| (txInfoNormal <<< 30)

/-- The buffer `mt76_mcu_cmd` sends: TxInfo word, data, padding, zero terminator. -/
def mcuPacket (cmd : UInt8) (data : List UInt8) : List UInt8 :=
  store32 (mt76MakeTxinfoCmd cmd (UInt16.ofNat (data.length + pad4 data.length))) ++
    (data ++ List.replicate (pad4 data.length) 0 ++ List.replicate 4 0)

/-- The TxInfo word of `mt76_wlan_tx`: is80211, wiv, qsel = EDCA. -/
def wlanTxinfo (len : UInt32) : UInt32 :=
  len ||| ((1 : UInt32) <<< 19) ||| ((1 : UInt32) <<< 24) ||| ((2 : UInt32) <<< 25)

/-- The TxWi of `mt76_wlan_tx`. -/
def wlanTxwi (frame : List UInt8) (wcid : UInt8) : List UInt8 :=
  let dstIsMulticast := frame.length ≥ 10 ∧ byteAt frame 4 &&& 0x01 ≠ 0
  [0x00, 0x00, 0x00, 0x20, if dstIsMulticast then 0x00 else 0x01, wcid,
    UInt8.ofNat frame.length, UInt8.ofNat (frame.length / 0x100) &&& 0x3f] ++
    List.replicate 12 0

/-- The packet `mt76_wlan_tx` assembles. -/
def wlanPacket (frame : List UInt8) (wcid : UInt8) : List UInt8 :=
  let mpduLen := 20 + frame.length
  store32 (wlanTxinfo (UInt32.ofNat (mpduLen + pad4 mpduLen))) ++
    (wlanTxwi frame wcid ++ (frame ++ List.replicate (pad4 mpduLen) 0 ++ List.replicate 4 0))

section

variable (dongle : Dongle)

/-- `mt76_mcu_cmd`: a timeout counts as sent. -/
def mt76McuCmd (cmd : UInt8) (data : List UInt8) (log : UsbLog) : Int × UsbLog :=
  let sent := bulkTransfer dongle epCmd (mcuPacket cmd data) log
  (if sent.1 ≠ .success ∧ sent.1 ≠ .timeout then -1 else 0, sent.2)

/-- `mt76_mcu_u32`. -/
def mt76McuU32 (cmd : UInt8) (val : UInt32) (log : UsbLog) : Int × UsbLog :=
  mt76McuCmd dongle cmd (store32 val) log

/-- `mt76_wlan_tx`. -/
def mt76WlanTx (frame : List UInt8) (wcid : UInt8) (log : UsbLog) : Int × UsbLog :=
  if frame.length > 2048 then (-1, log)
  else
    let sent := bulkTransfer dongle epCmd (wlanPacket frame wcid) log
    (if sent.1 ≠ .success then -1 else 0, sent.2)

end

/-! ## Reading packets back -/

/-- What a packet asks of the dongle. -/
inductive Wire
  | mcu (cmd : UInt8) (payload : List UInt8)
  | wlan (wcid : UInt8) (frame : List UInt8)
  deriving DecidableEq

/-- The dongle's reading of a packet: TxInfo type 1 on the CPU port is a command,
type 0 on the WLAN port with is80211 a frame. -/
def wire? (packet : List UInt8) : Option Wire :=
  let info := (load32 packet).toNat
  if info / 0x40000000 = 1 ∧ info / 0x8000000 % 8 = 2 then
    some (.mcu (UInt8.ofNat (info / 0x100000 % 128)) ((packet.drop 4).take (info % 0x10000)))
  else if info / 0x40000000 = 0 ∧ info / 0x8000000 % 8 = 0 ∧ info / 0x80000 % 2 = 1 then
    some (.wlan (byteAt packet 9)
      ((packet.drop 24).take ((byteAt packet 10).toNat + 0x100 * ((byteAt packet 11).toNat % 64))))
  else none

private theorem or_shiftLeft_toNat {low high : Nat} (width : Nat) (hlow : low < 1 <<< width) :
    low ||| high <<< width = low + high <<< width := by
  rw [Nat.one_shiftLeft] at hlow
  rw [Nat.or_comm, ← Nat.shiftLeft_add_eq_or_of_lt hlow, Nat.add_comm]

theorem mt76MakeTxinfoCmd_toNat {cmd : UInt8} (len : UInt16) (hcmd : cmd.toNat < 128) :
    (mt76MakeTxinfoCmd cmd len).toNat =
      len.toNat + cmd.toNat * 0x100000 + 2 * 0x8000000 + 0x40000000 := by
  have hlen := len.toNat_lt
  have hshift : cmd.toNat <<< 20 % 2 ^ 32 = cmd.toNat <<< 20 := by
    rw [Nat.shiftLeft_eq]
    omega
  have hport : (2 : Nat) <<< 27 % 2 ^ 32 = 2 <<< 27 := by decide
  have htype : (1 : Nat) <<< 30 % 2 ^ 32 = 1 <<< 30 := by decide
  simp only [mt76MakeTxinfoCmd, mcuCpuTxPort, txInfoCmd, UInt32.toNat_or, UInt32.toNat_shiftLeft,
    UInt16.toNat_toUInt32, UInt8.toNat_toUInt32, UInt32.reduceToNat, Nat.reduceMod,
    Nat.zero_shiftLeft, Nat.zero_mod, Nat.or_zero, hshift, hport, htype]
  rw [or_shiftLeft_toNat 20 (by omega), or_shiftLeft_toNat 27 (by omega),
    or_shiftLeft_toNat 30 (by omega)]
  omega

theorem wlanTxinfo_toNat {len : UInt32} (hlen : len.toNat < 0x10000) :
    (wlanTxinfo len).toNat = len.toNat + 0x80000 + 0x1000000 + 2 * 0x2000000 := by
  have h19 : (1 : Nat) <<< 19 % 2 ^ 32 = 1 <<< 19 := by decide
  have h24 : (1 : Nat) <<< 24 % 2 ^ 32 = 1 <<< 24 := by decide
  have h25 : (2 : Nat) <<< 25 % 2 ^ 32 = 2 <<< 25 := by decide
  simp only [wlanTxinfo, UInt32.toNat_or, UInt32.toNat_shiftLeft, UInt32.reduceToNat,
    Nat.reduceMod, h19, h24, h25]
  rw [or_shiftLeft_toNat 19 (by omega), or_shiftLeft_toNat 24 (by omega),
    or_shiftLeft_toNat 25 (by omega)]
  rfl

theorem mt76MakeTxinfoFw_toNat (len : UInt16) :
    (mt76MakeTxinfoFw len).toNat = len.toNat + 2 * 0x8000000 := by
  have hlen := len.toNat_lt
  have hport : (2 : Nat) <<< 27 % 2 ^ 32 = 2 <<< 27 := by decide
  simp only [mt76MakeTxinfoFw, mcuCpuTxPort, txInfoNormal, UInt32.toNat_or,
    UInt32.toNat_shiftLeft, UInt16.toNat_toUInt32, UInt32.reduceToNat, Nat.reduceMod,
    Nat.zero_shiftLeft, Nat.zero_mod, Nat.or_zero, hport]
  rw [or_shiftLeft_toNat 27 (by omega)]
  rfl

/-- A firmware chunk is neither a command nor a frame. -/
theorem wire?_fwChunk (len : UInt16) (rest : List UInt8) :
    wire? (store32 (mt76MakeTxinfoFw len) ++ rest) = none := by
  have hlen := len.toNat_lt
  unfold wire?
  rw [load32_store32, mt76MakeTxinfoFw_toNat]
  rw [if_neg (by omega), if_neg (by omega)]

theorem mcuTxinfo_toNat {cmd : UInt8} {data : List UInt8} (hcmd : cmd.toNat < 128)
    (hdata : data.length < 0x10000 - 3) :
    (mt76MakeTxinfoCmd cmd (UInt16.ofNat (data.length + pad4 data.length))).toNat =
      data.length + pad4 data.length + cmd.toNat * 0x100000 + 2 * 0x8000000 + 0x40000000 := by
  have hpad := pad4_lt data.length
  have hlen : (UInt16.ofNat (data.length + pad4 data.length)).toNat =
      data.length + pad4 data.length := by
    rw [UInt16.toNat_ofNat']
    omega
  rw [mt76MakeTxinfoCmd_toNat _ hcmd, hlen]

/-- The dongle reads an MCU packet as its command and zero-padded data. -/
theorem wire?_mcuPacket {cmd : UInt8} {data : List UInt8} (hcmd : cmd.toNat < 128)
    (hdata : data.length < 0x10000 - 3) :
    wire? (mcuPacket cmd data) =
      some (.mcu cmd (data ++ List.replicate (pad4 data.length) 0)) := by
  have hpad := pad4_lt data.length
  have hinfo := mcuTxinfo_toNat hcmd hdata
  have hcmdByte : UInt8.ofNat cmd.toNat = cmd := UInt8.ofNat_toNat
  unfold wire? mcuPacket
  rw [load32_store32]
  simp only [hinfo]
  rw [if_pos (by omega)]
  have hfield : (data.length + pad4 data.length + cmd.toNat * 0x100000 + 2 * 0x8000000 +
      0x40000000) / 0x100000 % 128 = cmd.toNat := by omega
  have hcount : (data.length + pad4 data.length + cmd.toNat * 0x100000 + 2 * 0x8000000 +
      0x40000000) % 0x10000 = data.length + pad4 data.length := by omega
  rw [hfield, hcount, hcmdByte, List.drop_append_of_le_length (by simp),
    List.drop_of_length_le (by simp), List.nil_append, List.take_append_of_le_length (by simp),
    List.take_of_length_le (by simp)]

theorem wlanTxinfo_frame {frame : List UInt8} (hframe : frame.length ≤ 2048) :
    (wlanTxinfo (UInt32.ofNat (20 + frame.length + pad4 (20 + frame.length)))).toNat =
      20 + frame.length + pad4 (20 + frame.length) + 0x80000 + 0x1000000 + 2 * 0x2000000 := by
  have hpad := pad4_lt (20 + frame.length)
  have hlen : (UInt32.ofNat (20 + frame.length + pad4 (20 + frame.length))).toNat =
      20 + frame.length + pad4 (20 + frame.length) := by
    rw [UInt32.toNat_ofNat']
    omega
  rw [wlanTxinfo_toNat (by omega), hlen]

/-- The dongle reads a WLAN packet as its WCID and frame. -/
theorem wire?_wlanPacket {frame : List UInt8} (wcid : UInt8) (hframe : frame.length ≤ 2048) :
    wire? (wlanPacket frame wcid) = some (.wlan wcid frame) := by
  have hpad := pad4_lt (20 + frame.length)
  have hinfo := wlanTxinfo_frame hframe
  have hlow : (UInt8.ofNat frame.length).toNat = frame.length % 256 := UInt8.toNat_ofNat'
  have hhigh : (UInt8.ofNat (frame.length / 0x100) &&& 0x3f).toNat % 64 =
      frame.length / 0x100 := by
    rw [UInt8.toNat_and, UInt8.toNat_ofNat']
    have hmask : (0x3f : UInt8).toNat = 2 ^ 6 - 1 := rfl
    rw [hmask, Nat.and_two_pow_sub_one_eq_mod]
    omega
  unfold wire? wlanPacket
  rw [load32_store32]
  simp only [hinfo]
  rw [if_neg (by omega), if_pos (by omega)]
  have hcount : frame.length % 256 + 0x100 * (frame.length / 0x100) = frame.length := by omega
  simp only [store32, wlanTxwi, List.cons_append, List.nil_append, byteAt_cons_succ,
    byteAt_cons_zero, hlow, hhigh, hcount, List.drop_succ_cons, List.drop_zero,
    List.replicate_succ, List.replicate_zero]
  rw [List.append_assoc, List.take_append_of_le_length (by simp), List.take_length]

/-! ## What an encoder leaves on the bus -/

variable (dongle : Dongle)

theorem mt76McuCmd_emits {P : UsbIo → Prop} {cmd : UInt8} {data : List UInt8}
    (hpacket : ∀ status, P (.bulkOut epCmd (mcuPacket cmd data) status)) (log : UsbLog) :
    Emits P log (mt76McuCmd dongle cmd data log).2 :=
  Emits.one (hpacket _)

/-- The packet an entry put on EP 0x04, as the dongle reads it. -/
def UsbIo.wire? : UsbIo → Option Wire
  | .bulkOut _ packet _ => XoneDarwin.wire? packet
  | _ => none

end XoneDarwin
