import XoneDarwin.Mt76.Efuse
import XoneDarwin.Mt76.Packet

/-!
# Radio initialisation, beacon and pairing scan

The functions of `mt76_init.h` that run after the firmware: register set-up, the
adapter's address, channels, the beacon and the channel rotation of the small
dongle.
-/

namespace XoneDarwin

open Machine (Emits)

abbrev mcuQSelect : UInt32 := 1
abbrev mcuRadioOn : UInt32 := 0x31
abbrev mcuRfBbpCr : UInt32 := 2
abbrev mcuCalTempSensor : UInt32 := 2
abbrev mcuCalRxdcoc : UInt32 := 3
abbrev mcuCalRc : UInt32 := 4
abbrev mcuChBw20 : UInt8 := 0
abbrev mcuChBw40 : UInt8 := 1
abbrev mcuChBw80 : UInt8 := 2
abbrev fwCmdMacAddrSet : UInt32 := 0
abbrev fwCmdClientAdd : UInt32 := 1
abbrev fwCmdChCandidates : UInt32 := 7
abbrev mtBeaconBase : UInt32 := 0xc000
abbrev mtRegisterOffset : UInt32 := 0x410000

/-- The constant register writes of `mt76_init_registers` before the crystal trim. -/
def initRegisterWrites : List (UInt16 × UInt32) :=
  [(0x1004, 0x03), (0x0238, 0), (0x1004, 0), (0x1204, 0), (0x0070, 0x6b006464),
    (0x0208, 0x70), (0x0214, 0x2273), (0x0218, 0x2344), (0x021c, 0x34aa),
    (0x0230, 0x041200), (0x0250, 0), (0x0400, 0x080c00), (0x0408, 0x1fbf1f1f),
    (0x0800, 0x01), (0x1004, 0x0c), (0x1404, 0x13), (0x1018, 0x3e3fff),
    (0x1030, 0xfffc9855), (0x1034, 0xff), (0x1104, 0x0109), (0x1204, 0),
    (0x1300, 0x064320), (0x1304, 0x0a4700), (0x1308, 0x043238), (0x130c, 0x03212f),
    (0x1328, 0x150f0f), (0x1330, 0x101001), (0x1334, 0x010000), (0x1340, 0x10583f),
    (0x1348, 0x0a0f90), (0x134c, 0x47d01f0f), (0x1364, 0x03f40003), (0x1368, 0x03f40003),
    (0x136c, 0x01742004), (0x1374, 0x01742004), (0x1378, 0x03f42084), (0x1380, 0x2c00dc),
    (0x13a8, 0x22160a00), (0x13ac, 0x22160a76), (0x13b0, 0x3f3f1818), (0x13c0, 0x0606),
    (0x13ec, 0x060fff), (0x1400, 0x017f17), (0x1408, 0x017f), (0x140c, 0x8003),
    (0x150c, 0x02), (0x1608, 0x02), (0x13e0, 0xe3f42004), (0x13e4, 0xe3f42084),
    (0x13e8, 0xe3f42104), (0x1264, 0), (0x1228, 0xee000000), (0x122c, 0xee000000),
    (0x13a0, 0x0f3c3c3c), (0x13a4, 0x0f3c3c3c), (0x0404, 0x1efebcf5), (0x0a38, 0x0a),
    (0x0504, 0x7f000000), (0x050c, 0x1a800000), (0x1100, 0x33a40e0a), (0x080c, 0x03ff0223),
    (0x1344, 0), (0x1114, 0x0064), (0x141c, 0xf0e4), (0x110c, 0x015f)]

variable (dongle : Dongle)

/-- The signed crystal offset in the low byte of the second trim word. -/
def xtalOffset (xtal : UInt16) : Int :=
  if xtal &&& 0xff = 0xff then 0
  else if xtal &&& 0x80 ≠ 0 then -((xtal &&& 0x7f).toNat : Int)
  else (xtal &&& 0x7f).toNat

/-- The crystal trim `mt76_init_registers` derives from EFUSE, as a `uint8_t`. -/
def xtalTrim (log : UsbLog) : UInt8 × UsbLog :=
  let trim2 := mt76EfuseRead dongle mtEeXtalTrim2 4 log
  let xtal := load16 (trim2.2.1.drop 2)
  let high := (xtal >>> 8).toUInt8
  let base : UInt8 × UsbLog :=
    if high = 0x00 ∨ high = 0xff then
      let trim1 := mt76EfuseRead dongle mtEeXtalTrim1 4 trim2.2.2
      let low := byteAt trim1.2.1 2
      (if low = 0x00 ∨ low = 0xff then 0x14 else low, trim1.2.2)
    else (high, trim2.2.2)
  (UInt8.ofInt ((base.1 &&& 0x7f).toNat + xtalOffset xtal), base.2)

/-- `mt76_init_registers`; it always returns 0. -/
def mt76InitRegisters (log : UsbLog) : UsbLog :=
  let trim := xtalTrim dongle (mt76Writes dongle initRegisterWrites log)
  let xo5 := mt76CtrlRead dongle mtXoCtrl5 mtVendMultiRead trim.2
  let val := (xo5.1 &&& ~~~(0x7f00 : UInt32)) ||| ((trim.1.toUInt32 <<< 8) &&& 0x7f00)
  let log := mt76CtrlWrite dongle mtXoCtrl5 val mtVendWriteCfg xo5.2
  let log := mt76CtrlWrite dongle mtXoCtrl6 0x7f00 mtVendWriteCfg log
  mt76Writes dongle [(0x0020, 0x0091a7ff), (0x2320, 0x18365efa), (0x2324, 0x18365efa)] log

/-! ## Address -/

/-- The prefix rule of `mt76_read_mac`: only a foreign first byte is corrected. -/
def correctPrefix (mac : Mac) : Mac :=
  if mac.b0 ≠ 0x62 then { mac with b0 := 0x62, b1 := 0x45, b2 := 0xbd } else mac

/-- `mt76_read_mac`; `none` is its error return. -/
def mt76ReadMac (log : UsbLog) : Option Mac × UsbLog :=
  let raw := mt76EfuseRead dongle mtEeMacAddr 6 log
  if raw.1 ≠ some 0 then (none, raw.2.2)
  else (some (correctPrefix (Mac.load raw.2.1)), raw.2.2)

/-- `mt76_write_mac_hw`: two register pairs and a read-back for the log. -/
def mt76WriteMacHw (mac : Mac) (log : UsbLog) : UsbLog :=
  let dw0 := load32 mac.bytes
  let dw1 := (load16 (mac.bytes.drop 4)).toUInt32
  let log := mt76Writes dongle
    [(mtMacAddrDw0, dw0), (mtMacAddrDw1, dw1), (mtMacBssidDw0, dw0), (mtMacBssidDw1, dw1)] log
  (mt76R dongle mtMacAddrDw1 (mt76R dongle mtMacAddrDw0 log).2).2

/-- `mt76_add_wcid`. -/
def mt76AddWcid (wcid : UInt8) (mac : Mac) (log : UsbLog) : UsbLog :=
  let base := mtWcidAddrBase + wcid.toUInt16 * 8
  mt76Writes dongle
    [(base, load32 mac.bytes), (base + 4, (load16 (mac.bytes.drop 4)).toUInt32)] log

/-! ## Channels -/

/-- `mt76_ch_cfg_t` as `mt76_configure_channel` fills it. -/
def channelConfig (ch bw scan power : UInt8) : List UInt8 :=
  [ch, 0, 0, 0, 0x01, 0x01, 0, 0, 0, 0, 0, 0, 0, 0, 0, 0, bw, power, scan, 0]

/-- `mt76_configure_channel`. -/
def mt76ConfigureChannel (ch bw scan power : UInt8) (log : UsbLog) : Int × UsbLog :=
  mt76McuCmd dongle mcuCmdSwitchChannel (channelConfig ch bw scan power) log

/-- The transmit power `mt76_init_channels` takes from EFUSE. -/
def channelPower (log : UsbLog) : UInt8 × UsbLog :=
  let efuse := mt76EfuseRead dongle 0x00 4 log
  let val := load16 (efuse.2.1.drop 2)
  if efuse.1 = some 0 ∧ val ≠ 0 ∧ val ≠ 0xffff then
    let pwr := (val >>> 8).toUInt8 &&& 0x3f
    (if pwr < 0x10 then 0x10 else if pwr > 0x30 then 0x30 else pwr, efuse.2.2)
  else (0x18, efuse.2.2)

/-- Channel, bandwidth and scan flag of the twelve channels `mt76_init_channels` visits. -/
def initChannels : List (UInt8 × UInt8 × UInt8) :=
  [(0x01, mcuChBw20, 1), (0x06, mcuChBw20, 1), (0x0b, mcuChBw20, 1), (0x24, mcuChBw40, 1),
    (0x28, mcuChBw40, 0), (0x2c, mcuChBw40, 1), (0x30, mcuChBw40, 0), (0x95, mcuChBw80, 1),
    (0x99, mcuChBw80, 0), (0x9d, mcuChBw80, 1), (0xa1, mcuChBw80, 0), (0xa5, mcuChBw80, 0)]

/-- The candidate list as little-endian words. -/
def channelCandidates : List UInt8 :=
  [0x01, 0xa5, 0x0b, 0x01, 0x06, 0x0b, 0x24, 0x28, 0x2c, 0x30, 0x95, 0x99, 0x9d, 0xa1].flatMap
    fun ch => [ch, 0, 0, 0]

/-- `mt76_init_channels`. -/
def mt76InitChannels (log : UsbLog) : Int × UsbLog :=
  let pwr := channelPower dongle log
  let log := initChannels.foldl
    (fun log ch => (mt76ConfigureChannel dongle ch.1 ch.2.1 ch.2.2 pwr.1 log).2) pwr.2
  mt76McuCmd dongle mcuCmdInternalFwOp (store32 fwCmdChCandidates ++ channelCandidates) log

/-- `mt76_fw_client_add`. -/
def mt76FwClientAdd (wcid : UInt8) (log : UsbLog) : Int × UsbLog :=
  if wcid = 0 then (-1, log)
  else
    mt76McuCmd dongle mcuCmdInternalFwOp
      (store32 fwCmdClientAdd ++ [wcid - 1, 0, 0, 0, 0x40, 0x1f, 0, 0]) log

/-! ## Beacon -/

/-- The pairing marker shared by beacons and probe responses. -/
def vendorIe : List UInt8 :=
  [0xdd, 0x10, 0x00, 0x50, 0xf2, 0x11, 0x01, 0x10, 0x00, 0x24, 0x9d, 0x99, 0, 0, 0, 0, 0, 0]

/-- Address word, TxWi, 802.11 header, fixed parameters, DS element, vendor element. -/
def beaconPayload (mac : Mac) (channel : UInt8) : List UInt8 :=
  store32 (mtBeaconBase + mtRegisterOffset) ++
    [0x08, 0, 0, 0x20, 0x02, 0, 0x3b, 0x00, 0, 0, 0, 0, 0, 0, 0, 0, 0, 0, 0, 0] ++
    [0x80, 0x00, 0, 0, 0xff, 0xff, 0xff, 0xff, 0xff, 0xff] ++ mac.bytes ++ mac.bytes ++ [0, 0] ++
    [0, 0, 0, 0, 0, 0, 0, 0, 0x64, 0x00, 0x31, 0xc6, 0, 0] ++ [0x03, 0x01, channel] ++ vendorIe

/-- An eight-byte calibration command. -/
def calibrate (type val : UInt32) (log : UsbLog) : UsbLog :=
  (mt76McuCmd dongle mcuCmdCalibrationOp (store32 type ++ store32 val) log).2

/-- TSF timer, TSF sync mode 3, TBTT timer, transmit beacon. -/
def beaconTimeBits : UInt32 :=
  ((1 : UInt32) <<< 16) ||| ((3 : UInt32) <<< 17) ||| ((1 : UInt32) <<< 19) |||
    ((1 : UInt32) <<< 20)

/-- `mt76_write_beacon`. The source reads `pairing` in a log line only. -/
def mt76WriteBeacon (mac : Mac) (_pairing : Int) (channel : UInt8) (log : UsbLog) :
    Int × UsbLog :=
  let sent := mt76McuCmd dongle mcuCmdBurstWrite (beaconPayload mac channel) log
  if sent.1 ≠ 0 then (-1, sent.2)
  else
    let btcfg := mt76R dongle mtBeaconTimeCfg sent.2
    let log := mt76W dongle mtBeaconTimeCfg (btcfg.1 ||| beaconTimeBits) btcfg.2
    (0, calibrate dongle mcuCalRxdcoc 0 (mt76R dongle mtBeaconTimeCfg log).2)

/-! ## Initialisation and scan -/

/-- The address `mt76_radio_init` falls back to. -/
def fallbackMac : Mac := ⟨0x62, 0x45, 0xbd, 0x01, 0x02, 0x03⟩

/-- Steps 1 to 4: queue, radio, BBP, registers. -/
def radioBringUp (log : UsbLog) : UsbLog :=
  let log := (mt76McuCmd dongle mcuCmdFunSetOp (store32 mcuQSelect ++ store32 1) log).2
  let log := (mt76McuU32 dongle mcuCmdPowerSavingOp mcuRadioOn log).2
  let log := (mt76McuU32 dongle mcuCmdLoadCr mcuRfBbpCr log).2
  mt76InitRegisters dongle log

/-- Step 5, first half: the adapter's address. -/
def radioMac (log : UsbLog) : Mac × UsbLog :=
  let mac := mt76ReadMac dongle log
  (mac.1.getD fallbackMac, mac.2)

/-- Steps 5 (second half) to 9.5: program the address, calibrate, enable the MAC and DMA. -/
def radioEnable (mac : Mac) (log : UsbLog) : UsbLog :=
  let log := mt76WriteMacHw dongle mac log
  let log := (mt76McuCmd dongle mcuCmdInternalFwOp (store32 fwCmdMacAddrSet ++ mac.bytes) log).2
  let log := mt76Writes dongle [(mtMacSysCtrl, 0), (mtRfBypass0, 0), (mtRfSetting0, 0)] log
  let log := calibrate dongle mcuCalTempSensor 0 log
  let log := calibrate dongle mcuCalRxdcoc 1 log
  let log := calibrate dongle mcuCalRc 0 log
  let log := mt76W dongle mtMacSysCtrl 0x0c log
  let dma : UInt32 := ((1 : UInt32) <<< 22) ||| ((1 : UInt32) <<< 23)
  let log := mt76CtrlWrite dongle mtUsbU3dmaCfg dma mtVendWriteCfg log
  (mt76R dongle mtUsbDmaCfg (mt76W dongle mtUsbDmaCfg dma log)).2

/-- The status dump at the end. -/
def radioStatus (log : UsbLog) : UsbLog :=
  [mtMacSysCtrl, mtUsbDmaCfg, mtBeaconTimeCfg, mtMacBssidDw0].foldl
    (fun log addr => (mt76R dongle addr log).2) log

/-- `mt76_radio_init`: the address it stores through `mac_out`, `none` on its error returns. -/
def mt76RadioInit (log : UsbLog) : Option Mac × UsbLog :=
  let asic := mt76R dongle mtAsicVersion log
  if asic.1 = 0x00000000 ∨ asic.1 = 0xffffffff then (none, asic.2)
  else
    let mac := radioMac dongle (radioBringUp dongle asic.2)
    let channels := mt76InitChannels dongle (radioEnable dongle mac.1 mac.2)
    if channels.1 ≠ 0 then (none, channels.2)
    else
      let tuned := mt76ConfigureChannel dongle 0x2c mcuChBw20 1 0x18 channels.2
      if tuned.1 ≠ 0 then (none, tuned.2)
      else
        let beacon := mt76WriteBeacon dongle mac.1 1 0x2c tuned.2
        if beacon.1 ≠ 0 then (none, beacon.2)
        else (some mac.1, radioStatus dongle beacon.2)

/-- The static variables of `mt76_pairing_channel_scan`. -/
structure ScanState where
  chIdx : Fin 4 := 0
  lastSwitch : UInt64 := 0
  mac : Mac := ⟨0, 0, 0, 0, 0, 0⟩

/-- Their values before the first call. -/
def scanInit : ScanState := {}

/-- `scan_channels`. -/
def scanChannel (idx : Fin 4) : UInt8 :=
  [0x24, 0x28, 0x2c, 0x30].get idx

/-- The MAC look-up of the first scan: the prefix is always replaced. -/
def scanMac (mac : Mac) (log : UsbLog) : Mac × UsbLog :=
  if mac.b0 = 0 then
    let efuse := mt76EfuseRead dongle 0x00 16 log
    if efuse.1 = some 0 then
      ({ Mac.load (efuse.2.1.drop 4) with b0 := 0x62, b1 := 0x45, b2 := 0xbd }, efuse.2.2)
    else (mac, efuse.2.2)
  else (mac, log)

/-- Whether a scan at clock reading `now` leaves the channel of `state`. -/
def ScanState.Due (state : ScanState) (now : UInt64) : Prop :=
  now - state.lastSwitch > 2000

instance (state : ScanState) (now : UInt64) : Decidable (state.Due now) :=
  inferInstanceAs (Decidable (_ > _))

/-- `mt76_pairing_channel_scan` with clock reading `now`. -/
def mt76PairingChannelScan (now : UInt64) (state : ScanState) (log : UsbLog) :
    UInt8 × ScanState × UsbLog :=
  let mac := scanMac dongle state.mac log
  if state.Due now then
    let chIdx := state.chIdx + 1
    let tuned := mt76ConfigureChannel dongle (scanChannel chIdx) mcuChBw20 1 0x18 mac.2
    let log :=
      if mac.1.b0 ≠ 0 then (mt76WriteBeacon dongle mac.1 1 (scanChannel chIdx) tuned.2).2
      else tuned.2
    (scanChannel chIdx, ⟨chIdx, now, mac.1⟩, log)
  else (scanChannel state.chIdx, { state with mac := mac.1 }, mac.2)

end XoneDarwin
