import XoneDarwin.Mt76.Firmware
import XoneDarwin.Mt76.Radio

/-!
# What initialisation puts on the bus

Beacons, channel switches and probe responses as the dongle reads them, and one
emission lemma per radio function: everything else is housework, that is control
transfers and MCU commands nobody on the air notices.
-/

namespace XoneDarwin

open Machine (Emits)

/-! ## Recognising packets -/

/-- The fields of a beacon frame that identify the network. -/
structure Beacon where
  source : Mac
  bssid : Mac
  channel : UInt8
  deriving DecidableEq

/-- The beacon in a burst write to the beacon area. -/
def beaconOf? (payload : List UInt8) : Option Beacon :=
  if load32 payload = mtBeaconBase + mtRegisterOffset then
    some ⟨Mac.load (payload.drop 34), Mac.load (payload.drop 40), byteAt payload 64⟩
  else none

namespace UsbIo

/-- Payload of a burst write to the beacon area: the beacon programmed into the dongle. -/
def beaconProgram? (io : UsbIo) : Option (List UInt8) :=
  match io.wire? with
  | some (.mcu cmd payload) =>
      if cmd = mcuCmdBurstWrite ∧ load32 payload = mtBeaconBase + mtRegisterOffset then
        some payload
      else none
  | _ => none

/-- The beacon an entry writes. -/
def beacon? (io : UsbIo) : Option Beacon :=
  io.beaconProgram?.bind beaconOf?

/-- The channel an MCU SWITCH_CHANNEL command selects. -/
def switchChannel? (io : UsbIo) : Option UInt8 :=
  match io.wire? with
  | some (.mcu cmd payload) => if cmd = mcuCmdSwitchChannel then some (byteAt payload 0) else none
  | _ => none

/-- The 802.11 management or data frame an entry transmits. -/
def frame? (io : UsbIo) : Option (List UInt8) :=
  match io.wire? with
  | some (.wlan _ frame) => some frame
  | _ => none

/-- The channel in the DS Parameter element of a probe response. -/
def probeChannel? (io : UsbIo) : Option UInt8 :=
  io.frame?.bind fun frame => if byteAt frame 0 = 0x50 then some (byteAt frame 40) else none

/-- The channel a beacon or probe response advertises. -/
def advertises? (io : UsbIo) : Option UInt8 :=
  (io.beacon?.map Beacon.channel).or io.probeChannel?

/-- A transfer that neither transmits, nor programs the beacon, nor switches channels. -/
def Housework (io : UsbIo) : Prop :=
  ∀ wire, io.wire? = some wire → ∃ cmd payload, wire = .mcu cmd payload ∧
    cmd ≠ cmdPacketTx ∧ cmd ≠ mcuCmdBurstWrite ∧ cmd ≠ mcuCmdSwitchChannel

section

variable {io : UsbIo}

theorem IsCtrl.housework (hio : io.IsCtrl) : io.Housework := by
  intro wire hwire
  cases io with
  | ctrlRead => cases hwire
  | ctrlWrite => cases hwire
  | bulkOut => exact hio.elim

theorem housework_mcu {cmd : UInt8} {data : List UInt8} {status : UsbStatus}
    (hcmd : cmd.toNat < 128) (hdata : data.length < 0x10000 - 3) (htx : cmd ≠ cmdPacketTx)
    (hburst : cmd ≠ mcuCmdBurstWrite) (hswitch : cmd ≠ mcuCmdSwitchChannel) :
    (UsbIo.bulkOut epCmd (mcuPacket cmd data) status).Housework := by
  intro wire hwire
  rw [UsbIo.wire?, wire?_mcuPacket hcmd hdata, Option.some.injEq] at hwire
  exact ⟨cmd, _, hwire.symm, htx, hburst, hswitch⟩

theorem Housework.beaconProgram? (hio : io.Housework) : io.beaconProgram? = none := by
  unfold UsbIo.beaconProgram?
  split
  next cmd payload hwire =>
    obtain ⟨cmd', payload', hmcu, -, hburst, -⟩ := hio _ hwire
    cases hmcu
    exact if_neg fun h => hburst h.1
  next => rfl

theorem Housework.switchChannel? (hio : io.Housework) : io.switchChannel? = none := by
  unfold UsbIo.switchChannel?
  split
  next cmd payload hwire =>
    obtain ⟨cmd', payload', hmcu, -, -, hswitch⟩ := hio _ hwire
    cases hmcu
    exact if_neg hswitch
  next => rfl

theorem Housework.frame? (hio : io.Housework) : io.frame? = none := by
  unfold UsbIo.frame?
  split
  next wcid frame hwire =>
    obtain ⟨cmd, payload, hmcu, -⟩ := hio _ hwire
    cases hmcu
  next => rfl

theorem Housework.beacon? (hio : io.Housework) : io.beacon? = none := by
  rw [UsbIo.beacon?, hio.beaconProgram?]
  rfl

theorem Housework.advertises? (hio : io.Housework) : io.advertises? = none := by
  rw [UsbIo.advertises?, hio.beacon?, probeChannel?, hio.frame?]
  rfl

end

end UsbIo

/-! ## The two packets that matter -/

/-- The burst write of a beacon. -/
def beaconIo (mac : Mac) (channel : UInt8) (status : UsbStatus) : UsbIo :=
  .bulkOut epCmd (mcuPacket mcuCmdBurstWrite (beaconPayload mac channel)) status

/-- The channel switch command. -/
def switchIo (ch bw scan power : UInt8) (status : UsbStatus) : UsbIo :=
  .bulkOut epCmd (mcuPacket mcuCmdSwitchChannel (channelConfig ch bw scan power)) status

theorem beaconIo_wire? (mac : Mac) (channel : UInt8) (status : UsbStatus) :
    (beaconIo mac channel status).wire? =
      some (.mcu mcuCmdBurstWrite (beaconPayload mac channel ++ [0])) := by
  have hlength : (beaconPayload mac channel).length = 83 := by simp [beaconPayload, vendorIe]
  have hcmd : mcuCmdBurstWrite.toNat < 128 := by decide
  rw [beaconIo, UsbIo.wire?, wire?_mcuPacket hcmd (by omega), hlength]
  rfl

theorem switchIo_wire? (ch bw scan power : UInt8) (status : UsbStatus) :
    (switchIo ch bw scan power status).wire? =
      some (.mcu mcuCmdSwitchChannel (channelConfig ch bw scan power)) := by
  have hlength : (channelConfig ch bw scan power).length = 20 := rfl
  have hcmd : mcuCmdSwitchChannel.toNat < 128 := by decide
  rw [switchIo, UsbIo.wire?, wire?_mcuPacket hcmd (by omega), hlength]
  rfl

theorem beaconPayload_address (mac : Mac) (channel : UInt8) (rest : List UInt8) :
    load32 (beaconPayload mac channel ++ rest) = mtBeaconBase + mtRegisterOffset := by
  simp only [beaconPayload, List.append_assoc, load32_store32]

@[simp] theorem beaconIo_program (mac : Mac) (channel : UInt8) (status : UsbStatus) :
    (beaconIo mac channel status).beaconProgram? = some (beaconPayload mac channel ++ [0]) := by
  rw [UsbIo.beaconProgram?, beaconIo_wire?]
  exact if_pos ⟨rfl, beaconPayload_address mac channel [0]⟩

theorem beaconOf?_payload (mac : Mac) (channel : UInt8) :
    beaconOf? (beaconPayload mac channel ++ [0]) = some ⟨mac, mac, channel⟩ := by
  rw [beaconOf?, if_pos (beaconPayload_address mac channel [0])]
  rfl

@[simp] theorem beaconIo_beacon (mac : Mac) (channel : UInt8) (status : UsbStatus) :
    (beaconIo mac channel status).beacon? = some ⟨mac, mac, channel⟩ := by
  rw [UsbIo.beacon?, beaconIo_program, Option.bind_some, beaconOf?_payload]

@[simp] theorem beaconIo_advertises (mac : Mac) (channel : UInt8) (status : UsbStatus) :
    (beaconIo mac channel status).advertises? = some channel := by
  rw [UsbIo.advertises?, beaconIo_beacon]
  rfl

@[simp] theorem beaconIo_switch (mac : Mac) (channel : UInt8) (status : UsbStatus) :
    (beaconIo mac channel status).switchChannel? = none := by
  rw [UsbIo.switchChannel?, beaconIo_wire?]
  rfl

@[simp] theorem switchIo_switch (ch bw scan power : UInt8) (status : UsbStatus) :
    (switchIo ch bw scan power status).switchChannel? = some ch := by
  rw [UsbIo.switchChannel?, switchIo_wire?]
  rfl

@[simp] theorem switchIo_program (ch bw scan power : UInt8) (status : UsbStatus) :
    (switchIo ch bw scan power status).beaconProgram? = none := by
  rw [UsbIo.beaconProgram?, switchIo_wire?]
  rfl

@[simp] theorem switchIo_beacon (ch bw scan power : UInt8) (status : UsbStatus) :
    (switchIo ch bw scan power status).beacon? = none := by
  rw [UsbIo.beacon?, switchIo_program]
  rfl

@[simp] theorem switchIo_advertises (ch bw scan power : UInt8) (status : UsbStatus) :
    (switchIo ch bw scan power status).advertises? = none := by
  rw [UsbIo.advertises?, switchIo_beacon, UsbIo.probeChannel?, UsbIo.frame?, switchIo_wire?]
  rfl

/-! ## Emission lemmas -/

section

variable (dongle : Dongle)

theorem Emits.housework {before after : UsbLog} (hemits : Emits UsbIo.IsCtrl before after) :
    Emits UsbIo.Housework before after :=
  hemits.mono fun _ hio => hio.housework

/-- An MCU command other than the three that matter is housework. -/
theorem mt76McuCmd_housework (cmd : UInt8) (data : List UInt8) (hcmd : cmd.toNat < 128)
    (hdata : data.length < 0x10000 - 3) (htx : cmd ≠ cmdPacketTx)
    (hburst : cmd ≠ mcuCmdBurstWrite) (hswitch : cmd ≠ mcuCmdSwitchChannel) (log : UsbLog) :
    Emits UsbIo.Housework log (mt76McuCmd dongle cmd data log).2 :=
  mt76McuCmd_emits dongle (fun _ => UsbIo.housework_mcu hcmd hdata htx hburst hswitch) log

theorem calibrate_housework (type val : UInt32) (log : UsbLog) :
    Emits UsbIo.Housework log (calibrate dongle type val log) :=
  mt76McuCmd_housework dongle mcuCmdCalibrationOp _ (by decide) (by simp) (by decide) (by decide)
    (by decide) log

theorem xtalTrim_ctrl (log : UsbLog) : Emits UsbIo.IsCtrl log (xtalTrim dongle log).2 := by
  have htrim2 := mt76EfuseRead_emits dongle mtEeXtalTrim2 4 log
  simp only [xtalTrim]
  split
  · exact htrim2.trans (mt76EfuseRead_emits dongle mtEeXtalTrim1 4 _)
  · exact htrim2

theorem mt76InitRegisters_ctrl (log : UsbLog) :
    Emits UsbIo.IsCtrl log (mt76InitRegisters dongle log) :=
  (((((mt76Writes_emits dongle initRegisterWrites log).trans (xtalTrim_ctrl dongle _)).trans
    (mt76CtrlRead_emits dongle _ _ _)).trans (mt76CtrlWrite_emits dongle _ _ _ _)).trans
    (mt76CtrlWrite_emits dongle _ _ _ _)).trans (mt76Writes_emits dongle _ _)

theorem mt76ReadMac_ctrl (log : UsbLog) : Emits UsbIo.IsCtrl log (mt76ReadMac dongle log).2 := by
  simp only [mt76ReadMac]
  split <;> exact mt76EfuseRead_emits dongle mtEeMacAddr 6 log

theorem mt76WriteMacHw_ctrl (mac : Mac) (log : UsbLog) :
    Emits UsbIo.IsCtrl log (mt76WriteMacHw dongle mac log) :=
  ((mt76Writes_emits dongle _ log).trans (mt76CtrlRead_emits dongle _ _ _)).trans
    (mt76CtrlRead_emits dongle _ _ _)

theorem mt76AddWcid_ctrl (wcid : UInt8) (mac : Mac) (log : UsbLog) :
    Emits UsbIo.IsCtrl log (mt76AddWcid dongle wcid mac log) :=
  mt76Writes_emits dongle _ log

theorem mt76FwClientAdd_housework (wcid : UInt8) (log : UsbLog) :
    Emits UsbIo.Housework log (mt76FwClientAdd dongle wcid log).2 := by
  unfold mt76FwClientAdd
  split
  · exact Emits.refl log
  · exact mt76McuCmd_housework dongle mcuCmdInternalFwOp _ (by decide) (by simp) (by decide)
      (by decide) (by decide) log

theorem radioBringUp_housework (log : UsbLog) :
    Emits UsbIo.Housework log (radioBringUp dongle log) := by
  have hqueue := mt76McuCmd_housework dongle mcuCmdFunSetOp (store32 mcuQSelect ++ store32 1)
    (by decide) (by simp) (by decide) (by decide) (by decide)
  have hradio := mt76McuCmd_housework dongle mcuCmdPowerSavingOp (store32 mcuRadioOn)
    (by decide) (by simp) (by decide) (by decide) (by decide)
  have hbbp := mt76McuCmd_housework dongle mcuCmdLoadCr (store32 mcuRfBbpCr)
    (by decide) (by simp) (by decide) (by decide) (by decide)
  exact (((hqueue log).trans (hradio _)).trans (hbbp _)).trans
    (Emits.housework (mt76InitRegisters_ctrl dongle _))

theorem radioEnable_housework (mac : Mac) (log : UsbLog) :
    Emits UsbIo.Housework log (radioEnable dongle mac log) := by
  have hmac := Emits.housework (mt76WriteMacHw_ctrl dongle mac log)
  have hset := mt76McuCmd_housework dongle mcuCmdInternalFwOp (store32 fwCmdMacAddrSet ++ mac.bytes)
    (by decide) (by simp) (by decide) (by decide) (by decide)
  have hreset (log : UsbLog) := Emits.housework (mt76Writes_emits dongle
    [(mtMacSysCtrl, 0), (mtRfBypass0, 0), (mtRfSetting0, 0)] log)
  have hdma (log : UsbLog) (dma : UInt32) := Emits.housework
    ((((mt76CtrlWrite_emits dongle mtMacSysCtrl 0x0c mtVendMultiWrite log).trans
      (mt76CtrlWrite_emits dongle mtUsbU3dmaCfg dma mtVendWriteCfg _)).trans
      (mt76CtrlWrite_emits dongle mtUsbDmaCfg dma mtVendMultiWrite _)).trans
      (mt76CtrlRead_emits dongle mtUsbDmaCfg mtVendMultiRead _))
  exact ((((((hmac.trans (hset _)).trans (hreset _)).trans (calibrate_housework dongle _ _ _)).trans
    (calibrate_housework dongle _ _ _)).trans (calibrate_housework dongle _ _ _)).trans
    (hdma _ _))

theorem radioStatus_ctrl (log : UsbLog) : Emits UsbIo.IsCtrl log (radioStatus dongle log) :=
  (((mt76CtrlRead_emits dongle _ _ log).trans (mt76CtrlRead_emits dongle _ _ _)).trans
    (mt76CtrlRead_emits dongle _ _ _)).trans (mt76CtrlRead_emits dongle _ _ _)

theorem scanMac_ctrl (mac : Mac) (log : UsbLog) :
    Emits UsbIo.IsCtrl log (scanMac dongle mac log).2 := by
  simp only [scanMac]
  split
  · split <;> exact mt76EfuseRead_emits dongle 0x00 16 log
  · exact Emits.refl log

/-- Entries of channel set-up: housework and channel switches. -/
def UsbIo.Tuning (io : UsbIo) : Prop :=
  io.Housework ∨ ∃ ch bw scan power status, io = switchIo ch bw scan power status

theorem UsbIo.Tuning.beaconProgram? {io : UsbIo} (hio : io.Tuning) : io.beaconProgram? = none := by
  rcases hio with hwork | ⟨ch, bw, scan, power, status, rfl⟩
  · exact hwork.beaconProgram?
  · exact switchIo_program ch bw scan power status

theorem UsbIo.Tuning.advertises? {io : UsbIo} (hio : io.Tuning) : io.advertises? = none := by
  rcases hio with hwork | ⟨ch, bw, scan, power, status, rfl⟩
  · exact hwork.advertises?
  · exact switchIo_advertises ch bw scan power status

/-- A channel switch is one entry, whatever becomes of it. -/
theorem mt76ConfigureChannel_tuning (ch bw scan power : UInt8) (log : UsbLog) :
    Emits UsbIo.Tuning log (mt76ConfigureChannel dongle ch bw scan power log).2 :=
  mt76McuCmd_emits dongle (fun status => Or.inr ⟨ch, bw, scan, power, status, rfl⟩) log

theorem mt76InitChannels_tuning (log : UsbLog) :
    Emits UsbIo.Tuning log (mt76InitChannels dongle log).2 := by
  have hpower : Emits UsbIo.Tuning log (channelPower dongle log).2 := by
    have hread := (Emits.housework (mt76EfuseRead_emits dongle 0x00 4 log)).mono
      fun _ hio => (Or.inl hio : UsbIo.Tuning _)
    simp only [channelPower]
    split <;> exact hread
  have hvisit : ∀ (channels : List (UInt8 × UInt8 × UInt8)) (power : UInt8) (log : UsbLog),
      Emits UsbIo.Tuning log (channels.foldl (fun log ch =>
        (mt76ConfigureChannel dongle ch.1 ch.2.1 ch.2.2 power log).2) log) := by
    intro channels power
    induction channels with
    | nil => exact fun log => Emits.refl log
    | cons ch rest ih =>
        exact fun log => (mt76ConfigureChannel_tuning dongle _ _ _ _ log).trans (ih _)
  have hcandidates := mt76McuCmd_housework dongle mcuCmdInternalFwOp
    (store32 fwCmdChCandidates ++ channelCandidates) (by decide) (by decide) (by decide)
    (by decide) (by decide)
  exact (hpower.trans (hvisit initChannels _ _)).trans
    ((hcandidates _).mono fun _ hio => Or.inl hio)

/-- A beacon write puts the beacon on the bus first and then only does housework. -/
theorem mt76WriteBeacon_log (mac : Mac) (pairing : Int) (channel : UInt8) (log : UsbLog) :
    ∃ status, Emits UsbIo.Housework (beaconIo mac channel status :: log)
      (mt76WriteBeacon dongle mac pairing channel log).2 := by
  refine ⟨dongle.bulkOut log epCmd (mcuPacket mcuCmdBurstWrite (beaconPayload mac channel)), ?_⟩
  simp only [mt76WriteBeacon]
  split
  · exact Emits.refl _
  · exact (Emits.housework (((mt76CtrlRead_emits dongle _ _ _).trans
      (mt76CtrlWrite_emits dongle _ _ _ _)).trans (mt76CtrlRead_emits dongle _ _ _))).trans
      (calibrate_housework dongle _ _ _)

/-! ## Firmware upload -/

theorem UsbIo.Uploading.housework {io : UsbIo} (hio : io.Uploading) : io.Housework := by
  intro wire hwire
  cases io with
  | ctrlRead => cases hwire
  | ctrlWrite => cases hwire
  | bulkOut ep packet status =>
      obtain ⟨rfl, len, rest, rfl⟩ := hio
      rw [UsbIo.wire?, wire?_fwChunk] at hwire
      cases hwire

theorem fwTransfer_housework {fw : List UInt8} {rounds : Nat} {log : UsbLog} {stage : FwStage}
    (htransfer : fwTransfer dongle fw rounds log = some stage) :
    Emits UsbIo.Housework log stage.log := by
  obtain ⟨sent, hemits, hstage⟩ := fwTransfer_uploading dongle htransfer
  have hsent := hemits.mono fun _ hio => hio.housework
  rcases hstage with rfl | rfl
  · exact hsent
  · exact hsent.trans (Emits.housework ((mt76CtrlWrite_emits dongle _ _ _ _).trans
      (mt76CtrlWrite_emits dongle _ _ _ _)))

theorem fwReset_ctrl (log : UsbLog) : Emits UsbIo.IsCtrl log (fwReset dongle log) :=
  (((mt76CtrlRead_emits dongle _ _ log).trans (mt76CtrlWrite_emits dongle _ _ _ _)).trans
    (mt76CtrlWrite_emits dongle _ _ _ _)).trans
    (mt76Poll_emits (fun log => mt76CtrlRead_emits dongle _ _ log) _)

theorem fwDmaSetup_ctrl (log : UsbLog) : Emits UsbIo.IsCtrl log (fwDmaSetup dongle log) :=
  (mt76CtrlWrite_emits dongle _ _ _ log).trans (mt76Writes_emits dongle _ _)

theorem fwUpload_housework {forceReload : Bool} {fw : List UInt8} {rounds : Nat} {log : UsbLog}
    {stage : FwStage} (hupload : fwUpload dongle forceReload fw rounds log = some stage) :
    Emits UsbIo.Housework log stage.log := by
  have hread := Emits.housework (mt76CtrlRead_emits dongle mtFceDmaAddr mtVendReadCfg log)
  have hsetup (log : UsbLog) := Emits.housework (fwDmaSetup_ctrl dongle log)
  have hreset (log : UsbLog) := Emits.housework (fwReset_ctrl dongle log)
  simp only [fwUpload] at hupload
  split at hupload
  · cases hupload
    exact Emits.refl log
  split at hupload
  · cases hupload
    exact Emits.refl log
  split at hupload
  · split at hupload
    · exact ((hread.trans (hreset _)).trans (hsetup _)).trans (fwTransfer_housework dongle hupload)
    · cases hupload
      exact hread
  · exact (hread.trans (hsetup _)).trans (fwTransfer_housework dongle hupload)

theorem fwStartPoll_ctrl (attempts : Nat) (log : UsbLog) :
    Emits UsbIo.IsCtrl log (fwStartPoll dongle attempts log).2 := by
  induction attempts generalizing log with
  | zero => exact Emits.refl log
  | succ attempts ih =>
      have hread := mt76CtrlRead_emits dongle mtFceDmaAddr mtVendReadCfg log
      simp only [fwStartPoll]
      split
      · exact hread.trans (mt76CtrlRead_emits dongle _ _ _)
      · exact hread.trans (ih _)

/-- A firmware upload transmits nothing. -/
theorem mt76UploadFwDma_housework {forceReload : Bool} {fw : List UInt8} {rounds : Nat}
    {log : UsbLog} {result : Int × UsbLog}
    (hupload : mt76UploadFwDma dongle forceReload fw rounds log = some result) :
    Emits UsbIo.Housework log result.2 := by
  simp only [mt76UploadFwDma] at hupload
  split at hupload
  next => cases hupload
  next rc returned hstage =>
    cases hupload
    exact fwUpload_housework dongle hstage
  next booted hstage =>
    cases hupload
    exact (fwUpload_housework dongle hstage).trans
      (Emits.housework (fwStartPoll_ctrl dongle 400 booted))

/-! ## Initialisation and scan as a whole -/

/-- A channel switch leaves exactly one entry. -/
theorem mt76ConfigureChannel_log (ch bw scan power : UInt8) (log : UsbLog) :
    ∃ status, (mt76ConfigureChannel dongle ch bw scan power log).2 =
      switchIo ch bw scan power status :: log :=
  ⟨_, rfl⟩

/-- A successful initialisation reads its address, tunes, ends on channel 0x2c and writes
one beacon for the address it returns. -/
theorem mt76RadioInit_log {log final : UsbLog} {mac : Mac}
    (hinit : mt76RadioInit dongle log = (some mac, final)) :
    ∃ early tuned status status', Emits UsbIo.Housework log early ∧
      mac = (radioMac dongle early).1 ∧
      Emits UsbIo.Tuning (radioMac dongle early).2 tuned ∧
      Emits UsbIo.Housework
        (beaconIo mac 0x2c status' :: switchIo 0x2c mcuChBw20 1 0x18 status :: tuned) final := by
  simp only [mt76RadioInit] at hinit
  split at hinit
  · cases hinit
  have hearly := (Emits.housework (mt76CtrlRead_emits dongle mtAsicVersion mtVendMultiRead log)).trans
    (radioBringUp_housework dongle _)
  change Emits _ _ (radioBringUp dongle (mt76R dongle mtAsicVersion log).2) at hearly
  generalize radioBringUp dongle (mt76R dongle mtAsicVersion log).2 = early at hinit hearly
  generalize hmac : radioMac dongle early = found at hinit
  have htuned := ((radioEnable_housework dongle found.1 found.2).mono
    fun _ hio => (Or.inl hio : UsbIo.Tuning _)).trans (mt76InitChannels_tuning dongle _)
  generalize mt76InitChannels dongle (radioEnable dongle found.1 found.2) = channels
    at hinit htuned
  split at hinit
  · cases hinit
  obtain ⟨status, hswitch⟩ := mt76ConfigureChannel_log dongle 0x2c mcuChBw20 1 0x18 channels.2
  generalize mt76ConfigureChannel dongle 0x2c mcuChBw20 1 0x18 channels.2 = tuned
    at hinit hswitch
  split at hinit
  · cases hinit
  obtain ⟨status', hbeacon⟩ := mt76WriteBeacon_log dongle found.1 1 0x2c tuned.2
  generalize mt76WriteBeacon dongle found.1 1 0x2c tuned.2 = beacon at hinit hbeacon
  split at hinit
  · cases hinit
  cases hinit
  refine ⟨early, channels.2, status, status', hearly, by rw [hmac], by rw [hmac]; exact htuned, ?_⟩
  rw [hswitch] at hbeacon
  exact hbeacon.trans (Emits.housework (radioStatus_ctrl dongle _))

/-- What a scan does: nothing but reading its address if it is not due, else one channel
switch and, if it has an address, one beacon on the new channel. -/
theorem mt76PairingChannelScan_log (now : UInt64) (state : ScanState) (log : UsbLog) :
    (¬state.Due now →
      Emits UsbIo.IsCtrl log (mt76PairingChannelScan dongle now state log).2.2 ∧
      (mt76PairingChannelScan dongle now state log).1 = scanChannel state.chIdx ∧
      (mt76PairingChannelScan dongle now state log).2.1 =
        { state with mac := (scanMac dongle state.mac log).1 }) ∧
    (state.Due now → ∃ status status',
      Emits UsbIo.Housework
        ((if (scanMac dongle state.mac log).1.b0 ≠ 0 then
            [beaconIo (scanMac dongle state.mac log).1 (scanChannel (state.chIdx + 1)) status']
          else []) ++
          switchIo (scanChannel (state.chIdx + 1)) mcuChBw20 1 0x18 status ::
            (scanMac dongle state.mac log).2)
        (mt76PairingChannelScan dongle now state log).2.2 ∧
      (mt76PairingChannelScan dongle now state log).1 = scanChannel (state.chIdx + 1) ∧
      (mt76PairingChannelScan dongle now state log).2.1 =
        ⟨state.chIdx + 1, now, (scanMac dongle state.mac log).1⟩) := by
  have hread := scanMac_ctrl dongle state.mac log
  generalize hmac : scanMac dongle state.mac log = found at hread
  constructor
  · intro hnot
    simp only [mt76PairingChannelScan, if_neg hnot, hmac]
    exact ⟨hread, trivial, trivial⟩
  · intro hdue
    obtain ⟨status, hswitch⟩ := mt76ConfigureChannel_log dongle (scanChannel (state.chIdx + 1))
      mcuChBw20 1 0x18 found.2
    obtain ⟨status', hbeacon⟩ := mt76WriteBeacon_log dongle found.1 1
      (scanChannel (state.chIdx + 1))
      (mt76ConfigureChannel dongle (scanChannel (state.chIdx + 1)) mcuChBw20 1 0x18 found.2).2
    refine ⟨status, status', ?_⟩
    simp only [mt76PairingChannelScan, if_pos hdue, hmac]
    refine ⟨?_, trivial, trivial⟩
    -- without an address the channel is switched but no beacon is written
    split
    · rw [hswitch] at hbeacon
      rw [hswitch]
      exact hbeacon
    · rw [hswitch]
      exact Emits.refl _

end

end XoneDarwin
