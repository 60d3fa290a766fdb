import XoneDarwin.Daemon.Main

/-!
# What a handler puts on the bus

`Air.Sends sends before after`: between the two radio states the daemon sent what is
listed in `sends`, newest first. Everything else on the bus was housework, beacons
with its own address on the pairing channel, or probe responses naming that channel.
Address, pairing channel and scan state are unchanged.
-/

namespace XoneDarwin

open Machine (Emits)

/-! ## Routine entries -/

/-- An entry that keeps the advertised network: no channel switch, and beacons and probe
responses only for `mac` on `channel`. -/
structure UsbIo.Routine (mac : Mac) (channel : UInt8) (io : UsbIo) : Prop where
  switch : io.switchChannel? = none
  beacon : ∀ program, io.beaconProgram? = some program → program = beaconPayload mac channel ++ [0]
  probe : ∀ ch, io.probeChannel? = some ch → ch = channel

theorem UsbIo.Housework.routine {io : UsbIo} (hio : io.Housework) (mac : Mac) (channel : UInt8) :
    io.Routine mac channel where
  switch := hio.switchChannel?
  beacon := by
    intro program hprogram
    rw [hio.beaconProgram?] at hprogram
    cases hprogram
  probe := by
    intro ch hch
    rw [UsbIo.probeChannel?, hio.frame?] at hch
    cases hch

/-- A beacon among routine entries is one for `mac` on `channel`. -/
theorem UsbIo.Routine.beacon? {mac : Mac} {channel : UInt8} {io : UsbIo}
    (hio : io.Routine mac channel) {beacon : Beacon} (hbeacon : io.beacon? = some beacon) :
    beacon = ⟨mac, mac, channel⟩ := by
  obtain ⟨program, hprogram, hread⟩ := Option.bind_eq_some_iff.mp hbeacon
  rw [hio.beacon program hprogram, beaconOf?_payload, Option.some.injEq] at hread
  exact hread.symm

theorem UsbIo.Routine.advertises? {mac : Mac} {channel : UInt8} {io : UsbIo}
    (hio : io.Routine mac channel) {ch : UInt8} (hch : io.advertises? = some ch) :
    ch = channel := by
  simp only [UsbIo.advertises?] at hch
  cases hbeacon : io.beacon? with
  | none =>
      rw [hbeacon] at hch
      exact hio.probe ch hch
  | some beacon =>
      rw [hbeacon, Option.map_some, Option.some_or, Option.some.injEq, hio.beacon? hbeacon] at hch
      exact hch.symm

theorem UsbIo.Housework.sent? {io : UsbIo} (hio : io.Housework) : io.sent? = none := by
  unfold UsbIo.sent?
  split
  next cmd payload hwire =>
    obtain ⟨cmd', payload', hmcu, htx, -⟩ := hio _ hwire
    cases hmcu
    exact if_neg htx
  next wcid frame hwire =>
    obtain ⟨cmd, payload, hmcu, -⟩ := hio _ hwire
    cases hmcu
  next => rfl

theorem beaconIo_routine (mac : Mac) (channel : UInt8) (status : UsbStatus) :
    (beaconIo mac channel status).Routine mac channel where
  switch := beaconIo_switch mac channel status
  beacon := by
    intro program hprogram
    rw [beaconIo_program, Option.some.injEq] at hprogram
    exact hprogram.symm
  probe := by
    intro ch hch
    rw [UsbIo.probeChannel?, UsbIo.frame?, beaconIo_wire?] at hch
    cases hch

theorem beaconIo_sent? (mac : Mac) (channel : UInt8) (status : UsbStatus) :
    (beaconIo mac channel status).sent? = none := by
  rw [UsbIo.sent?, beaconIo_wire?]
  rfl

theorem switchIo_sent? (ch bw scan power : UInt8) (status : UsbStatus) :
    (switchIo ch bw scan power status).sent? = none := by
  rw [UsbIo.sent?, switchIo_wire?]
  rfl

/-- What a transmitted management frame is to a controller. -/
def frameSent? (frame : List UInt8) : Option Sent :=
  if byteAt frame 0 = 0x10 then some (.assocResponse (Mac.load (frame.drop 4)) false)
  else if byteAt frame 0 = 0x30 then some (.assocResponse (Mac.load (frame.drop 4)) true)
  else none

section

variable {frame : List UInt8} (wcid : UInt8) (status : UsbStatus)

theorem wlanIo_wire? (hframe : frame.length ≤ 2048) :
    (UsbIo.bulkOut epCmd (wlanPacket frame wcid) status).wire? = some (.wlan wcid frame) :=
  wire?_wlanPacket wcid hframe

theorem wlanIo_sent? (hframe : frame.length ≤ 2048) :
    (UsbIo.bulkOut epCmd (wlanPacket frame wcid) status).sent? = frameSent? frame := by
  rw [UsbIo.sent?, wlanIo_wire? wcid status hframe]
  rfl

theorem wlanIo_routine {channel : UInt8} (hframe : frame.length ≤ 2048)
    (hprobe : byteAt frame 0 = 0x50 → byteAt frame 40 = channel) (mac : Mac) :
    (UsbIo.bulkOut epCmd (wlanPacket frame wcid) status).Routine mac channel where
  switch := by rw [UsbIo.switchChannel?, wlanIo_wire? wcid status hframe]
  beacon := by
    intro program hprogram
    rw [UsbIo.beaconProgram?, wlanIo_wire? wcid status hframe] at hprogram
    cases hprogram
  probe := by
    intro ch hch
    rw [UsbIo.probeChannel?, UsbIo.frame?, wlanIo_wire? wcid status hframe] at hch
    rw [Option.bind_some] at hch
    split at hch
    next hfirst =>
      cases hch
      exact hprobe hfirst
    next => cases hch

end

/-! ## Composing emissions -/

/-- What changes between two states of the radio side: see the module header. -/
structure Air.Sends (sends : List Sent) (before after : Air) : Prop where
  ourMac : after.ourMac = before.ourMac
  pairingChannel : after.pairingChannel = before.pairingChannel
  scan : after.scan = before.scan
  emits : Emits (UsbIo.Routine before.ourMac before.pairingChannel) before.usb after.usb
  sent : after.sent = sends ++ before.sent

namespace Air.Sends

theorem refl (air : Air) : Air.Sends [] air air :=
  ⟨rfl, rfl, rfl, Emits.refl _, rfl⟩

theorem trans {first second : List Sent} {before middle after : Air}
    (hfirst : Air.Sends first before middle) (hsecond : Air.Sends second middle after) :
    Air.Sends (second ++ first) before after where
  ourMac := hsecond.ourMac.trans hfirst.ourMac
  pairingChannel := hsecond.pairingChannel.trans hfirst.pairingChannel
  scan := hsecond.scan.trans hfirst.scan
  emits := by
    have hrest := hsecond.emits
    rw [hfirst.ourMac, hfirst.pairingChannel] at hrest
    exact hfirst.emits.trans hrest
  sent := by rw [hsecond.sent, hfirst.sent, List.append_assoc]

/-- Sending nothing after some sends. -/
theorem then_nothing {sends : List Sent} {before middle after : Air}
    (hfirst : Air.Sends sends before middle) (hsecond : Air.Sends [] middle after) :
    Air.Sends sends before after :=
  hfirst.trans hsecond

/-- Sending something after sending nothing. -/
theorem after_nothing {sends : List Sent} {before middle after : Air}
    (hfirst : Air.Sends [] before middle) (hsecond : Air.Sends sends middle after) :
    Air.Sends sends before after := by
  have hboth := hfirst.trans hsecond
  rwa [List.append_nil] at hboth

/-- Housework on the bus, and nothing else of interest. -/
theorem housework {before after : Air} (hmac : after.ourMac = before.ourMac)
    (hchannel : after.pairingChannel = before.pairingChannel) (hscan : after.scan = before.scan)
    (hemits : Emits UsbIo.Housework before.usb after.usb) : Air.Sends [] before after where
  ourMac := hmac
  pairingChannel := hchannel
  scan := hscan
  emits := hemits.mono fun _ hio => hio.routine _ _
  sent := (hemits.mono fun _ hio => hio.sent?).filterMap_eq

/-- Changes outside the bus, the address, the pairing channel and the scan. -/
theorem unchanged {before after : Air} (hmac : after.ourMac = before.ourMac)
    (hchannel : after.pairingChannel = before.pairingChannel) (hscan : after.scan = before.scan)
    (husb : after.usb = before.usb) : Air.Sends [] before after :=
  housework hmac hchannel hscan (husb ▸ Emits.refl _)

/-- One routine entry. -/
theorem entry (before : Air) {io : UsbIo}
    (hio : io.Routine before.ourMac before.pairingChannel) :
    Air.Sends io.sent?.toList before { before with usb := io :: before.usb } where
  ourMac := rfl
  pairingChannel := rfl
  scan := rfl
  emits := Emits.one hio
  sent := by
    change (io :: before.usb).filterMap UsbIo.sent? = _
    rw [List.filterMap_cons]
    cases io.sent? <;> rfl

end Air.Sends

/-! ## The transmit functions -/

section

variable (world : World) (air : Air)

theorem setPairingBeacon_sends (enabled : Bool) :
    Air.Sends [] air (setPairingBeacon world enabled air) := by
  unfold setPairingBeacon
  split
  · exact Air.Sends.refl air
  · obtain ⟨status, hlog⟩ := mt76WriteBeacon_log world.dongle air.ourMac (if enabled then 1 else 0)
      air.pairingChannel air.usb
    have hbeacon := Air.Sends.entry air
      (beaconIo_routine air.ourMac air.pairingChannel status)
    rw [beaconIo_sent?] at hbeacon
    refine hbeacon.then_nothing ?_
    exact Air.Sends.housework rfl rfl rfl hlog

theorem lockPairingChannel_sends (now : UInt64) :
    Air.Sends [] air (lockPairingChannel now air) := by
  unfold lockPairingChannel
  exact Air.Sends.unchanged rfl rfl rfl rfl

theorem logAwdlIgnored_sends (now : UInt64) : Air.Sends [] air (logAwdlIgnored now air) := by
  unfold logAwdlIgnored
  split <;> exact Air.Sends.unchanged rfl rfl rfl rfl

theorem transmit_sends (frame : List UInt8) (wcid : UInt8) {sends : List Sent}
    (hframe : frame.length ≤ 2048) (hsends : (frameSent? frame).toList = sends)
    (hprobe : byteAt frame 0 = 0x50 → byteAt frame 40 = air.pairingChannel) :
    Air.Sends sends air (transmit world frame wcid air) := by
  have hentry := Air.Sends.entry air (wlanIo_routine wcid
    (world.dongle.bulkOut air.usb epCmd (wlanPacket frame wcid)) hframe hprobe air.ourMac)
  rw [wlanIo_sent? wcid _ hframe, hsends] at hentry
  have hshort : ¬frame.length > 2048 := by omega
  simpa only [transmit, mt76WlanTx, bulkTransfer, if_neg hshort] using hentry

/-- A frame that is not a probe response. -/
theorem transmit_response (frame : List UInt8) (wcid fc : UInt8) {sends : List Sent}
    (hframe : frame.length ≤ 2048) (hsends : (frameSent? frame).toList = sends)
    (hfirst : byteAt frame 0 = fc) (hfc : fc ≠ 0x50) :
    Air.Sends sends air (transmit world frame wcid air) :=
  transmit_sends world air frame wcid hframe hsends
    fun hprobe => absurd (hfirst.symm.trans hprobe) hfc

/-! ## Management responses -/

variable (dst ourMac : Mac)

theorem sendXboxActionResponse_sends (wcid : UInt8) :
    Air.Sends [] air (sendXboxActionResponse world dst ourMac wcid air) :=
  transmit_response world air (xboxActionResponse dst ourMac wcid) wcid 0xd0
    (by simp [xboxActionResponse, mgmtHeader]) rfl rfl (by decide)

theorem sendPairResponse_sends : Air.Sends [] air (sendPairResponse world dst ourMac air) :=
  transmit_response world air (pairResponse dst ourMac) 0xff 0x70
    (by simp [pairResponse, mgmtHeader]) rfl rfl (by decide)

theorem probeResponse_sends (wcid : UInt8) :
    Air.Sends [] air (transmit world (probeResponse dst ourMac air.pairingChannel) wcid air) :=
  transmit_sends world air (probeResponse dst ourMac air.pairingChannel) wcid
    (by simp [probeResponse, mgmtHeader, vendorIe]) rfl fun _ => rfl

theorem assocResponse_sends (reassoc : Bool) (wcid : UInt8) :
    Air.Sends [.assocResponse dst reassoc] air
      (transmit world (assocResponse dst ourMac reassoc) wcid air) := by
  refine transmit_response world air (assocResponse dst ourMac reassoc) wcid
    (if reassoc then 0x30 else 0x10) (by simp [assocResponse, mgmtHeader]) ?_ rfl ?_
  · cases reassoc <;> rfl
  · cases reassoc <;> decide

theorem authResponse_sends (payload : List UInt8) (payloadLen : Int) (reqSubtype wcid : UInt8) :
    Air.Sends [] air
      (transmit world (authResponse dst ourMac payload payloadLen reqSubtype) wcid air) := by
  by_cases hpair : reqSubtype = 7
  · rw [authResponse, if_pos hpair]
    exact transmit_response world air _ wcid 0x70 (by simp [mgmtHeader]) rfl rfl (by decide)
  · rw [authResponse, if_neg hpair]
    exact transmit_response world air _ wcid 0xb0 (by simp [mgmtHeader]) rfl rfl (by decide)

/-! ## GIP packets -/

theorem length_gipTxHeader (peer : Peer) (mpduLen : UInt16) :
    (gipTxHeader peer ourMac mpduLen).length = 56 := rfl

theorem length_gipTxPayload (peer : Peer) (gip : List UInt8) :
    (gipTxPayload peer ourMac gip).length = 56 + gip.length + pad4 gip.length := by
  rw [gipTxPayload, List.length_append, length_gipTxHeader, List.length_append,
    List.length_replicate]
  omega

theorem length_gipTxPayload_le (peer : Peer) {gip : List UInt8} (hlen : gip.length ≤ 68) :
    (gipTxPayload peer ourMac gip).length ≤ 127 := by
  have hpad := pad4_lt gip.length
  rw [length_gipTxPayload]
  omega

/-- The dongle reads a GIP packet as the peer's address and the command byte. -/
theorem gipIo_sent? (peer : Peer) {gip : List UInt8} (hgip : gip ≠ []) (hlen : gip.length ≤ 68)
    (status : UsbStatus) :
    (UsbIo.bulkOut epCmd (mcuPacket cmdPacketTx (gipTxPayload peer ourMac gip)) status).sent? =
      some (.gip peer.mac (byteAt gip 0)) := by
  have hpad := pad4_lt gip.length
  have hlength := length_gipTxPayload ourMac peer gip
  have hsome : 0 < gip.length := List.length_pos_iff.mpr hgip
  have hcmd : cmdPacketTx.toNat < 128 := by decide
  rw [UsbIo.sent?, UsbIo.wire?, wire?_mcuPacket hcmd (by omega)]
  have hfirst : byteAt (gipTxPayload peer ourMac gip ++ List.replicate
      (pad4 (gipTxPayload peer ourMac gip).length) 0) 56 = byteAt gip 0 := by
    rw [byteAt_append_left (by omega), gipTxPayload]
    exact (byteAt_append_right 0).trans (byteAt_append_left hsome)
  have haddress : Mac.load ((gipTxPayload peer ourMac gip ++ List.replicate
      (pad4 (gipTxPayload peer ourMac gip).length) 0).drop 32) = peer.mac := rfl
  simp only [if_true, hfirst, haddress]

theorem gipIo_routine (peer : Peer) {gip : List UInt8} (hlen : gip.length ≤ 68)
    (status : UsbStatus) (mac : Mac) (channel : UInt8) :
    (UsbIo.bulkOut epCmd (mcuPacket cmdPacketTx (gipTxPayload peer ourMac gip)) status).Routine
      mac channel := by
  have hlength := length_gipTxPayload_le ourMac peer hlen
  have hcmd : cmdPacketTx.toNat < 128 := by decide
  have hwire := wire?_mcuPacket hcmd (Nat.lt_of_le_of_lt hlength (by decide))
  refine ⟨?_, ?_, ?_⟩
  · rw [UsbIo.switchChannel?, UsbIo.wire?, hwire]
    rfl
  · intro program hprogram
    rw [UsbIo.beaconProgram?, UsbIo.wire?, hwire] at hprogram
    cases hprogram
  · intro ch hch
    rw [UsbIo.probeChannel?, UsbIo.frame?, UsbIo.wire?, hwire] at hch
    cases hch

theorem wlanSendGip_sends {peer : Peer} (hactive : peer.active = true) {gip : List UInt8}
    (hgip : gip ≠ []) (hlen : gip.length ≤ 68) :
    Air.Sends [.gip peer.mac (byteAt gip 0)] air (wlanSendGip world peer gip air) := by
  have hlength := length_gipTxPayload_le air.ourMac peer hlen
  have hsome : 0 < gip.length := List.length_pos_iff.mpr hgip
  have hentry := Air.Sends.entry air (gipIo_routine air.ourMac peer hlen
    (world.dongle.bulkOut air.usb epCmd
      (mcuPacket cmdPacketTx (gipTxPayload peer air.ourMac gip))) air.ourMac air.pairingChannel)
  rw [gipIo_sent? air.ourMac peer hgip hlen] at hentry
  have hgo : ¬(¬peer.active = true ∨ gip.length = 0) := by
    rw [hactive]
    simp
    omega
  have hfits : ¬(gipTxPayload peer air.ourMac gip).length > 156 := by omega
  simpa only [wlanSendGip, if_neg hgo, if_neg hfits, mt76McuCmd, bulkTransfer,
    Option.toList_some] using hentry

theorem sendWlanGipFrame_sends {peer : Peer} (hactive : peer.active = true)
    (cmd deviceId type seq : UInt8) (payload : List UInt8) {payloadLen : UInt8}
    (hlen : payloadLen.toNat ≤ 64) :
    Air.Sends [.gip peer.mac cmd] air
      (sendWlanGipFrame world peer cmd deviceId type seq payload payloadLen air) := by
  have hfits : ¬68 < 4 + payloadLen.toNat := by omega
  have hshort (flags : UInt8) :
      ([cmd, flags, seq, payloadLen] ++ payload.take payloadLen.toNat).length ≤ 68 := by
    simp
    omega
  simp only [sendWlanGipFrame, gipBuild, if_neg hfits]
  exact wlanSendGip_sends world air hactive (List.cons_ne_nil _ _) (hshort _)

theorem sendWlanCommand_sends {peer : Peer} (hactive : peer.active = true) (cmd type : UInt8)
    (payload : List UInt8) (hlen : payload.length ≤ 64) :
    Air.Sends [.gip peer.mac cmd] air (sendWlanCommand world peer cmd type payload air) := by
  have hcount : (UInt8.ofNat payload.length).toNat ≤ 64 := by
    rw [UInt8.toNat_ofNat']
    omega
  have hsequence : Air.Sends [] air (gipNextSequence air).2 := Air.Sends.unchanged rfl rfl rfl rfl
  exact hsequence.after_nothing
    (sendWlanGipFrame_sends world _ hactive cmd 0 type _ payload hcount)

theorem sendWlanGipAck_sends {peer : Peer} (hactive : peer.active = true)
    (rxCmd rxDevice rxSeq rxLen : UInt8) :
    Air.Sends [.gip peer.mac gipCmdAcknowledge] air
      (sendWlanGipAck world peer rxCmd rxDevice rxSeq rxLen air) := by
  have hgo : ¬¬peer.active = true := not_not.mpr hactive
  rw [sendWlanGipAck, if_neg hgo]
  exact sendWlanGipFrame_sends world air hactive _ _ _ _ _ (by decide)

end

end XoneDarwin
