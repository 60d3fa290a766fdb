import XoneDarwin.Daemon.Registration

/-!
# What the daemon transmits

Beacon control, management responses and GIP packets.
-/

namespace XoneDarwin

open Machine (Emits)

variable (world : World)

/-! ## Pairing state -/

/-- `set_pairing_beacon`. -/
def setPairingBeacon (enabled : Bool) (air : Air) : Air :=
  if air.pairingBeaconEnabled = enabled then air
  else
    let written := mt76WriteBeacon world.dongle air.ourMac (if enabled then 1 else 0)
      air.pairingChannel air.usb
    { air with usb := written.2, pairingBeaconEnabled := enabled }

/-- `lock_pairing_channel` at clock reading `now`. -/
def lockPairingChannel (now : UInt64) (air : Air) : Air :=
  { air with channelLockUntilMs := now + 5000 }

/-- `log_awdl_ignored` at clock reading `now`. -/
def logAwdlIgnored (now : UInt64) (air : Air) : Air :=
  if air.awdlLastLogMs = 0 ∨ now - air.awdlLastLogMs ≥ 5000 then
    { air with awdlIgnored := 0, awdlLastLogMs := now }
  else { air with awdlIgnored := air.awdlIgnored + 1 }

/-! ## Management frames -/

/-- The 24-byte header of every management response. -/
def mgmtHeader (fc : UInt8) (dst ourMac : Mac) : List UInt8 :=
  [fc, 0x00, 0, 0] ++ dst.bytes ++ ourMac.bytes ++ ourMac.bytes ++ [0, 0]

/-- `mt76_wlan_tx` with its result ignored. -/
def transmit (frame : List UInt8) (wcid : UInt8) (air : Air) : Air :=
  { air with usb := (mt76WlanTx world.dongle frame wcid air.usb).2 }

def xboxActionResponse (dst ourMac : Mac) (wcid : UInt8) : List UInt8 :=
  mgmtHeader 0xd0 dst ourMac ++ [0x7f, 0x00, 0x17, 0xf2, 0x08, 0x11, wcid, 0x00]

/-- `send_xbox_action_response`. -/
def sendXboxActionResponse (dst ourMac : Mac) (wcid : UInt8) (air : Air) : Air :=
  transmit world (xboxActionResponse dst ourMac wcid) wcid air

def probeResponse (dst ourMac : Mac) (channel : UInt8) : List UInt8 :=
  mgmtHeader 0x50 dst ourMac ++
    [0, 0, 0, 0, 0, 0, 0, 0, 0x64, 0x00, 0x31, 0xc6, 0x00, 0x00, 0x03, 0x01, channel] ++ vendorIe

/-- The WCID of a remembered peer, `0xff` without one. -/
def wcidOr0xff (remembered : Option (Fin maxPeers)) (table : PeerTable) : UInt8 :=
  match remembered with
  | some i => (table.peers i).wcid
  | none => 0xff

/-- `send_probe_response`. -/
def sendProbeResponse (dst ourMac : Mac) (channel : UInt8) (daemon : Daemon) : Daemon :=
  let peer := rememberPeer world dst daemon
  { peer.2 with
    air := transmit world (probeResponse dst ourMac channel) (wcidOr0xff peer.1 peer.2.table)
      peer.2.air }

def assocResponse (dst ourMac : Mac) (reassoc : Bool) : List UInt8 :=
  mgmtHeader (if reassoc then 0x30 else 0x10) dst ourMac ++
    [0x00, 0x00, 0x00, 0x00, 0x01, 0xc0, 0, 0, 0, 0, 0, 0, 0, 0]

/-- The firmware's client entry is added once per peer, whatever the command returns. -/
def addFwClient (remembered : Option (Fin maxPeers)) (daemon : Daemon) : Daemon :=
  match remembered with
  | none => daemon
  | some i =>
      let peer := daemon.table.peers i
      if peer.fwClientAdded then daemon
      else
        { daemon with
          table := daemon.table.setPeer i { peer with fwClientAdded := true }
          air := { daemon.air with
            usb := (mt76FwClientAdd world.dongle peer.wcid daemon.air.usb).2 } }

/-- `send_assoc_response_common`. -/
def sendAssocResponseCommon (dst ourMac : Mac) (reassoc : Bool) (daemon : Daemon) : Daemon :=
  let peer := rememberPeer world dst daemon
  let added := addFwClient world peer.1 peer.2
  { added with air := transmit world (assocResponse dst ourMac reassoc) 0xff added.air }

/-- `send_assoc_response`. -/
def sendAssocResponse (dst ourMac : Mac) (daemon : Daemon) : Daemon :=
  sendAssocResponseCommon world dst ourMac false daemon

/-- `send_reassoc_response`. -/
def sendReassocResponse (dst ourMac : Mac) (daemon : Daemon) : Daemon :=
  sendAssocResponseCommon world dst ourMac true daemon

/-- The authentication response: subtype 7 gets the fixed pairing values, all others
the request's algorithm and the next sequence number. -/
def authResponse (dst ourMac : Mac) (payload : List UInt8) (payloadLen : Int)
    (reqSubtype : UInt8) : List UInt8 :=
  if reqSubtype = 7 then mgmtHeader 0x70 dst ourMac ++ store16 0x0170 ++ store16 0x0002
  else
    let algorithm := if payloadLen ≥ 2 then load16 payload else 0x0000
    let sequence :=
      if payloadLen ≥ 4 ∧ load16 (payload.drop 2) ≠ 0 then load16 (payload.drop 2) + 1 else 0x0002
    mgmtHeader 0xb0 dst ourMac ++ store16 algorithm ++ store16 sequence ++ store16 0x0000

/-- `send_auth_response`. -/
def sendAuthResponse (dst ourMac : Mac) (payload : List UInt8) (payloadLen : Int)
    (reqSubtype : UInt8) (daemon : Daemon) : Daemon :=
  let frame := authResponse dst ourMac payload payloadLen reqSubtype
  if reqSubtype = 7 then { daemon with air := transmit world frame 0xff daemon.air }
  else
    let peer := rememberPeer world dst daemon
    { peer.2 with air := transmit world frame (wcidOr0xff peer.1 peer.2.table) peer.2.air }

def pairResponse (dst ourMac : Mac) : List UInt8 :=
  mgmtHeader 0x70 dst ourMac ++
    [0x70, 0x02, 0x00, 0x45, 0x55, 0x01, 0x0f, 0x8f, 0xff, 0x87, 0x1f]

/-- `send_pair_response`. -/
def sendPairResponse (dst ourMac : Mac) (air : Air) : Air :=
  transmit world (pairResponse dst ourMac) 0xff air

/-! ## GIP packets -/

/-- The payload of `CMD_PACKET_TX` in front of the GIP packet: big-endian WCID index, zero
word, TxWi, 802.11 QoS header and its padding. -/
def gipTxHeader (peer : Peer) (ourMac : Mac) (mpduLen : UInt16) : List UInt8 :=
  (store32 (UInt32.ofInt (peer.wcid.toNat - 1))).reverse ++ ([0, 0, 0, 0] ++
    ([0, 0, 0, 0x20, 0x01, 0, UInt8.ofNat mpduLen.toNat,
      UInt8.ofNat (mpduLen.toNat / 0x100) &&& 0x3f, 0, 0, 0, 0, 0, 0, 0, 0, 0, 0, 0, 0] ++
    ([0x88, 0x02, 0x90, 0x00] ++ (peer.mac.bytes ++ (ourMac.bytes ++ (ourMac.bytes ++
    ([0, 0, 0, 0] ++ List.replicate (pad4 46) 0)))))))

/-- The payload of `CMD_PACKET_TX`. -/
def gipTxPayload (peer : Peer) (ourMac : Mac) (gip : List UInt8) : List UInt8 :=
  gipTxHeader peer ourMac (UInt16.ofNat (26 + gip.length)) ++
    (gip ++ List.replicate (pad4 gip.length) 0)

/-- `wlan_send_gip`. -/
def wlanSendGip (peer : Peer) (gip : List UInt8) (air : Air) : Air :=
  if ¬peer.active ∨ gip.length = 0 then air
  else
    let payload := gipTxPayload peer air.ourMac gip
    if payload.length > 156 then air
    else { air with usb := (mt76McuCmd world.dongle cmdPacketTx payload air.usb).2 }

/-- `gip_next_sequence`: 0 is skipped. -/
def gipNextSequence (air : Air) : UInt8 × Air :=
  let seq := if air.hostSeq + 1 = 0 then 1 else air.hostSeq + 1
  (seq, { air with hostSeq := seq })

/-- `send_wlan_gip_frame`. -/
def sendWlanGipFrame (peer : Peer) (cmd deviceId type seq : UInt8) (payload : List UInt8)
    (payloadLen : UInt8) (air : Air) : Air :=
  let flags := ((type &&& 0x0f) <<< 4) ||| (deviceId &&& 0x0f)
  match gipBuild 68 cmd flags seq payload payloadLen with
  | none => air
  | some gip => wlanSendGip world peer gip air

/-- A command to device 0 with the next sequence number. -/
def sendWlanCommand (peer : Peer) (cmd type : UInt8) (payload : List UInt8) (air : Air) : Air :=
  let next := gipNextSequence air
  sendWlanGipFrame world peer cmd 0 type next.1 payload (UInt8.ofNat payload.length) next.2

/-- `send_wlan_power_on`. -/
def sendWlanPowerOn (peer : Peer) (air : Air) : Air :=
  sendWlanCommand world peer gipCmdPower gipTypeRequest [0x00] air

/-- `send_wlan_led_dim`. -/
def sendWlanLedDim (peer : Peer) (air : Air) : Air :=
  sendWlanCommand world peer gipCmdLed gipTypeRequest [0x00, 0x01, 0x14] air

/-- `send_wlan_serial_request`. -/
def sendWlanSerialRequest (peer : Peer) (air : Air) : Air :=
  sendWlanCommand world peer gipCmdSerial (gipTypeRequest ||| gipTypeAck) [0x04] air

/-- `send_wlan_gip_ack`. -/
def sendWlanGipAck (peer : Peer) (rxCmd rxDevice rxSeq rxLen : UInt8) (air : Air) : Air :=
  if ¬peer.active then air
  else
    sendWlanGipFrame world peer gipCmdAcknowledge rxDevice gipTypeRequest rxSeq
      [0, rxCmd, (gipTypeRequest <<< 4) ||| (rxDevice &&& 0x0f), rxLen, 0, 0, 0, 0, 0] 9 air

/-! ## Reading transmissions back -/

/-- A transmission a controller takes notice of. -/
inductive Sent
  /-- a GIP command -/
  | gip (dst : Mac) (cmd : UInt8)
  /-- an association or reassociation response -/
  | assocResponse (dst : Mac) (reassoc : Bool)
  deriving DecidableEq

/-- The GIP command or association response an entry carries. -/
def UsbIo.sent? (io : UsbIo) : Option Sent :=
  match io.wire? with
  | some (.mcu cmd payload) =>
      if cmd = cmdPacketTx then some (.gip (Mac.load (payload.drop 32)) (byteAt payload 56))
      else none
  | some (.wlan _ frame) =>
      if byteAt frame 0 = 0x10 then some (.assocResponse (Mac.load (frame.drop 4)) false)
      else if byteAt frame 0 = 0x30 then some (.assocResponse (Mac.load (frame.drop 4)) true)
      else none
  | none => none

/-- What the daemon has sent, newest first. -/
def Air.sent (air : Air) : List Sent :=
  air.usb.filterMap UsbIo.sent?

end XoneDarwin
