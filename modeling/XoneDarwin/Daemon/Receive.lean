import XoneDarwin.Daemon.Transmit

/-!
# Received transfers

One pass of the reader thread over a bulk transfer: the MT76 envelope, the 802.11
frame and the handlers of `reader_thread`, each guarded as in the source.
-/

namespace XoneDarwin

variable (world : World)

/-- A completed bulk transfer; the buffer holds `USB_BUF_SIZE` bytes. -/
structure Transfer where
  bytes : List UInt8
  fits : bytes.length ≤ usbBufSize

/-! ## The MT76 envelope -/

/-- Bits 31:30 of the RxInfo word. -/
def infoType (rxinfo : UInt32) : UInt32 := (rxinfo >>> 30) &&& 3

/-- Bits 29:27. -/
def infoPort (rxinfo : UInt32) : UInt32 := (rxinfo >>> 27) &&& 7

/-- Bits 23:20. -/
def eventType (rxinfo : UInt32) : UInt32 := (rxinfo >>> 20) &&& 0x0f

/-- `is_wlan_rx`: an 802.11 frame or an `EVT_PACKET_RX` event. -/
def isWlanRx (rxinfo : UInt32) : Prop :=
  infoType rxinfo = 0 ∧ infoPort rxinfo = 0 ∧ (rxinfo >>> 19) &&& 1 ≠ 0 ∨
    infoType rxinfo = 1 ∧ infoPort rxinfo = 1 ∧ eventType rxinfo = 0x0c

instance (rxinfo : UInt32) : Decidable (isWlanRx rxinfo) :=
  inferInstanceAs (Decidable (_ ∨ _))

/-- A received 802.11 frame. `pl` runs to the end of the transfer, `payloadLen` leaves
out the end marker and may be negative. -/
structure RxFrame where
  fcType : UInt8
  fcSubtype : UInt8
  rxWcid : UInt8
  dst : Mac
  src : Mac
  bss : Mac
  pl : List UInt8
  payloadLen : Int

/-- RxInfo (4 bytes), RxWi (32), 802.11 header (24), payload. -/
def rxFrame? (t : Transfer) : Option RxFrame :=
  if isWlanRx (load32 t.bytes) ∧ t.bytes.length ≥ 60 then
    let wf := t.bytes.drop 36
    let fc := load16 wf
    some {
      fcType := ((fc >>> 2) &&& 3).toUInt8
      fcSubtype := ((fc >>> 4) &&& 0xf).toUInt8
      rxWcid := (load32 (t.bytes.drop 8) &&& 0xff).toUInt8
      dst := Mac.load (wf.drop 4)
      src := Mac.load (wf.drop 10)
      bss := Mac.load (wf.drop 16)
      pl := t.bytes.drop 60
      payloadLen := (t.bytes.length : Int) - 60 - 4 }
  else none

/-- The transfer in which the dongle delivers a frame with access point `ap`. -/
def wlanTransfer (fc : UInt8) (ap src : Mac) (payload : List UInt8)
    (hfits : payload.length ≤ 4032) : Transfer where
  bytes := store32 ((1 : UInt32) <<< 19) ++ List.replicate 32 0 ++ [fc, 0, 0, 0] ++ ap.bytes ++
    src.bytes ++ ap.bytes ++ [0, 0] ++ payload ++ List.replicate 4 0
  fits := by
    change _ ≤ 4096
    simp
    omega

theorem rxFrame?_wlanTransfer (fc : UInt8) (ap src : Mac) (payload : List UInt8)
    (hfits : payload.length ≤ 4032) :
    rxFrame? (wlanTransfer fc ap src payload hfits) = some {
      fcType := ((load16 [fc, 0] >>> 2) &&& 3).toUInt8
      fcSubtype := ((load16 [fc, 0] >>> 4) &&& 0xf).toUInt8
      rxWcid := 0
      dst := ap
      src := src
      bss := ap
      pl := payload ++ List.replicate 4 0
      payloadLen := payload.length } := by
  have hlength : (wlanTransfer fc ap src payload hfits).bytes.length = 60 + payload.length + 4 := by
    simp [wlanTransfer]
    omega
  have hwlan : isWlanRx (load32 (wlanTransfer fc ap src payload hfits).bytes) := by
    have hword : load32 (wlanTransfer fc ap src payload hfits).bytes = (1 : UInt32) <<< 19 := by
      simp only [wlanTransfer, List.append_assoc, load32_store32]
    rw [hword]
    decide
  have hlen : ((wlanTransfer fc ap src payload hfits).bytes.length : Int) - 60 - 4 =
      payload.length := by omega
  rw [rxFrame?, if_pos ⟨hwlan, by omega⟩]
  have hwcid : (load32 ((wlanTransfer fc ap src payload hfits).bytes.drop 8) &&& 0xff).toUInt8 =
      (load32 [0, 0, 0, 0] &&& 0xff).toUInt8 := rfl
  have hzero : (load32 [0, 0, 0, 0] &&& 0xff).toUInt8 = 0 := by decide
  have hheader : (wlanTransfer fc ap src payload hfits).bytes.drop 36 = [fc, 0, 0, 0] ++
      (ap.bytes ++ (src.bytes ++ (ap.bytes ++ ([0, 0] ++ (payload ++ List.replicate 4 0))))) := rfl
  have hpl : (wlanTransfer fc ap src payload hfits).bytes.drop 60 =
      payload ++ List.replicate 4 0 := rfl
  simp only [hlen, hwcid, hzero, hheader, hpl]
  rfl

/-- `to_us`. -/
def RxFrame.ToUs (frame : RxFrame) (ourMac : Mac) : Prop :=
  frame.dst = ourMac ∨ frame.bss = ourMac

instance (frame : RxFrame) (ourMac : Mac) : Decidable (frame.ToUs ourMac) :=
  inferInstanceAs (Decidable (_ ∨ _))

/-- A QoS data frame with GIP data in it, addressed to `ourMac`. -/
def RxFrame.QosData (frame : RxFrame) (ourMac : Mac) : Prop :=
  frame.fcType = 2 ∧ frame.fcSubtype = 8 ∧ frame.ToUs ourMac ∧ frame.payloadLen > 4

instance (frame : RxFrame) (ourMac : Mac) : Decidable (frame.QosData ourMac) :=
  inferInstanceAs (Decidable (_ ∧ _))

/-- A management frame of the given subtype, addressed to `ourMac`. -/
def RxFrame.Mgmt (frame : RxFrame) (subtype : UInt8) (ourMac : Mac) : Prop :=
  frame.fcType = 0 ∧ frame.fcSubtype = subtype ∧ frame.ToUs ourMac

instance (frame : RxFrame) (subtype : UInt8) (ourMac : Mac) :
    Decidable (frame.Mgmt subtype ourMac) :=
  inferInstanceAs (Decidable (_ ∧ _))

/-- `mac_is_awdl_bssid`. -/
def macIsAwdlBssid (mac : Mac) : Prop :=
  mac.b0 = 0x00 ∧ mac.b1 = 0x25 ∧ mac.b2 = 0x00

instance (mac : Mac) : Decidable (macIsAwdlBssid mac) :=
  inferInstanceAs (Decidable (_ ∧ _))

/-! ## GIP -/

/-- `gip_header_t`. -/
structure GipHeader where
  command : UInt8
  client : UInt8
  sequence : UInt8
  length : UInt8

def gipHeader (gip : List UInt8) : GipHeader :=
  ⟨byteAt gip 0, byteAt gip 1, byteAt gip 2, byteAt gip 3⟩

namespace GipHeader

def deviceId (h : GipHeader) : UInt8 := h.client &&& 0x0f

def frameType (h : GipHeader) : UInt8 := (h.client >>> 4) &&& 0x0f

/-- The payload bytes there are: the header's length, or less. -/
def plen (h : GipHeader) (avail : Int) : UInt8 :=
  UInt8.ofInt (if (h.length.toNat : Int) < avail then h.length.toNat else avail)

end GipHeader

/-- The start-up sequence after an announce. -/
def sendInitialCommands (i : Fin maxPeers) (daemon : Daemon) : Daemon :=
  let peer := daemon.table.peers i
  let commanded :=
    if peer.initialCommandsSent then daemon.air
    else
      sendWlanSerialRequest world peer (sendWlanLedDim world peer
        (sendWlanPowerOn world peer daemon.air))
  { daemon with
    table := daemon.table.setPeer i
      { peer with initialCommandsSent := true, sessionInitialized := true }
    air := commanded }

/-- The acknowledgement `dispatch_wlan_gip` sends if the type nibble asks for one. -/
def dispatchAck (i : Fin maxPeers) (h : GipHeader) (daemon : Daemon) : Daemon :=
  if h.frameType &&& gipTypeAck ≠ 0 then
    { daemon with
      air := sendWlanGipAck world (daemon.table.peers i) h.command h.deviceId h.sequence h.length
        daemon.air }
  else daemon

/-- `dispatch_wlan_gip`. -/
def dispatchWlanGip (i : Fin maxPeers) (slot : UInt8) (gip : List UInt8) (gipLen : Int)
    (daemon : Daemon) : Daemon :=
  if slot ≥ 8 ∨ gipLen < 4 then daemon
  else
    let h := gipHeader gip
    let plen := h.plen (gipLen - 4)
    let acked := dispatchAck world i h daemon
    if h.command = gipCmdCtrlAdded then
      { acked with pads := onConnect world.host world.eventUdp slot acked.pads }
    else if h.command = gipCmdCtrlLost then
      { acked with pads := onDisconnect world.eventUdp slot acked.pads }
    else if h.command = gipCmdAnnounce then
      if h.deviceId = 0 ∧ h.frameType = gipTypeRequest then sendInitialCommands world i acked
      else acked
    -- a status report is not acted on
    else if h.command = gipCmdStatus then acked
    else if h.command = gipCmdInput ∨ h.command = gipCmdInputOverflow then
      { acked with pads := onInput world.eventUdp slot (gip.drop 4) plen acked.pads }
    else if h.command = gipCmdGuideBtn then
      if plen ≥ 1 then
        { acked with pads := onGuide world.eventUdp slot (byteAt gip 4 ≠ 0) acked.pads }
      else acked
    else acked

/-! ## Frames from controllers -/

/-- The look-up of `on_xbox_data`: find the peer, else remember it. -/
def findOrRemember (mac : Mac) (daemon : Daemon) : Option (Fin maxPeers) × Daemon :=
  match daemon.table.findPeerByMac mac with
  | some i => (some i, daemon)
  | none => rememberPeer world mac daemon

/-- The pairing beacon once a data path is up. -/
def beaconAfterConnect (daemon : Daemon) : Daemon :=
  { daemon with air :=
      if world.env.multiPairMode then
        setPairingBeacon world (activeSlotCount daemon.pads < maxSlots) daemon.air
      else setPairingBeacon world false daemon.air }

/-- The one-time part of `on_xbox_data`. -/
def establishDataPath (i : Fin maxPeers) (slot : UInt8) (daemon : Daemon) : Daemon :=
  let peer := daemon.table.peers i
  if peer.handshakeDone then daemon
  else
    beaconAfterConnect world { daemon with
      pads := onConnect world.host world.eventUdp slot daemon.pads
      table := daemon.table.setPeer i { peer with handshakeDone := true } }

/-- `on_xbox_data`. The received WCID is only compared for a log line. -/
def onXboxData (src : Mac) (_rxWcid : UInt8) (payload : List UInt8) (plen : Int)
    (daemon : Daemon) : Daemon :=
  if plen ≤ 4 then daemon
  else
    let found := findOrRemember world src daemon
    match found.1 with
    | none => found.2
    | some i =>
        let slot := found.2.table.peerSlot i
        let mapped := { found.2 with table := slot.2 }
        if slot.1 ≥ 8 then mapped
        else
          dispatchWlanGip world i slot.1 (payload.drop 4) (plen - 4)
            (establishDataPath world i slot.1 mapped)

/-- `on_xbox_action`. -/
def onXboxAction (src : Mac) (plen : Int) (daemon : Daemon) : Daemon :=
  if plen < 5 then daemon
  else
    let found := rememberPeer world src daemon
    match found.1 with
    | none => found.2
    | some i =>
        let slot := found.2.table.peerSlot i
        let mapped := { found.2 with table := slot.2 }
        if slot.1 ≥ 8 then mapped
        else
          let peer := mapped.table.peers i
          if peer.handshakeDone then mapped
          else
            { mapped with
              air := sendXboxActionResponse world src mapped.air.ourMac peer.wcid mapped.air
              pads := onConnect world.host world.eventUdp slot.1 mapped.pads
              table := mapped.table.setPeer i { peer with handshakeDone := true } }

/-! ## The reader -/

section

variable (now : UInt64) (frame : RxFrame)

/-- `is_xbox_action`. -/
def RxFrame.IsXboxAction : Prop :=
  frame.fcType = 0 ∧ frame.fcSubtype = 13 ∧ frame.payloadLen ≥ 5 ∧ byteAt frame.pl 0 = 0x7f ∧
    byteAt frame.pl 1 = 0x00 ∧ byteAt frame.pl 2 = 0x17 ∧ byteAt frame.pl 3 = 0xf2 ∧
    byteAt frame.pl 4 = 0x08

instance : Decidable frame.IsXboxAction :=
  inferInstanceAs (Decidable (_ ∧ _))

/-- A directed probe request, answered if its SSID element is empty. -/
def handleProbe (daemon : Daemon) : Daemon :=
  let locked := { daemon with air := lockPairingChannel now daemon.air }
  if frame.payloadLen ≥ 2 ∧ byteAt frame.pl 0 = 0x00 ∧ byteAt frame.pl 1 = 0x00 then
    sendProbeResponse world frame.src locked.air.ourMac locked.air.pairingChannel locked
  else locked

/-- A pairing request of the reserved subtype 7. -/
def handlePair (daemon : Daemon) : Daemon :=
  let locked := { daemon with air := lockPairingChannel now daemon.air }
  if frame.payloadLen ≥ 2 ∧ byteAt frame.pl 0 = 0x70 ∧ byteAt frame.pl 1 = 0x01 then
    let answered := sendPairResponse world frame.src locked.air.ourMac locked.air
    { locked with air :=
        if ¬world.env.multiPairMode then setPairingBeacon world false answered
        else if activeSlotCount locked.pads < maxSlots then setPairingBeacon world true answered
        -- with every slot in use the beacon is left as it is
        else answered }
  else locked

/-- An authentication request. -/
def handleAuth (daemon : Daemon) : Daemon :=
  let locked := { daemon with air := lockPairingChannel now daemon.air }
  sendAuthResponse world frame.src locked.air.ourMac frame.pl frame.payloadLen frame.fcSubtype
    locked

/-- Is the sender a peer whose session is initialised? -/
def sessionInitializedFor (mac : Mac) (table : PeerTable) : Bool :=
  match table.findPeerByMac mac with
  | some i => (table.peers i).sessionInitialized
  | none => false

/-- An association (`reassoc = false`) or reassociation request. -/
def handleAssoc (reassoc : Bool) (daemon : Daemon) : Daemon :=
  let locked := { daemon with air := lockPairingChannel now daemon.air }
  if sessionInitializedFor frame.src locked.table then locked
  else if reassoc then sendReassocResponse world frame.src locked.air.ourMac locked
  else sendAssocResponse world frame.src locked.air.ourMac locked

/-- The WLAN branch of `reader_thread`: every handler behind its own test. -/
def handleFrame (daemon : Daemon) : Daemon :=
  let ourMac := daemon.air.ourMac
  let daemon :=
    if frame.QosData ourMac then
      onXboxData world frame.src frame.rxWcid frame.pl frame.payloadLen daemon
    else daemon
  let daemon :=
    if frame.IsXboxAction ∧ frame.ToUs ourMac then
      onXboxAction world frame.src frame.payloadLen daemon
    else if frame.IsXboxAction ∧ macIsAwdlBssid frame.bss then
      { daemon with air := logAwdlIgnored now daemon.air }
    else daemon
  let daemon := if frame.Mgmt 4 ourMac then handleProbe world now frame daemon else daemon
  let daemon := if frame.Mgmt 7 ourMac then handlePair world now frame daemon else daemon
  let daemon := if frame.Mgmt 11 ourMac then handleAuth world now frame daemon else daemon
  let daemon := if frame.Mgmt 0 ourMac then handleAssoc world now frame false daemon else daemon
  if frame.Mgmt 2 ourMac then handleAssoc world now frame true daemon else daemon

end

/-- `lost_wcid` of an `EVT_CLIENT_LOST` event that is acted on. -/
def clientLost? (env : Env) (t : Transfer) : Option UInt8 :=
  let rxinfo := load32 t.bytes
  if infoType rxinfo = 1 ∧ infoPort rxinfo = 1 ∧ env.handleClientLost ∧ eventType rxinfo = 0x0e ∧
      t.bytes.length ≥ 8 then
    some (byteAt t.bytes 4)
  else none

/-- The other branch of `reader_thread`: events of the dongle's CPU. -/
def handleEvent (t : Transfer) (daemon : Daemon) : Daemon :=
  let rxinfo := load32 t.bytes
  match clientLost? world.env t with
  | some lostWcid =>
      if lostWcid > 0 ∧ lostWcid < 9 then
        let pads := onDisconnect world.eventUdp (lostWcid - 1) daemon.pads
        { daemon with
          pads := pads
          air := if world.env.multiPairMode then setPairingBeacon world true daemon.air
            else daemon.air }
      else daemon
  | none =>
      if infoType rxinfo = 1 ∧ infoPort rxinfo = 1 ∧ eventType rxinfo = 0x04 then
        { daemon with air := setPairingBeacon world true daemon.air }
      else daemon

/-- One transfer received by `reader_thread` at clock reading `now`. -/
def handleTransfer (now : UInt64) (t : Transfer) (daemon : Daemon) : Daemon :=
  if t.bytes.length < 8 then daemon
  else
    match rxFrame? t with
    | some frame => handleFrame world now frame daemon
    | none => handleEvent world t daemon

end XoneDarwin
