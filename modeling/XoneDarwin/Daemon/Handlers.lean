import XoneDarwin.Daemon.Refinement

/-!
# What the handlers are made of

Every handler of a transfer registers stations, sends things, changes slots and
sets flags, in some order. A property that each of these pieces keeps is kept by
every transfer.
-/

namespace XoneDarwin

/-- One call on the radio side. -/
inductive Air.Call (world : World) (air : Air) : Air → Prop
  | transmit (frame : List UInt8) (wcid : UInt8) : Call world air (transmit world frame wcid air)
  | gip (peer : Peer) (gip : List UInt8) : Call world air (wlanSendGip world peer gip air)
  | sequence : Call world air (gipNextSequence air).2
  | beacon (enabled : Bool) : Call world air (setPairingBeacon world enabled air)
  | lock (now : UInt64) : Call world air (lockPairingChannel now air)
  | awdl (now : UInt64) : Call world air (logAwdlIgnored now air)
  | client (wcid : UInt8) :
      Call world air { air with usb := (mt76FwClientAdd world.dongle wcid air.usb).2 }

/-- What a handler does to the daemon, piece by piece, keeps `I`. -/
structure Pieces (world : World) (I : Daemon → Prop) : Prop where
  remember : ∀ mac daemon, I daemon → I (rememberPeer world mac daemon).2
  air : ∀ {daemon : Daemon} {air : Air}, daemon.air.Call world air → I daemon →
    I { daemon with air := air }
  pads : ∀ {daemon : Daemon} (pads : Pads), I daemon → I { daemon with pads := pads }
  peer : ∀ {daemon : Daemon} (i : Fin maxPeers) (peer : Peer),
    peer.active = (daemon.table.peers i).active → peer.mac = (daemon.table.peers i).mac →
    I daemon → I { daemon with table := daemon.table.setPeer i peer }

namespace Pieces

variable {world : World} {I : Daemon → Prop} (hpieces : Pieces world I) {daemon : Daemon}

include hpieces

/-! ## Packets -/

theorem sendWlanGipFrame (peer : Peer) (cmd deviceId type seq : UInt8) (payload : List UInt8)
    (payloadLen : UInt8) (hdaemon : I daemon) :
    I { daemon with
      air := sendWlanGipFrame world peer cmd deviceId type seq payload payloadLen daemon.air } := by
  unfold XoneDarwin.sendWlanGipFrame
  dsimp only
  split
  · exact hdaemon
  next gip _ => exact hpieces.air (.gip peer gip) hdaemon

theorem sendWlanCommand (peer : Peer) (cmd type : UInt8) (payload : List UInt8)
    (hdaemon : I daemon) :
    I { daemon with air := sendWlanCommand world peer cmd type payload daemon.air } :=
  hpieces.sendWlanGipFrame peer cmd 0 type (gipNextSequence daemon.air).1 payload _
    (hpieces.air .sequence hdaemon)

theorem sendInitialCommands (i : Fin maxPeers) (hdaemon : I daemon) :
    I (sendInitialCommands world i daemon) := by
  have hflags := hpieces.peer i { daemon.table.peers i with
    initialCommandsSent := true, sessionInitialized := true } rfl rfl hdaemon
  unfold XoneDarwin.sendInitialCommands
  dsimp only
  split
  · exact hflags
  · have hpower := hpieces.sendWlanCommand (daemon.table.peers i) gipCmdPower gipTypeRequest
      [0x00] hflags
    have hled := hpieces.sendWlanCommand (daemon.table.peers i) gipCmdLed gipTypeRequest
      [0x00, 0x01, 0x14] hpower
    exact hpieces.sendWlanCommand _ _ _ _ hled

theorem dispatchAck (i : Fin maxPeers) (h : GipHeader) (hdaemon : I daemon) :
    I (dispatchAck world i h daemon) := by
  unfold XoneDarwin.dispatchAck sendWlanGipAck
  split
  · split
    · exact hdaemon
    · exact hpieces.sendWlanGipFrame _ _ _ _ _ _ _ hdaemon
  · exact hdaemon

theorem dispatchWlanGip (i : Fin maxPeers) (slot : UInt8) (gip : List UInt8) (gipLen : Int)
    (hdaemon : I daemon) : I (dispatchWlanGip world i slot gip gipLen daemon) := by
  have hacked := hpieces.dispatchAck i (gipHeader gip) hdaemon
  unfold XoneDarwin.dispatchWlanGip
  dsimp only
  split_ifs
  · exact hdaemon
  · exact hpieces.pads _ hacked
  · exact hpieces.pads _ hacked
  · exact hpieces.sendInitialCommands i hacked
  · exact hacked
  · exact hacked
  · exact hpieces.pads _ hacked
  · exact hpieces.pads _ hacked
  · exact hacked
  · exact hacked

/-! ## Frames from controllers -/

theorem findOrRemember (mac : Mac) (hdaemon : I daemon) :
    I (findOrRemember world mac daemon).2 := by
  unfold XoneDarwin.findOrRemember
  split
  · exact hdaemon
  · exact hpieces.remember mac daemon hdaemon

theorem peerSlot (i : Fin maxPeers) (hdaemon : I daemon) :
    I { daemon with table := (daemon.table.peerSlot i).2 } := by
  unfold PeerTable.peerSlot
  dsimp only
  split
  · exact hdaemon
  · split
    · exact hdaemon
    · exact hpieces.peer i _ rfl rfl hdaemon

theorem establishDataPath (i : Fin maxPeers) (slot : UInt8) (hdaemon : I daemon) :
    I (establishDataPath world i slot daemon) := by
  unfold XoneDarwin.establishDataPath beaconAfterConnect
  dsimp only
  split
  · exact hdaemon
  · have hconnected := hpieces.pads (onConnect world.host world.eventUdp slot daemon.pads)
      (hpieces.peer i { daemon.table.peers i with handshakeDone := true } rfl rfl hdaemon)
    split
    · exact hpieces.air (.beacon _) hconnected
    · exact hpieces.air (.beacon _) hconnected

theorem onXboxData (src : Mac) (rxWcid : UInt8) (payload : List UInt8) (plen : Int)
    (hdaemon : I daemon) : I (onXboxData world src rxWcid payload plen daemon) := by
  have hfound := hpieces.findOrRemember src hdaemon
  unfold XoneDarwin.onXboxData
  split
  · exact hdaemon
  · dsimp only
    split
    · exact hfound
    next i _ =>
      have hmapped := hpieces.peerSlot i hfound
      split
      · exact hmapped
      · exact hpieces.dispatchWlanGip i _ _ _ (hpieces.establishDataPath i _ hmapped)

theorem onXboxAction (src : Mac) (plen : Int) (hdaemon : I daemon) :
    I (onXboxAction world src plen daemon) := by
  have hfound := hpieces.remember src daemon hdaemon
  unfold XoneDarwin.onXboxAction
  split
  · exact hdaemon
  · dsimp only
    split
    · exact hfound
    next i _ =>
      have hmapped := hpieces.peerSlot i hfound
      split
      · exact hmapped
      · split
        · exact hmapped
        · refine hpieces.peer i
            { (((rememberPeer world src daemon).2.table.peerSlot i).2.peers i) with
              handshakeDone := true } rfl rfl (hpieces.pads _ (hpieces.air ?_ hmapped))
          exact .transmit _ _

/-! ## Management frames -/

theorem addFwClient (remembered : Option (Fin maxPeers)) (hdaemon : I daemon) :
    I (addFwClient world remembered daemon) := by
  unfold XoneDarwin.addFwClient
  split
  · exact hdaemon
  next i =>
    dsimp only
    split
    · exact hdaemon
    · exact hpieces.air (.client _)
        (hpieces.peer i { daemon.table.peers i with fwClientAdded := true } rfl rfl hdaemon)

theorem handleProbe (now : UInt64) (frame : RxFrame) (hdaemon : I daemon) :
    I (handleProbe world now frame daemon) := by
  have hlocked := hpieces.air (.lock now) hdaemon
  unfold XoneDarwin.handleProbe
  dsimp only
  split
  · exact hpieces.air (.transmit _ _) (hpieces.remember _ _ hlocked)
  · exact hlocked

theorem handlePair (now : UInt64) (frame : RxFrame) (hdaemon : I daemon) :
    I (handlePair world now frame daemon) := by
  have hlocked := hpieces.air (.lock now) hdaemon
  unfold XoneDarwin.handlePair
  dsimp only
  split
  · have hanswered := hpieces.air (.transmit
      (pairResponse frame.src (lockPairingChannel now daemon.air).ourMac) 0xff) hlocked
    have hoff := hpieces.air (.beacon false) hanswered
    have hon := hpieces.air (.beacon true) hanswered
    split
    · exact hoff
    · split
      · exact hon
      · exact hanswered
  · exact hlocked

theorem handleAuth (now : UInt64) (frame : RxFrame) (hdaemon : I daemon) :
    I (handleAuth world now frame daemon) := by
  have hlocked := hpieces.air (.lock now) hdaemon
  unfold XoneDarwin.handleAuth sendAuthResponse
  dsimp only
  have hanswered := hpieces.air (.transmit (authResponse frame.src
    (lockPairingChannel now daemon.air).ourMac frame.pl frame.payloadLen
    frame.fcSubtype) 0xff) hlocked
  split
  · exact hanswered
  · exact hpieces.air (.transmit _ _) (hpieces.remember _ _ hlocked)

theorem handleAssoc (now : UInt64) (frame : RxFrame) (reassoc : Bool) (hdaemon : I daemon) :
    I (handleAssoc world now frame reassoc daemon) := by
  have hlocked := hpieces.air (.lock now) hdaemon
  have hadded := hpieces.addFwClient (rememberPeer world frame.src
    { daemon with air := lockPairingChannel now daemon.air }).1
    (hpieces.remember frame.src _ hlocked)
  unfold XoneDarwin.handleAssoc sendReassocResponse sendAssocResponse sendAssocResponseCommon
  dsimp only
  split
  · exact hlocked
  · split
    · exact hpieces.air (.transmit _ _) hadded
    · exact hpieces.air (.transmit _ _) hadded

/-! ## Transfers -/

theorem handleEvent (t : Transfer) (hdaemon : I daemon) : I (handleEvent world t daemon) := by
  unfold XoneDarwin.handleEvent
  dsimp only
  split
  next lostWcid _ =>
    split
    · have hlost := hpieces.pads (onDisconnect world.eventUdp (lostWcid - 1) daemon.pads) hdaemon
      split
      · exact hpieces.air (.beacon true) hlost
      · exact hlost
    · exact hdaemon
  next =>
    split
    · exact hpieces.air (.beacon true) hdaemon
    · exact hdaemon

/-- A transfer keeps what its pieces keep. -/
theorem handleTransfer (now : UInt64) (t : Transfer) (hdaemon : I daemon) :
    I (handleTransfer world now t daemon) := by
  unfold XoneDarwin.handleTransfer
  split
  · exact hdaemon
  · split
    next frame _ =>
      apply handleFrame_cases world now frame daemon (motive := fun _ after => I after)
      · exact fun _ _ => hpieces.onXboxData _ _ _ _ hdaemon
      · exact fun _ _ => hpieces.onXboxAction _ _ hdaemon
      · exact fun _ _ => hpieces.air (.awdl now) hdaemon
      · exact fun _ => hpieces.handleProbe now frame hdaemon
      · exact fun _ => hpieces.handlePair now frame hdaemon
      · exact fun _ => hpieces.handleAuth now frame hdaemon
      · exact fun reassoc _ => hpieces.handleAssoc now frame reassoc hdaemon
      · exact fun _ _ => hdaemon
    · exact hpieces.handleEvent t hdaemon

end Pieces

end XoneDarwin
