import XoneDarwin.Daemon.Pads
import XoneDarwin.Mt76.Radio

/-!
# The daemon's globals

The static variables of `xbox_daemon.c`, grouped by the handlers that write them:
the peer table, the controller slots and the radio side. What lies outside the
process (dongle, host, environment, firmware file) is a `World`.
-/

namespace XoneDarwin

open CString

/-! ## Environment -/

/-- The environment variables `main` and `mt76_upload_fw_dma` read. -/
structure Env where
  xboxWlanAck : Option (List Char) := none
  xboxClientLostEvents : Option (List Char) := none
  xboxMultiPair : Option (List Char) := none
  xboxPairChannel : Option (List Char) := none
  xboxFwForceReload : Option (List Char) := none

/-- `env && env[0] && strcmp(env, "0") != 0`. -/
def envFlag (var : Option (List Char)) : Bool :=
  match var with
  | none => false
  | some text => text ≠ [] && text ≠ ['0']

namespace Env

variable (env : Env)

/-- `g_wlan_ack_enabled`, which the source only prints. -/
def wlanAckEnabled : Bool := envFlag env.xboxWlanAck

/-- `g_handle_client_lost`. -/
def handleClientLost : Bool := envFlag env.xboxClientLostEvents

/-- `g_multi_pair_mode`. -/
def multiPairMode : Bool := envFlag env.xboxMultiPair

/-- `XBOX_FW_FORCE_RELOAD`. -/
def forceReload : Bool := envFlag env.xboxFwForceReload

/-- `g_forced_pairing_channel`: 0 unless one of the four admitted channels is asked for. -/
def forcedPairingChannel : UInt8 :=
  match env.xboxPairChannel with
  | none => 0
  | some text =>
      let ch := atoi text
      if text ≠ [] ∧ (ch = 36 ∨ ch = 40 ∨ ch = 44 ∨ ch = 48) then UInt8.ofInt ch else 0

end Env

/-- Everything outside the process. `eventUdp` is what `init_event_udp_from_env`
makes of `g_event_udp_enabled`, `firmware` what `mt76_load_firmware` returns. -/
structure World where
  pid : Pid
  dongle : Dongle
  host : Host
  env : Env := {}
  eventUdp : Bool := false
  firmware : Option (List UInt8) := none

/-! ## Globals -/

/-- `sizeof(g_peers) / sizeof(g_peers[0])`. -/
abbrev maxPeers : Nat := 128

instance : NeZero maxPeers := ⟨by decide⟩

/-- `peer_t`. -/
structure Peer where
  active : Bool := false
  mac : Mac := ⟨0, 0, 0, 0, 0, 0⟩
  wcid : UInt8 := 0
  handshakeDone : Bool := false
  slot : UInt8 := 0
  fwClientAdded : Bool := false
  sessionInitialized : Bool := false
  initialCommandsSent : Bool := false
  deriving DecidableEq

/-- `g_peers` and `g_next_wcid`. -/
@[ext] structure PeerTable where
  peers : Fin maxPeers → Peer := fun _ => {}
  nextWcid : UInt8 := 1

/-- The radio side: what the beacon, scan and transmit functions read and write. -/
structure Air where
  hostSeq : UInt8 := 0
  ourMac : Mac := ⟨0x62, 0x45, 0xbd, 0x01, 0x02, 0x03⟩
  pairingChannel : UInt8 := 0x2c
  channelLockUntilMs : UInt64 := 0
  pairingBeaconEnabled : Bool := true
  awdlIgnored : UInt32 := 0
  awdlLastLogMs : UInt64 := 0
  scan : ScanState := scanInit
  usb : UsbLog := []

/-- The state of the process. -/
structure Daemon where
  table : PeerTable := {}
  pads : Pads := {}
  air : Air := {}

end XoneDarwin
