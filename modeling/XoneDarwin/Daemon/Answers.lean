import XoneDarwin.Daemon.Layouts
import XoneDarwin.Daemon.OnAir
import XoneDarwin.Machine.Elements
import XoneDarwin.Machine.Traces

/-!
# What the daemon says as an access point

The management frames that go on the air, read back as 802.11, against the requests that were
received. Every frame answers a request, and every request that is due an answer gets one.
-/

namespace XoneDarwin

open Machine (run emitted Element Emits)

/-! ## Management frames -/

inductive MgmtBody
  | association (capability status aid : UInt16) (elements : List Element)
  | probe (interval capability : UInt16) (elements : List Element)
  | authentication (algorithm sequence status : UInt16)
  | vendor (oui values : List UInt8)
  /-- subtype 7 is reserved, and used for pairing -/
  | reserved (values : List UInt8)
  deriving DecidableEq

structure MgmtFrame where
  subtype : UInt8
  dst : Mac
  src : Mac
  bssid : Mac
  body : MgmtBody
  deriving DecidableEq

/-- The body of a frame of a subtype. -/
def readBody? (subtype : UInt8) (body : List UInt8) : Option MgmtBody :=
  if subtype = 1 ∨ subtype = 3 then
    (Element.read? (body.drop 6)).map fun elements =>
      .association (load16 body) (load16 (body.drop 2)) (load16 (body.drop 4)) elements
  else if subtype = 5 then
    (Element.read? (body.drop 12)).map fun elements =>
      .probe (load16 (body.drop 8)) (load16 (body.drop 10)) elements
  else if subtype = 7 then some (.reserved body)
  else if subtype = 11 ∧ body.length = 6 then
    some (.authentication (load16 body) (load16 (body.drop 2)) (load16 (body.drop 4)))
  else if subtype = 13 ∧ byteAt body 0 = 0x7f then
    some (.vendor ((body.drop 1).take 3) (body.drop 4))
  else none

/-- Frame control, duration, three addresses, sequence control, body. -/
def readMgmt? (frame : List UInt8) : Option MgmtFrame :=
  let fc := byteAt frame 0
  -- version and type 0, no flags
  if fc &&& 0x0f = 0 ∧ byteAt frame 1 = 0 ∧ frame.length ≥ 24 then
    (readBody? (fc >>> 4) (frame.drop 24)).map fun body =>
      { subtype := fc >>> 4
        dst := Mac.load (frame.drop 4)
        src := Mac.load (frame.drop 10)
        bssid := Mac.load (frame.drop 16)
        body }
  else none

/-- The frames handed to the radio, newest first. -/
def Air.frames (air : Air) : List (List UInt8) :=
  air.usb.filterMap UsbIo.frame?

/-! ## What is due -/

/-- The marker of beacons and probe responses. -/
def vendorElement : Element :=
  ⟨0xdd, [0x00, 0x50, 0xf2, 0x11, 0x01, 0x10, 0x00, 0x24, 0x9d, 0x99, 0, 0, 0, 0, 0, 0]⟩

/-- Is a controller to be greeted, and by which WCID? It is once, when it gets a slot. -/
def greeting? (mac : Mac) (table : PeerTable) : Option UInt8 :=
  let peer := (table.register mac).peers (table.entry mac)
  if (padOf? (table.entry mac)).isSome ∧ peer.handshakeDone = false then some peer.wcid else none

/-- The subtype and the body of the answer to a frame. -/
def RxFrame.answerBody? (frame : RxFrame) (daemon : Daemon) : Option (UInt8 × MgmtBody) :=
  let ourMac := daemon.air.ourMac
  if frame.IsXboxAction ∧ frame.ToUs ourMac then
    (greeting? frame.src daemon.table).map fun wcid =>
      (13, .vendor [0x00, 0x17, 0xf2] [0x08, 0x11, wcid, 0x00])
  else if frame.Mgmt 4 ourMac then
    if frame.payloadLen ≥ 2 ∧ byteAt frame.pl 0 = 0x00 ∧ byteAt frame.pl 1 = 0x00 then
      some (5, .probe 100 0xc631 [⟨0, []⟩, ⟨3, [daemon.air.pairingChannel]⟩, vendorElement])
    else none
  else if frame.Mgmt 7 ourMac then
    if frame.payloadLen ≥ 2 ∧ byteAt frame.pl 0 = 0x70 ∧ byteAt frame.pl 1 = 0x01 then
      some (7, .reserved
        [0x70, 0x02, 0x00, 0x45, 0x55, 0x01, 0x0f, 0x8f, 0xff, 0x87, 0x1f])
    else none
  else if frame.Mgmt 11 ourMac then
    some (11, .authentication (if frame.payloadLen ≥ 2 then load16 frame.pl else 0)
      (if frame.payloadLen ≥ 4 ∧ load16 (frame.pl.drop 2) ≠ 0 then load16 (frame.pl.drop 2) + 1
        else 2) 0)
  else if frame.Mgmt 0 ourMac ∨ frame.Mgmt 2 ourMac then
    if sessionInitializedFor frame.src daemon.table then none
    else some (if frame.Mgmt 2 ourMac then 3 else 1,
      .association 0 0 0xc001 (List.replicate 4 ⟨0, []⟩))
  else none

/-- The answer goes to the one who asked, from the address that is our BSSID too. -/
def RxFrame.answer? (frame : RxFrame) (daemon : Daemon) : Option MgmtFrame :=
  (frame.answerBody? daemon).map fun answer =>
    ⟨answer.1, frame.src, daemon.air.ourMac, daemon.air.ourMac, answer.2⟩

/-- The answer that is due after a step. -/
def Daemon.answers (daemon : Daemon) : Step → List MgmtFrame
  | .transfer _ t =>
      if t.bytes.length < 8 then []
      else ((rxFrame? t).bind fun frame => frame.answer? daemon).toList
  | .housekeeping _ _ => []

/-! ## Frames read back -/

section

variable (dst ourMac : Mac)

theorem readMgmt?_header {fc : UInt8} (hfc : fc &&& 0x0f = 0) (body : List UInt8) :
    readMgmt? (mgmtHeader fc dst ourMac ++ body) =
      (readBody? (fc >>> 4) body).map fun read => ⟨fc >>> 4, dst, ourMac, ourMac, read⟩ := by
  have hlength : (mgmtHeader fc dst ourMac ++ body).length ≥ 24 := by
    rw [List.length_append]
    exact Nat.le_add_right 24 body.length
  rw [readMgmt?, if_pos ⟨hfc, rfl, hlength⟩]
  rfl

theorem readBody?_probe (interval capability : UInt16) {elements : List Element}
    (hfits : ∀ element ∈ elements, element.value.length < 256) :
    readBody? 5 (List.replicate 8 0 ++ (store16 interval ++ (store16 capability ++
      elements.flatMap Element.bytes))) = some (.probe interval capability elements) := by
  rw [readBody?, if_neg (by decide), if_pos rfl]
  generalize hbody : List.replicate 8 0 ++ (store16 interval ++ (store16 capability ++
    elements.flatMap Element.bytes)) = body
  have hinterval : body.drop 8 = store16 interval ++ (store16 capability ++
      elements.flatMap Element.bytes) := hbody ▸ rfl
  have hcapability : body.drop 10 = store16 capability ++ elements.flatMap Element.bytes :=
    hbody ▸ rfl
  have helements : body.drop 12 = elements.flatMap Element.bytes := hbody ▸ rfl
  rw [hinterval, hcapability, helements, load16_store16, load16_store16, Element.read?_bytes hfits]
  rfl

theorem readMgmt?_probeResponse (channel : UInt8) :
    readMgmt? (probeResponse dst ourMac channel) = some ⟨5, dst, ourMac, ourMac,
      .probe 100 0xc631 [⟨0, []⟩, ⟨3, [channel]⟩, vendorElement]⟩ := by
  have hsubtype : (0x50 : UInt8) >>> 4 = 5 := by decide
  have hbody : [0, 0, 0, 0, 0, 0, 0, 0, 0x64, 0x00, 0x31, 0xc6, 0x00, 0x00, 0x03, 0x01, channel] ++
      vendorIe = List.replicate 8 0 ++ (store16 100 ++ (store16 0xc631 ++
        [⟨0, []⟩, ⟨3, [channel]⟩, vendorElement].flatMap Element.bytes)) := rfl
  rw [probeResponse, List.append_assoc, readMgmt?_header dst ourMac (by decide), hsubtype, hbody,
    readBody?_probe 100 0xc631 (by simp [vendorElement])]
  rfl

theorem readMgmt?_assocResponse (reassoc : Bool) :
    readMgmt? (assocResponse dst ourMac reassoc) =
      some ⟨if reassoc then 3 else 1, dst, ourMac, ourMac,
        .association 0 0 0xc001 (List.replicate 4 ⟨0, []⟩)⟩ := by
  have helements : Element.read?
      ((List.replicate 4 ⟨0, []⟩).flatMap Element.bytes) = some (List.replicate 4 ⟨0, []⟩) :=
    Element.read?_bytes (by simp)
  have hfc : (if reassoc then 0x30 else 0x10 : UInt8) &&& 0x0f = 0 := by cases reassoc <;> decide
  have hsubtype : (if reassoc then 0x30 else 0x10 : UInt8) >>> 4 = if reassoc then 3 else 1 := by
    cases reassoc <;> decide
  have hassoc : (if reassoc then 3 else 1 : UInt8) = 1 ∨ (if reassoc then 3 else 1 : UInt8) = 3 := by
    cases reassoc <;> decide
  rw [assocResponse, readMgmt?_header dst ourMac hfc, hsubtype, readBody?, if_pos hassoc]
  exact congrArg (Option.map _) (congrArg (Option.map _) helements)

theorem readMgmt?_pairResponse :
    readMgmt? (pairResponse dst ourMac) = some ⟨7, dst, ourMac, ourMac, .reserved
      [0x70, 0x02, 0x00, 0x45, 0x55, 0x01, 0x0f, 0x8f, 0xff, 0x87, 0x1f]⟩ := by
  have hsubtype : (0x70 : UInt8) >>> 4 = 7 := by decide
  rw [pairResponse, readMgmt?_header dst ourMac (by decide), hsubtype]
  rfl

theorem readMgmt?_authResponse (payload : List UInt8) (payloadLen : Int) {reqSubtype : UInt8}
    (hsubtype : reqSubtype ≠ 7) :
    readMgmt? (authResponse dst ourMac payload payloadLen reqSubtype) =
      some ⟨11, dst, ourMac, ourMac, .authentication
        (if payloadLen ≥ 2 then load16 payload else 0)
        (if payloadLen ≥ 4 ∧ load16 (payload.drop 2) ≠ 0 then load16 (payload.drop 2) + 1 else 2)
        0⟩ := by
  have hauth : (0xb0 : UInt8) >>> 4 = 11 := by decide
  rw [authResponse, if_neg hsubtype]
  dsimp only
  generalize (if payloadLen ≥ 2 then load16 payload else 0) = algorithm
  generalize (if payloadLen ≥ 4 ∧ load16 (payload.drop 2) ≠ 0 then load16 (payload.drop 2) + 1
    else 2) = sequence
  have halgorithm : load16 (store16 algorithm ++ (store16 sequence ++ store16 0)) = algorithm :=
    load16_store16 _ _
  have hsequence : load16 ((store16 algorithm ++ (store16 sequence ++ store16 0)).drop 2) =
      sequence := load16_store16 _ _
  have hstatus : load16 ((store16 algorithm ++ (store16 sequence ++ store16 0)).drop 4) = 0 := by
    exact load16_store16 0 []
  rw [List.append_assoc, List.append_assoc, readMgmt?_header dst ourMac (by decide), hauth,
    readBody?, if_neg (by decide), if_neg (by decide), if_neg (by decide), if_pos ⟨rfl, rfl⟩,
    halgorithm, hsequence, hstatus]
  rfl

theorem readMgmt?_xboxActionResponse (wcid : UInt8) :
    readMgmt? (xboxActionResponse dst ourMac wcid) =
      some ⟨13, dst, ourMac, ourMac,
        .vendor [0x00, 0x17, 0xf2] [0x08, 0x11, wcid, 0x00]⟩ := by
  have hsubtype : (0xd0 : UInt8) >>> 4 = 13 := by decide
  rw [xboxActionResponse, readMgmt?_header dst ourMac (by decide), hsubtype]
  rfl

end

/-! ## What says nothing -/

section

variable (world : World)

theorem frames_of_silent {before after : Air}
    (hemits : Emits (fun io => UsbIo.frame? io = none) before.usb after.usb) :
    after.frames = before.frames :=
  hemits.filterMap_eq

theorem frames_of_housework {before after : Air}
    (hemits : Emits UsbIo.Housework before.usb after.usb) : after.frames = before.frames :=
  frames_of_silent (hemits.mono fun _ hio => hio.frame?)

theorem beaconIo_frame? (mac : Mac) (channel : UInt8) (status : UsbStatus) :
    (beaconIo mac channel status).frame? = none := by
  rw [UsbIo.frame?, beaconIo_wire?]

theorem switchIo_frame? (ch bw scan power : UInt8) (status : UsbStatus) :
    (switchIo ch bw scan power status).frame? = none := by
  rw [UsbIo.frame?, switchIo_wire?]

theorem setPairingBeacon_frames (enabled : Bool) (air : Air) :
    (setPairingBeacon world enabled air).frames = air.frames := by
  unfold setPairingBeacon
  split
  · rfl
  · obtain ⟨status, hlog⟩ := mt76WriteBeacon_log world.dongle air.ourMac (if enabled then 1 else 0)
      air.pairingChannel air.usb
    apply frames_of_silent
    have hbeacon : Emits (fun io => UsbIo.frame? io = none) air.usb
        (beaconIo air.ourMac air.pairingChannel status :: air.usb) :=
      Emits.one (beaconIo_frame? air.ourMac air.pairingChannel status)
    exact hbeacon.trans (hlog.mono fun _ hio => hio.frame?)

theorem wlanSendGip_frames (peer : Peer) (gip : List UInt8) (air : Air) :
    (wlanSendGip world peer gip air).frames = air.frames := by
  unfold wlanSendGip
  dsimp only
  split_ifs with hnone hlong
  · rfl
  · rfl
  · apply frames_of_silent
    refine mt76McuCmd_emits world.dongle (fun status => ?_) air.usb
    have hcmd : cmdPacketTx.toNat < 128 := by decide
    rw [UsbIo.frame?, UsbIo.wire?, wire?_mcuPacket hcmd (by omega)]

theorem sendWlanGipFrame_frames (peer : Peer) (cmd deviceId type seq : UInt8)
    (payload : List UInt8) (payloadLen : UInt8) (air : Air) :
    (sendWlanGipFrame world peer cmd deviceId type seq payload payloadLen air).frames =
      air.frames := by
  unfold sendWlanGipFrame
  dsimp only
  split
  · rfl
  · exact wlanSendGip_frames world peer _ air

theorem sendWlanCommand_frames (peer : Peer) (cmd type : UInt8) (payload : List UInt8) (air : Air) :
    (sendWlanCommand world peer cmd type payload air).frames = air.frames :=
  sendWlanGipFrame_frames world peer cmd 0 type _ payload _ (gipNextSequence air).2

theorem sendInitialCommands_frames (i : Fin maxPeers) (daemon : Daemon) :
    (sendInitialCommands world i daemon).air.frames = daemon.air.frames := by
  unfold sendInitialCommands
  dsimp only
  split
  · rfl
  · exact (sendWlanCommand_frames world _ _ _ _ _).trans
      ((sendWlanCommand_frames world _ _ _ _ _).trans (sendWlanCommand_frames world _ _ _ _ _))

theorem dispatchAck_frames (i : Fin maxPeers) (h : GipHeader) (daemon : Daemon) :
    (dispatchAck world i h daemon).air.frames = daemon.air.frames := by
  unfold dispatchAck sendWlanGipAck
  split
  · split
    · rfl
    · exact sendWlanGipFrame_frames world _ _ _ _ _ _ _ _
  · rfl

theorem dispatchWlanGip_frames (i : Fin maxPeers) (slot : UInt8) (gip : List UInt8) (gipLen : Int)
    (daemon : Daemon) :
    (dispatchWlanGip world i slot gip gipLen daemon).air.frames = daemon.air.frames := by
  have hacked := dispatchAck_frames world i (gipHeader gip) daemon
  unfold dispatchWlanGip
  dsimp only
  split_ifs
  · rfl
  · exact hacked
  · exact hacked
  · exact (sendInitialCommands_frames world i _).trans hacked
  · exact hacked
  · exact hacked
  · exact hacked
  · exact hacked
  · exact hacked
  · exact hacked

theorem rememberPeer_frames (mac : Mac) (daemon : Daemon) :
    (rememberPeer world mac daemon).2.air.frames = daemon.air.frames :=
  frames_of_housework (Emits.housework (rememberPeer_emits world mac daemon))

theorem establishDataPath_frames (i : Fin maxPeers) (slot : UInt8) (daemon : Daemon) :
    (establishDataPath world i slot daemon).air.frames = daemon.air.frames := by
  unfold establishDataPath beaconAfterConnect
  dsimp only
  split
  · rfl
  · split
    · exact setPairingBeacon_frames world _ _
    · exact setPairingBeacon_frames world _ _

theorem onXboxData_frames (src : Mac) (rxWcid : UInt8) (payload : List UInt8) (plen : Int)
    (daemon : Daemon) :
    (onXboxData world src rxWcid payload plen daemon).air.frames = daemon.air.frames := by
  have hfound := rememberPeer_frames world src daemon
  unfold onXboxData
  rw [findOrRemember_eq]
  split
  · rfl
  · dsimp only
    split
    · exact hfound
    next i _ =>
      split
      · exact hfound
      · rw [dispatchWlanGip_frames, establishDataPath_frames]
        exact hfound

theorem addFwClient_frames (remembered : Option (Fin maxPeers)) (daemon : Daemon) :
    (addFwClient world remembered daemon).air.frames = daemon.air.frames := by
  unfold addFwClient
  split
  · rfl
  · dsimp only
    split
    · rfl
    · exact frames_of_housework (mt76FwClientAdd_housework world.dongle _ _)

theorem pairingScan_frames (scanNow : UInt64) (air : Air) :
    (pairingScan world scanNow air).frames = air.frames := by
  obtain ⟨hidle, hdue⟩ := mt76PairingChannelScan_log world.dongle scanNow air.scan air.usb
  have hread := (Emits.housework (scanMac_ctrl world.dongle air.scan.mac air.usb)).mono
    fun _ hio => hio.frame?
  apply frames_of_silent
  change Emits _ _ (mt76PairingChannelScan world.dongle scanNow air.scan air.usb).2.2
  by_cases hnow : air.scan.Due scanNow
  · obtain ⟨status, status', hlog, -⟩ := hdue hnow
    have hswitch := hread.cons
      (switchIo_frame? (scanChannel (air.scan.chIdx + 1)) mcuChBw20 1 0x18 status)
    refine Emits.trans ?_ (hlog.mono fun _ hio => hio.frame?)
    split
    · exact hswitch.cons (beaconIo_frame? _ _ status')
    · exact hswitch
  · exact (Emits.housework (hidle hnow).1).mono fun _ hio => hio.frame?

theorem pairingCheck_frames (active : Nat) (now scanNow : UInt64) (air : Air) :
    (pairingCheck world active now scanNow air).frames = air.frames := by
  by_cases hactive : active = 0
  · rw [hactive, pairingCheck_idle]
    split
    · exact setPairingBeacon_frames world true air
    · split
      · exact (pairingScan_frames world scanNow _).trans (setPairingBeacon_frames world true air)
      · exact setPairingBeacon_frames world true air
  · simp only [pairingCheck, if_neg hactive]
    split
    · exact setPairingBeacon_frames world _ air
    · rfl

/-! ## What answers -/

theorem transmit_frames {frame : List UInt8} (hframe : frame.length ≤ 2048) (wcid : UInt8)
    (air : Air) : (transmit world frame wcid air).frames = frame :: air.frames := by
  have hshort : ¬frame.length > 2048 := not_lt.mpr hframe
  have hentry (status : UsbStatus) :
      (UsbIo.bulkOut epCmd (wlanPacket frame wcid) status).frame? = some frame := by
    rw [UsbIo.frame?, wlanIo_wire? wcid status hframe]
  simp only [transmit, mt76WlanTx, bulkTransfer, if_neg hshort, Air.frames]
  exact List.filterMap_cons_some (hentry _)

/-- The frames on the air as they are read, newest first. -/
def Air.spoken (air : Air) : List (Option MgmtFrame) :=
  air.frames.map readMgmt?

theorem spoken_of_frames {before after : Air} (hframes : after.frames = before.frames) :
    after.spoken = before.spoken :=
  congrArg (List.map readMgmt?) hframes

/-- What was said later is in front. -/
def Air.Says (answer : Option MgmtFrame) (before after : Air) : Prop :=
  after.spoken = answer.toList.map some ++ before.spoken

theorem Air.Says.nothing {before after : Air} (hframes : after.frames = before.frames) :
    Air.Says none before after :=
  spoken_of_frames hframes

/-- A frame that is read back. -/
theorem Air.Says.frame (frame : List UInt8) (wcid : UInt8) {answer : MgmtFrame}
    (hframe : frame.length ≤ 2048) (hread : readMgmt? frame = some answer) {before air : Air}
    (hframes : air.frames = before.frames) :
    Air.Says (some answer) before (transmit world frame wcid air) := by
  rw [Air.Says, Air.spoken, transmit_frames world hframe wcid air, hframes, List.map_cons, hread]
  rfl

variable {world} {frame : RxFrame} {daemon : Daemon}

/-! ## Requests -/

section

variable {ourMac : Mac}

theorem not_action {subtype : UInt8} (hmgmt : frame.Mgmt subtype ourMac) (hne : subtype ≠ 13) :
    ¬(frame.IsXboxAction ∧ frame.ToUs ourMac) :=
  fun haction => hmgmt.unique hne (haction.1.mgmt haction.2)

end

/-- Nobody asked. -/
theorem answer?_none (haction : ¬(frame.IsXboxAction ∧ frame.ToUs daemon.air.ourMac))
    (hrequest : ¬frame.IsRequest daemon.air.ourMac) : frame.answer? daemon = none := by
  simp only [RxFrame.IsRequest, not_or] at hrequest
  obtain ⟨hprobe, hpair, hauth, hassoc, hreassoc⟩ := hrequest
  simp only [RxFrame.answer?, RxFrame.answerBody?, if_neg haction, if_neg hprobe, if_neg hpair,
    if_neg hauth, if_neg (not_or.mpr ⟨hassoc, hreassoc⟩)]
  rfl

theorem answer?_action (haction : frame.IsXboxAction ∧ frame.ToUs daemon.air.ourMac) :
    frame.answer? daemon = (greeting? frame.src daemon.table).map fun wcid =>
      ⟨13, frame.src, daemon.air.ourMac, daemon.air.ourMac,
        .vendor [0x00, 0x17, 0xf2] [0x08, 0x11, wcid, 0x00]⟩ := by
  rw [RxFrame.answer?, RxFrame.answerBody?, if_pos haction]
  cases greeting? frame.src daemon.table <;> rfl

theorem answer?_probe (hprobe : frame.Mgmt 4 daemon.air.ourMac) :
    frame.answer? daemon =
      if frame.payloadLen ≥ 2 ∧ byteAt frame.pl 0 = 0x00 ∧ byteAt frame.pl 1 = 0x00 then
        some ⟨5, frame.src, daemon.air.ourMac, daemon.air.ourMac,
          .probe 100 0xc631 [⟨0, []⟩, ⟨3, [daemon.air.pairingChannel]⟩, vendorElement]⟩
      else none := by
  rw [RxFrame.answer?, RxFrame.answerBody?, if_neg (not_action hprobe (by decide)), if_pos hprobe]
  split <;> rfl

theorem answer?_pair (hpair : frame.Mgmt 7 daemon.air.ourMac) :
    frame.answer? daemon =
      if frame.payloadLen ≥ 2 ∧ byteAt frame.pl 0 = 0x70 ∧ byteAt frame.pl 1 = 0x01 then
        some ⟨7, frame.src, daemon.air.ourMac, daemon.air.ourMac, .reserved
          [0x70, 0x02, 0x00, 0x45, 0x55, 0x01, 0x0f, 0x8f, 0xff, 0x87, 0x1f]⟩
      else none := by
  rw [RxFrame.answer?, RxFrame.answerBody?, if_neg (not_action hpair (by decide)),
    if_neg (hpair.unique (by decide)), if_pos hpair]
  split <;> rfl

theorem answer?_auth (hauth : frame.Mgmt 11 daemon.air.ourMac) :
    frame.answer? daemon = some ⟨11, frame.src, daemon.air.ourMac, daemon.air.ourMac,
      .authentication (if frame.payloadLen ≥ 2 then load16 frame.pl else 0)
        (if frame.payloadLen ≥ 4 ∧ load16 (frame.pl.drop 2) ≠ 0 then load16 (frame.pl.drop 2) + 1
          else 2) 0⟩ := by
  rw [RxFrame.answer?, RxFrame.answerBody?, if_neg (not_action hauth (by decide)),
    if_neg (hauth.unique (by decide)), if_neg (hauth.unique (by decide)), if_pos hauth]
  rfl

theorem answer?_assoc {reassoc : Bool}
    (hassoc : frame.Mgmt (if reassoc then 2 else 0) daemon.air.ourMac) :
    frame.answer? daemon =
      if sessionInitializedFor frame.src daemon.table then none
      else some ⟨if reassoc then 3 else 1, frame.src, daemon.air.ourMac, daemon.air.ourMac,
        .association 0 0 0xc001 (List.replicate 4 ⟨0, []⟩)⟩ := by
  have hanswer {subtype : UInt8} (hmgmt : frame.Mgmt subtype daemon.air.ourMac)
      (haction : subtype ≠ 13) (hprobe : subtype ≠ 4) (hpair : subtype ≠ 7) (hauth : subtype ≠ 11)
      (heither : frame.Mgmt 0 daemon.air.ourMac ∨ frame.Mgmt 2 daemon.air.ourMac) :
      frame.answerBody? daemon =
        if sessionInitializedFor frame.src daemon.table then none
        else some (if frame.Mgmt 2 daemon.air.ourMac then 3 else 1,
          .association 0 0 0xc001 (List.replicate 4 ⟨0, []⟩)) := by
    rw [RxFrame.answerBody?, if_neg (not_action hmgmt haction), if_neg (hmgmt.unique hprobe),
      if_neg (hmgmt.unique hpair), if_neg (hmgmt.unique hauth), if_pos heither]
  cases reassoc with
  | false =>
      rw [RxFrame.answer?, hanswer hassoc (by decide) (by decide) (by decide) (by decide)
        (Or.inl hassoc), if_neg (hassoc.unique (by decide))]
      split <;> rfl
  | true =>
      have hre : frame.Mgmt 2 daemon.air.ourMac := hassoc
      rw [RxFrame.answer?, hanswer hre (by decide) (by decide) (by decide) (by decide)
        (Or.inr hre), if_pos hre]
      split <;> rfl

/-! ## Handlers -/

section

variable (now : UInt64) (air : Air)

theorem lockPairingChannel_ourMac : (lockPairingChannel now air).ourMac = air.ourMac := by
  unfold lockPairingChannel
  rfl

theorem lockPairingChannel_pairingChannel :
    (lockPairingChannel now air).pairingChannel = air.pairingChannel := by
  unfold lockPairingChannel
  rfl

theorem lockPairingChannel_frames : (lockPairingChannel now air).frames = air.frames := by
  unfold lockPairingChannel Air.frames
  rfl

end

theorem locked_frames (now : UInt64) (mac : Mac) :
    (rememberPeer world mac { daemon with air := lockPairingChannel now daemon.air }).2.air.frames =
      daemon.air.frames :=
  (rememberPeer_frames world mac _).trans (lockPairingChannel_frames now daemon.air)

theorem handleProbe_speaks (now : UInt64) (hprobe : frame.Mgmt 4 daemon.air.ourMac) :
    Air.Says (frame.answer? daemon) daemon.air (handleProbe world now frame daemon).air := by
  have hlength : (probeResponse frame.src daemon.air.ourMac daemon.air.pairingChannel).length ≤
      2048 := by simp [probeResponse, mgmtHeader, vendorIe]
  rw [answer?_probe hprobe, handleProbe]
  dsimp only
  rw [lockPairingChannel_ourMac, lockPairingChannel_pairingChannel]
  split_ifs
  · exact Air.Says.frame world _ _ hlength (readMgmt?_probeResponse _ _ _)
      (locked_frames now frame.src)
  · exact Air.Says.nothing (lockPairingChannel_frames now daemon.air)

theorem handlePair_speaks (now : UInt64) (hpair : frame.Mgmt 7 daemon.air.ourMac) :
    Air.Says (frame.answer? daemon) daemon.air (handlePair world now frame daemon).air := by
  have hlength : (pairResponse frame.src daemon.air.ourMac).length ≤ 2048 := by
    simp [pairResponse, mgmtHeader]
  have hanswered := Air.Says.frame world _ 0xff hlength (readMgmt?_pairResponse _ _)
    (lockPairingChannel_frames now daemon.air)
  rw [answer?_pair hpair, handlePair]
  dsimp only
  rw [lockPairingChannel_ourMac]
  split_ifs
  · exact (spoken_of_frames (setPairingBeacon_frames world _ _)).trans hanswered
  · exact hanswered
  · exact (spoken_of_frames (setPairingBeacon_frames world _ _)).trans hanswered
  · exact Air.Says.nothing (lockPairingChannel_frames now daemon.air)

theorem handleAuth_speaks (now : UInt64) (hauth : frame.Mgmt 11 daemon.air.ourMac) :
    Air.Says (frame.answer? daemon) daemon.air (handleAuth world now frame daemon).air := by
  have hsubtype : frame.fcSubtype ≠ 7 := by
    rw [hauth.2.1]
    decide
  have hlength : (authResponse frame.src daemon.air.ourMac frame.pl frame.payloadLen
      frame.fcSubtype).length ≤ 2048 := by
    rw [authResponse, if_neg hsubtype]
    simp [mgmtHeader]
  rw [answer?_auth hauth, handleAuth, sendAuthResponse]
  dsimp only
  rw [if_neg hsubtype, lockPairingChannel_ourMac]
  exact Air.Says.frame world _ _ hlength (readMgmt?_authResponse _ _ _ _ hsubtype)
    (locked_frames now frame.src)

theorem handleAssoc_speaks (now : UInt64) {reassoc : Bool}
    (hassoc : frame.Mgmt (if reassoc then 2 else 0) daemon.air.ourMac) :
    Air.Says (frame.answer? daemon) daemon.air (handleAssoc world now frame reassoc daemon).air := by
  have hlength : (assocResponse frame.src daemon.air.ourMac reassoc).length ≤ 2048 := by
    simp [assocResponse, mgmtHeader]
  have hcommon : Air.Says _ daemon.air (sendAssocResponseCommon world frame.src daemon.air.ourMac
      reassoc { daemon with air := lockPairingChannel now daemon.air }).air :=
    Air.Says.frame world _ 0xff hlength (readMgmt?_assocResponse _ _ _)
      ((addFwClient_frames world _ _).trans (locked_frames now frame.src))
  rw [answer?_assoc hassoc, handleAssoc]
  dsimp only
  rw [lockPairingChannel_ourMac]
  split_ifs with hsession hreassoc
  · exact Air.Says.nothing (lockPairingChannel_frames now daemon.air)
  · subst hreassoc
    exact hcommon
  · obtain rfl := Bool.eq_false_of_not_eq_true hreassoc
    exact hcommon

theorem onXboxAction_speaks (hwf : daemon.table.WF)
    (haction : frame.IsXboxAction ∧ frame.ToUs daemon.air.ourMac) :
    Air.Says (frame.answer? daemon) daemon.air
      (onXboxAction world frame.src frame.payloadLen daemon).air := by
  have hplen : ¬frame.payloadLen < 5 := not_lt.mpr haction.1.2.2.1
  have hfound : (rememberPeer world frame.src daemon).1 = some (daemon.table.entry frame.src) :=
    (hwf.entry_found frame.src).1
  rw [answer?_action haction]
  simp only [onXboxAction, if_neg hplen, hfound]
  cases hpad : padOf? (daemon.table.entry frame.src) with
  | none =>
      have hno : noSlot ≥ 8 := by decide
      have hgreeting : greeting? frame.src daemon.table = none := by
        simp [greeting?, hpad]
      rw [rememberPeer_padless world hwf hpad, hgreeting]
      exact Air.Says.nothing (rememberPeer_frames world frame.src daemon)
  | some s =>
      simp only [rememberPeer_padded world hwf hpad, if_neg (ofNat_slot_lt s)]
      have hflag := mapped_handshake world frame.src s daemon
      split
      next hdone =>
        have hgreeting : greeting? frame.src daemon.table = none := by
          simp [greeting?, hflag ▸ hdone]
        rw [hgreeting]
        exact Air.Says.nothing (rememberPeer_frames world frame.src daemon)
      next hfresh =>
        have hwcid : ((mapped world frame.src s daemon).table.peers
            (daemon.table.entry frame.src)).wcid =
            ((daemon.table.register frame.src).peers (daemon.table.entry frame.src)).wcid := by
          rw [mapped, PeerTable.setPeer_same]
        have hgreeting : greeting? frame.src daemon.table =
            some ((daemon.table.register frame.src).peers (daemon.table.entry frame.src)).wcid := by
          simp [greeting?, hpad, hflag ▸ Bool.eq_false_of_not_eq_true hfresh]
        have hmac : (rememberPeer world frame.src daemon).2.air.ourMac = daemon.air.ourMac :=
          (rememberPeer_sends world frame.src daemon).ourMac
        rw [hgreeting, hwcid, hmac]
        have hlength : (xboxActionResponse frame.src daemon.air.ourMac
            ((daemon.table.register frame.src).peers
              (daemon.table.entry frame.src)).wcid).length ≤ 2048 := by
          simp [xboxActionResponse, mgmtHeader]
        exact Air.Says.frame world _ _ hlength (readMgmt?_xboxActionResponse _ _ _)
          (rememberPeer_frames world frame.src daemon)

/-! ## Steps -/

theorem handleFrame_action (now : UInt64)
    (haction : frame.IsXboxAction ∧ frame.ToUs daemon.air.ourMac) :
    handleFrame world now frame daemon =
      onXboxAction world frame.src frame.payloadLen daemon := by
  have hmgmt := haction.1.mgmt haction.2
  have hdata : ¬frame.QosData daemon.air.ourMac := hmgmt.not_data
  have hnot (subtype : UInt8) (hne : subtype ≠ 13) : ¬frame.Mgmt subtype daemon.air.ourMac :=
    hmgmt.unique hne.symm
  simp only [handleFrame, if_neg hdata, if_pos haction, if_neg (hnot 4 (by decide)),
    if_neg (hnot 7 (by decide)), if_neg (hnot 11 (by decide)), if_neg (hnot 0 (by decide)),
    if_neg (hnot 2 (by decide))]

theorem logAwdlIgnored_frames (now : UInt64) (air : Air) :
    (logAwdlIgnored now air).frames = air.frames := by
  unfold logAwdlIgnored
  split <;> rfl

theorem handleFrame_speaks (now : UInt64) (frame : RxFrame) (hwf : daemon.table.WF) :
    Air.Says (frame.answer? daemon) daemon.air (handleFrame world now frame daemon).air := by
  by_cases haction : frame.IsXboxAction ∧ frame.ToUs daemon.air.ourMac
  · rw [handleFrame_action now haction]
    exact onXboxAction_speaks hwf haction
  have hquiet {after : Air} (hrequest : ¬frame.IsRequest daemon.air.ourMac)
      (hframes : after.frames = daemon.air.frames) :
      Air.Says (frame.answer? daemon) daemon.air after := by
    rw [answer?_none haction hrequest]
    exact Air.Says.nothing hframes
  apply handleFrame_cases world now frame daemon
    (motive := fun _ after => Air.Says (frame.answer? daemon) daemon.air after.air)
  · intro _ hrequest
    exact hquiet hrequest (onXboxData_frames world frame.src frame.rxWcid frame.pl _ daemon)
  · exact fun hasked => absurd hasked haction
  · exact fun _ hrequest => hquiet hrequest (logAwdlIgnored_frames now daemon.air)
  · exact handleProbe_speaks now
  · exact handlePair_speaks now
  · exact handleAuth_speaks now
  · exact fun _ => handleAssoc_speaks now
  · exact fun _ hrequest => hquiet hrequest rfl

theorem handleEvent_frames (t : Transfer) (daemon : Daemon) :
    (handleEvent world t daemon).air.frames = daemon.air.frames := by
  unfold handleEvent
  dsimp only
  split
  · split_ifs
    · exact setPairingBeacon_frames world true daemon.air
    · rfl
    · rfl
  · split_ifs
    · exact setPairingBeacon_frames world true daemon.air
    · rfl

theorem step_speaks (hwf : daemon.table.WF) (step : Step) :
    (daemon.step world step).air.spoken =
      ((daemon.answers step).map some).reverse ++ daemon.air.spoken := by
  cases step with
  | housekeeping now scanNow =>
      exact spoken_of_frames (pairingCheck_frames world _ now scanNow daemon.air)
  | transfer now t =>
      simp only [Daemon.step, handleTransfer, Daemon.answers]
      split
      · rfl
      · cases rxFrame? t with
        | none => exact spoken_of_frames (handleEvent_frames t daemon)
        | some frame =>
            have hspoken : (handleFrame world now frame daemon).air.spoken = _ ++ _ :=
              handleFrame_speaks now frame hwf
            dsimp only
            rw [hspoken, Option.bind_some]
            cases frame.answer? daemon <;> rfl

theorem boots_spoken {boot : Daemon} (hboot : Boots world boot) : boot.air.spoken = [] := by
  have hframes : boot.air.frames = [] :=
    (boots_emits world hboot (fun io hio => ?_) fun channel status =>
      beaconIo_frame? boot.air.ourMac channel status).filterMap_eq
  · rw [Air.spoken, hframes]
    rfl
  · rcases hio with hwork | ⟨ch, bw, scan, power, status, rfl⟩
    · exact hwork.frame?
    · exact switchIo_frame? ch bw scan power status

end

/-- From its start on, the daemon puts the answers that are due on the air, in order, and no
other frame. -/
theorem management_answers {boot : Daemon} (hboot : Boots world boot) (steps : List Step) :
    (run (Daemon.step world) boot steps).air.spoken.reverse =
      (emitted (Daemon.step world) Daemon.answers boot steps).map some := by
  have hstep (daemon : Daemon) (step : Step) (hwf : daemon.table.WF) :
      (daemon.step world step).air.spoken = _ ++ daemon.air.spoken := step_speaks hwf step
  have hrun := Machine.log_run some (fun daemon : Daemon => daemon.air.spoken)
    (fun daemon => daemon.table.WF) (fun daemon step hwf => step_wf world hwf step) hstep
    (boots_wf world hboot) steps
  rw [hrun, boots_spoken hboot, List.append_nil, List.reverse_reverse]

/-- A controller that asks for the network, authenticates and connects. -/
def joinSteps : List Step :=
  [.transfer 10000 (wlanTransfer 0x40 plainMac padMac [0, 0, 1, 8] (by decide)),
    .transfer 10010 (wlanTransfer 0xb0 plainMac padMac [0, 0, 1, 0, 0, 0] (by decide)),
    .transfer 10020
      (wlanTransfer 0xd0 plainMac padMac [0x7f, 0, 0x17, 0xf2, 0x08, 0x01] (by decide))]

theorem management_answers_join :
    (run (Daemon.step (romWorld plainRom)) plainBoot joinSteps).air.spoken.reverse =
      [some ⟨5, padMac, plainMac, plainMac,
          .probe 100 0xc631 [⟨0, []⟩, ⟨3, [0x2c]⟩, vendorElement]⟩,
        some ⟨11, padMac, plainMac, plainMac, .authentication 0 2 0⟩,
        some ⟨13, padMac, plainMac, plainMac, .vendor [0x00, 0x17, 0xf2] [0x08, 0x11, 1, 0x00]⟩] := by
  rw [management_answers plainBoot_boots joinSteps]
  decide +kernel

end XoneDarwin
