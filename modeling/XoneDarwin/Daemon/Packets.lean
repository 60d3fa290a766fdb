import XoneDarwin.Daemon.Frames
import XoneDarwin.Daemon.Framing
import XoneDarwin.Daemon.OnAir

/-!
# GIP commands on the bus

Which GIP commands a step sends, packet by packet. Only data frames of peers with a
slot are answered with any: the acknowledgement they ask for, and after it the
start-up commands.
-/

namespace XoneDarwin

open Machine (Emits)

/-! ## Reading them back -/

/-- The GIP command in a `CMD_PACKET_TX` packet. -/
def UsbIo.gipTx? (io : UsbIo) : Option GipTx :=
  match io.wire? with
  | some (.mcu cmd payload) => if cmd = cmdPacketTx then some (GipTx.ofBody payload) else none
  | _ => none

/-- The GIP commands sent so far, newest first. -/
def Air.packets (air : Air) : List GipTx :=
  air.usb.filterMap UsbIo.gipTx?

theorem Air.packets_extend {before after : Air} {fresh : UsbLog}
    (hfresh : fresh ++ before.usb = after.usb) :
    after.packets = fresh.filterMap UsbIo.gipTx? ++ before.packets := by
  rw [Air.packets, ← hfresh, List.filterMap_append]
  rfl

theorem UsbIo.gipTx?_sent {io : UsbIo} {tx : GipTx} (htx : io.gipTx? = some tx) :
    ∃ dst cmd, io.sent? = some (.gip dst cmd) := by
  unfold UsbIo.gipTx? at htx
  split at htx
  next cmd payload hwire =>
    split at htx
    next hcmd =>
      refine ⟨Mac.load (payload.drop 32), byteAt payload 56, ?_⟩
      simp only [UsbIo.sent?, hwire, if_pos hcmd]
    next => cases htx
  next => cases htx

/-- What sends no GIP command leaves no packet. -/
theorem packets_unchanged {before after : Air} {sends : List Sent}
    (hsuffix : before.usb <:+ after.usb) (hsent : after.sent = sends ++ before.sent)
    (hnone : ∀ dst cmd, Sent.gip dst cmd ∉ sends) : after.packets = before.packets := by
  obtain ⟨fresh, hfresh⟩ := hsuffix
  have hsends : fresh.filterMap UsbIo.sent? = sends := by
    rw [Air.sent, ← hfresh, List.filterMap_append] at hsent
    exact List.append_cancel_right hsent
  refine Emits.filterMap_eq ⟨fresh, hfresh.symm, ?_⟩
  intro io hio
  cases htx : io.gipTx? with
  | none => rfl
  | some tx =>
      obtain ⟨dst, cmd, hgip⟩ := UsbIo.gipTx?_sent htx
      have hmem := List.mem_filterMap.mpr ⟨io, hio, hgip⟩
      rw [hsends] at hmem
      exact absurd hmem (hnone dst cmd)

theorem packets_nil {air : Air} (hsent : air.sent = []) : air.packets = [] := by
  have hunchanged : air.packets = ({} : Air).packets :=
    packets_unchanged List.nil_suffix (hsent.trans rfl) fun _ _ => List.not_mem_nil
  exact hunchanged

theorem Air.Sends.packets {before after : Air} (hsends : Air.Sends [] before after) :
    after.packets = before.packets :=
  packets_unchanged hsends.emits.suffix hsends.sent fun _ _ => List.not_mem_nil

/-- The packet of a GIP command reads as the command. -/
theorem gipTx?_gipTxPacket (peer : Peer) (ourMac : Mac) (cmd flags seq : UInt8) {plen : UInt8}
    {payload : List UInt8} (hplen : plen.toNat = payload.length) (hlen : payload.length ≤ 64)
    (status : UsbStatus) :
    (UsbIo.bulkOut epCmd (gipTxPacket peer ourMac (gipPacket cmd flags seq plen payload))
      status).gipTx? = some (gipTx peer ourMac cmd flags seq payload) := by
  have hgip : (gipPacket cmd flags seq plen payload).length ≤ 68 :=
    length_gipPacket_le cmd flags seq hlen
  have hlength := length_gipTxPayload_le ourMac peer hgip
  have hcmd : cmdPacketTx.toNat < 128 := by decide
  rw [UsbIo.gipTx?, UsbIo.wire?, gipTxPacket, wire?_mcuPacket hcmd (by omega)]
  simp only [if_true, ofBody_gipTxPayload peer ourMac cmd flags seq hplen hlen]

/-! ## The transmit functions -/

variable (world : World)

section

variable (air : Air) {peer : Peer} (hactive : peer.active = true)

include hactive

theorem sendWlanGipFrame_packets (cmd deviceId type seq : UInt8) {payload : List UInt8}
    (hlen : payload.length ≤ 64) :
    (sendWlanGipFrame world peer cmd deviceId type seq payload (UInt8.ofNat payload.length)
      air).packets = gipTx peer air.ourMac cmd (gipFlags type deviceId) seq payload ::
        air.packets := by
  have hcount : (UInt8.ofNat payload.length).toNat = payload.length := by
    rw [UInt8.toNat_ofNat']
    omega
  obtain ⟨status, hsent⟩ :=
    sendWlanGipFrame_packet world air cmd deviceId type seq hactive hlen
  rw [hsent, Air.packets, List.filterMap_cons,
    gipTx?_gipTxPacket peer air.ourMac cmd _ seq hcount hlen status]
  rfl

/-- The acknowledgement of a received packet. -/
def ackTx (peer : Peer) (ourMac : Mac) (h : GipHeader) : GipTx :=
  gipTx peer ourMac gipCmdAcknowledge (gipFlags gipTypeRequest h.deviceId) h.sequence
    [0, h.command, (gipTypeRequest <<< 4) ||| (h.deviceId &&& 0x0f), h.length, 0, 0, 0, 0, 0]

theorem sendWlanGipAck_packets (h : GipHeader) :
    (sendWlanGipAck world peer h.command h.deviceId h.sequence h.length air).packets =
      ackTx peer air.ourMac h :: air.packets := by
  have hgo : ¬¬peer.active = true := not_not.mpr hactive
  rw [sendWlanGipAck, if_neg hgo]
  exact sendWlanGipFrame_packets world air hactive _ _ _ _ (by simp)

/-- A command other than an acknowledgement, for the peer. -/
structure GipTx.Command (peer : Peer) (tx : GipTx) : Prop where
  index : tx.index = (UInt32.ofInt (peer.wcid.toNat - 1)).toNat
  command : tx.command ≠ gipCmdAcknowledge

theorem sendWlanCommand_packets {cmd : UInt8} (hcmd : cmd ≠ gipCmdAcknowledge) (type : UInt8)
    {payload : List UInt8} (hlen : payload.length ≤ 64) :
    ∃ tx, tx.Command peer ∧
      (sendWlanCommand world peer cmd type payload air).packets = tx :: air.packets :=
  ⟨_, ⟨rfl, hcmd⟩, sendWlanGipFrame_packets world (gipNextSequence air).2 hactive cmd 0 type _ hlen⟩

end

/-! ## Data frames -/

section

variable {i : Fin maxPeers} {daemon : Daemon} (hactive : (daemon.table.peers i).active = true)

include hactive

theorem dispatchAck_packets (h : GipHeader) :
    (dispatchAck world i h daemon).air.packets =
      (if h.frameType &&& gipTypeAck ≠ 0 then
        [ackTx (daemon.table.peers i) daemon.air.ourMac h] else []) ++ daemon.air.packets := by
  unfold dispatchAck
  split
  · exact sendWlanGipAck_packets world daemon.air hactive h
  · rfl

/-- The start-up commands are sent once. -/
theorem sendInitialCommands_packets :
    ∃ commands : List GipTx, (∀ tx ∈ commands, tx.Command (daemon.table.peers i)) ∧
      ((daemon.table.peers i).initialCommandsSent = true ↔ commands = []) ∧
      (sendInitialCommands world i daemon).air.packets = commands ++ daemon.air.packets := by
  simp only [sendInitialCommands]
  cases hsent : (daemon.table.peers i).initialCommandsSent with
  | true => exact ⟨[], by simp, by simp, rfl⟩
  | false =>
      obtain ⟨power, hpower, hafter⟩ := sendWlanCommand_packets world daemon.air hactive
        (by decide : gipCmdPower ≠ gipCmdAcknowledge) gipTypeRequest
        (by simp : ([0x00] : List UInt8).length ≤ 64)
      obtain ⟨led, hled, hafterLed⟩ := sendWlanCommand_packets world
        (sendWlanPowerOn world (daemon.table.peers i) daemon.air) hactive
        (by decide : gipCmdLed ≠ gipCmdAcknowledge) gipTypeRequest
        (by simp : ([0x00, 0x01, 0x14] : List UInt8).length ≤ 64)
      obtain ⟨serial, hserial, hafterSerial⟩ := sendWlanCommand_packets world
        (sendWlanLedDim world (daemon.table.peers i)
          (sendWlanPowerOn world (daemon.table.peers i) daemon.air)) hactive
        (by decide : gipCmdSerial ≠ gipCmdAcknowledge) (gipTypeRequest ||| gipTypeAck)
        (by simp : ([0x04] : List UInt8).length ≤ 64)
      refine ⟨[serial, led, power], ?_, by simp, ?_⟩
      · intro tx htx
        simp only [List.mem_cons, List.not_mem_nil, or_false] at htx
        rcases htx with rfl | rfl | rfl
        · exact hserial
        · exact hled
        · exact hpower
      · calc (sendWlanSerialRequest world (daemon.table.peers i) _).packets
            = serial :: Air.packets _ := hafterSerial
          _ = serial :: led :: Air.packets _ := congrArg (serial :: ·) hafterLed
          _ = serial :: led :: power :: daemon.air.packets :=
              congrArg (fun older => serial :: led :: older) hafter

end

/-- Dispatching a frame: the acknowledgement first, then what an announce brings about. -/
theorem dispatchWlanGip_packets (i : Fin maxPeers) (s : Fin maxSlots) (gip : List UInt8)
    (gipLen : Int) (daemon : Daemon) (hactive : (daemon.table.peers i).active = true) :
    ∃ commands : List GipTx, (∀ tx ∈ commands, tx.Command (daemon.table.peers i)) ∧
      (commands = [] ↔ ¬((readGip gip gipLen).event = .announce ∧
        (daemon.table.peers i).initialCommandsSent = false)) ∧
      (dispatchWlanGip world i (UInt8.ofNat s) gip gipLen daemon).air.packets =
        commands ++ (if (readGip gip gipLen).ack then
          [ackTx (daemon.table.peers i) daemon.air.ourMac (gipHeader gip)] else []) ++
          daemon.air.packets := by
  by_cases hshort : gipLen < 4
  · have hskip : UInt8.ofNat s ≥ 8 ∨ gipLen < 4 := Or.inr hshort
    rw [readGip, if_pos hshort, dispatchWlanGip, if_pos hskip]
    exact ⟨[], by simp, by simp, rfl⟩
  rw [readGip, if_neg hshort, dispatchWlanGip_eq world i s gip hshort]
  have htable := dispatchAck_table world i (gipHeader gip) daemon
  have hack := dispatchAck_packets world hactive (gipHeader gip)
  generalize dispatchAck world i (gipHeader gip) daemon = acked at htable hack
  have hacks : acked.air.packets =
      (if decide ((gipHeader gip).frameType &&& gipTypeAck ≠ 0) = true then
        [ackTx (daemon.table.peers i) daemon.air.ourMac (gipHeader gip)] else []) ++
        daemon.air.packets := by
    simpa only [decide_eq_true_eq] using hack
  cases gipEvent gip gipLen with
  | pad event => exact ⟨[], by simp, by simp, hacks⟩
  | other => exact ⟨[], by simp, by simp, hacks⟩
  | announce =>
      have hacked : (acked.table.peers i).active = true := by
        rw [htable]
        exact hactive
      obtain ⟨commands, hcommands, hnone, hsent⟩ := sendInitialCommands_packets world hacked
      rw [htable] at hcommands hnone
      refine ⟨commands, hcommands, ?_, ?_⟩
      · rw [← hnone]
        simp
      · rw [List.append_assoc, ← hacks]
        exact hsent

variable {daemon : Daemon} (hwf : daemon.table.WF) {step : Step}

/-- The entry a sender has once its frame is handled. -/
abbrev Daemon.peerOf (daemon : Daemon) (mac : Mac) : Peer :=
  (daemon.table.register mac).peers (daemon.table.entry mac)

include hwf

/-- The WCID of an entry is its number, and entry 0 is nobody's. -/
theorem peerOf_wcid (mac : Mac) :
    (daemon.peerOf mac).wcid.toNat = daemon.table.entry mac ∧
      0 < (daemon.table.entry mac).val := by
  have hwf' := hwf.register mac
  have hactive := (hwf.entry_active mac).1
  have hlt : (daemon.table.entry mac).val < 128 := (daemon.table.entry mac).isLt
  refine ⟨?_, PeerTable.entry_pos (hwf'.index_pos hactive)⟩
  rw [hwf'.wcid _ hactive, UInt8.toNat_ofNat']
  omega

/-- The index in a packet is one below the WCID of its peer. -/
theorem peerOf_index (mac : Mac) :
    (UInt32.ofInt ((daemon.peerOf mac).wcid.toNat - 1)).toNat =
      (daemon.peerOf mac).wcid.toNat - 1 := by
  obtain ⟨hwcid, hpos⟩ := peerOf_wcid hwf mac
  have hlt := (daemon.peerOf mac).wcid.toNat_lt
  have hcast : ((daemon.peerOf mac).wcid.toNat : Int) - 1 =
      (((daemon.peerOf mac).wcid.toNat - 1 : Nat) : Int) := by omega
  rw [hcast, UInt32.ofInt, Int.emod_eq_of_lt (by omega) (by omega), Int.toNat_natCast,
    UInt32.toNat_ofNat']
  omega

/-- A data frame of a peer with a slot is answered with the acknowledgement it asks for and,
at its first announce, with the start-up commands. -/
theorem data_packets {frame : RxFrame} (hdelivers : step.data? daemon.air.ourMac = some frame)
    {s : Fin maxSlots} (hpad : padOf? (daemon.table.entry frame.src) = some s) :
    ∃ commands : List GipTx, (∀ tx ∈ commands, tx.Command (daemon.peerOf frame.src)) ∧
      (commands = [] ↔ ¬(frame.gip.event = .announce ∧
        (daemon.peerOf frame.src).initialCommandsSent = false)) ∧
      (daemon.step world step).air.packets =
        commands ++ (if frame.gip.ack then
          [ackTx (daemon.peerOf frame.src) daemon.air.ourMac (gipHeader (frame.pl.drop 4))]
          else []) ++ daemon.air.packets := by
  cases step with
  | housekeeping now scanNow => cases hdelivers
  | transfer now t =>
      obtain ⟨hframe, hdata⟩ := Step.data?_transfer.mp hdelivers
      have hplen : ¬frame.payloadLen ≤ 4 := not_le.mpr hdata.2.2.2
      have hfound : (rememberPeer world frame.src daemon).1 = some (daemon.table.entry frame.src) :=
        (hwf.entry_found frame.src).1
      simp only [Daemon.step, handleTransfer_frame world now hframe,
        handleFrame_data world now hdata, onXboxData, if_neg hplen, findOrRemember_eq, hfound,
        rememberPeer_padded world hwf hpad, if_neg (ofNat_slot_lt s)]
      obtain ⟨htable, -, hair⟩ := establishDataPath_attached world hpad
      have hmapped : mapped world frame.src s daemon =
          { (rememberPeer world frame.src daemon).2 with
          table := (mapped world frame.src s daemon).table } := rfl
      rw [hmapped] at htable hair
      generalize establishDataPath world (daemon.table.entry frame.src) (UInt8.ofNat s) _ =
        established at htable hair ⊢
      -- the data path sends no packet, so the dispatcher sends all of them
      have hpeer : established.table.peers (daemon.table.entry frame.src) =
          { daemon.peerOf frame.src with slot := UInt8.ofNat s, handshakeDone := true } := by
        rw [htable, PeerTable.attach_peer hpad]
      have hactive : (established.table.peers (daemon.table.entry frame.src)).active = true := by
        rw [hpeer]
        exact (hwf.entry_active frame.src).1
      obtain ⟨commands, hcommands, hnone, hsent⟩ := dispatchWlanGip_packets world
        (daemon.table.entry frame.src) s (frame.pl.drop 4) (frame.payloadLen - 4) established
        hactive
      rw [hpeer] at hcommands hnone hsent
      rw [hair.packets, hair.ourMac] at hsent
      exact ⟨commands, fun tx htx => ⟨(hcommands tx htx).index, (hcommands tx htx).command⟩, hnone,
        hsent⟩

/-- Everything else is answered with no GIP command. -/
theorem other_packets
    (hother : ∀ frame, step.data? daemon.air.ourMac = some frame →
      padOf? (daemon.table.entry frame.src) = none) :
    (daemon.step world step).air.packets = daemon.air.packets := by
  have hsuffix := (step_encoded world hwf step).suffix
  cases step with
  | housekeeping now scanNow =>
      have hsent : (daemon.step world (.housekeeping now scanNow)).air.sent =
          [] ++ daemon.air.sent := pairingCheck_sent world _ now scanNow daemon.air
      exact packets_unchanged hsuffix hsent fun _ _ => List.not_mem_nil
  | transfer now t =>
      refine packets_unchanged hsuffix (handleTransfer_answers world now t hwf).air.sent ?_
      intro dst cmd
      cases hstimulus : t.stimulus world.env daemon.air.ourMac with
      | data mac gip =>
          have hstep : (Step.transfer now t).stimulus world.env daemon.air.ourMac = .data mac gip :=
            hstimulus
          obtain ⟨frame, hdelivers, rfl, -⟩ := Step.stimulus_data_iff.mp hstep
          simp [PeerTable.sends, hother frame hdelivers]
      | associate mac reassoc =>
          simp only [PeerTable.sends]
          split <;> simp
      | quiet => simp [PeerTable.sends]
      | register mac => simp [PeerTable.sends]
      | action mac => simp [PeerTable.sends]
      | lost s => simp [PeerTable.sends]

/-- A step answers the data frame of a peer with a slot, or sends no GIP command. -/
theorem slotted_or_quiet (step : Step) :
    (∃ frame s, step.data? daemon.air.ourMac = some frame ∧
        padOf? (daemon.table.entry frame.src) = some s) ∨
      (daemon.step world step).air.packets = daemon.air.packets := by
  by_cases hslotted : ∃ frame s, step.data? daemon.air.ourMac = some frame ∧
      padOf? (daemon.table.entry frame.src) = some s
  · exact Or.inl hslotted
  · right
    apply other_packets world hwf
    intro frame hdelivers
    by_contra hsome
    obtain ⟨s, hpad⟩ := Option.ne_none_iff_exists'.mp hsome
    exact hslotted ⟨frame, s, hdelivers, hpad⟩

end XoneDarwin
