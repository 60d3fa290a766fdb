import XoneDarwin.Daemon.Acks
import XoneDarwin.Daemon.Handshake

/-!
# Clients of the firmware

The firmware learns of a client by `CLIENT_ADD`, which the daemon sends with its
first association response, noting that it did but not what became of it. GIP
commands go out from the data path, which registers stations by itself and looks
at no note.
-/

namespace XoneDarwin

open Machine (run Always Emits Licensed)

variable (world : World)

/-! ## What the firmware knows -/

/-- The index in a `CLIENT_ADD` for which `mt76_fw_client_add` returned 0. -/
def UsbIo.clientAdded? : UsbIo → Option Nat
  | .bulkOut _ packet status =>
      match XoneDarwin.wire? packet with
      | some (.mcu cmd payload) =>
          if cmd = mcuCmdInternalFwOp ∧ load32 payload = fwCmdClientAdd ∧
              (status = .success ∨ status = .timeout) then
            some (byteAt payload 4).toNat
          else none
      | _ => none
  | _ => none

/-- The index a GIP command is sent to. -/
def UsbIo.gipIndex? (io : UsbIo) : Option Nat :=
  io.gipTx?.map GipTx.index

/-- The firmware was told of the client with an index. -/
def Knows (log : UsbLog) (index : Nat) : Prop :=
  ∃ io ∈ log, io.clientAdded? = some index

/-- GIP commands only ever went to clients the firmware had been told of, and
`fw_client_added` is set for such clients only. -/
structure KnownClients (daemon : Daemon) : Prop where
  packets : Licensed UsbIo.gipIndex? UsbIo.clientAdded? daemon.air.usb
  flags : ∀ i, (daemon.table.peers i).fwClientAdded = true →
    Knows daemon.air.usb ((daemon.table.peers i).wcid.toNat - 1)

/-! ## When it stays so -/

/-- The note on a station. -/
def PeerTable.addedFor (mac : Mac) (table : PeerTable) : Bool :=
  (table.findPeerByMac mac).any fun i => (table.peers i).fwClientAdded

/-- The start-up commands of a station were sent. -/
def PeerTable.greetedFor (mac : Mac) (table : PeerTable) : Bool :=
  (table.findPeerByMac mac).any fun i => (table.peers i).initialCommandsSent

/-- The packet of a `CLIENT_ADD`. -/
def clientPacket (wcid : UInt8) : List UInt8 :=
  mcuPacket mcuCmdInternalFwOp (store32 fwCmdClientAdd ++ [wcid - 1, 0, 0, 0, 0x40, 0x1f, 0, 0])

/-- A `CLIENT_ADD` sent with this history succeeds or times out. -/
def Dongle.TakesClient (dongle : Dongle) (log : UsbLog) (wcid : UInt8) : Prop :=
  dongle.bulkOut log epCmd (clientPacket wcid) = .success ∨
    dongle.bulkOut log epCmd (clientPacket wcid) = .timeout

/-- Whatever the step makes the daemon send goes to a client that was noted, and a `CLIENT_ADD`
it makes the daemon send is taken, now or earlier. -/
structure Step.KeepsClients (daemon : Daemon) (step : Step) : Prop where
  data : ∀ frame, step.data? daemon.air.ourMac = some frame → daemon.slotFor world frame.src < 8 →
    step.WantsAck world daemon frame ∨
      frame.IsAnnounce ∧ daemon.table.greetedFor frame.src = false →
    daemon.table.addedFor frame.src = true
  associate : ∀ mac reassoc, step.Asks mac daemon.air.ourMac reassoc →
    sessionInitializedFor mac daemon.table = false → daemon.table.addedFor mac = false →
    world.dongle.TakesClient (rememberPeer world mac daemon).2.air.usb (daemon.peerOf mac).wcid ∨
      Knows daemon.air.usb ((daemon.peerOf mac).wcid.toNat - 1)

/-! ## Notes in the peer table -/

namespace PeerTable

variable {table : PeerTable}

theorem attach_notes (i j : Fin maxPeers) :
    ((table.attach i).peers j).fwClientAdded = (table.peers j).fwClientAdded ∧
      ((table.attach i).peers j).wcid = (table.peers j).wcid :=
  ⟨attach_keeps Peer.fwClientAdded (fun _ _ => rfl) i j,
    attach_keeps Peer.wcid (fun _ _ => rfl) i j⟩

theorem greet_notes (i j : Fin maxPeers) :
    ((table.greet i).peers j).fwClientAdded = (table.peers j).fwClientAdded ∧
      ((table.greet i).peers j).wcid = (table.peers j).wcid :=
  ⟨setPeer_keeps Peer.fwClientAdded (by rfl) j, setPeer_keeps Peer.wcid (by rfl) j⟩

/-- A noted entry was noted before the registration. -/
theorem WF.register_noted (hwf : table.WF) (mac : Mac) {i : Fin maxPeers}
    (hnoted : ((table.register mac).peers i).fwClientAdded = true) :
    (table.register mac).peers i = table.peers i :=
  hwf.register_marked Peer.fwClientAdded (fun _ _ => rfl) mac hnoted

/-- The note on a station is the note on its entry. -/
theorem WF.addedFor_eq (hwf : table.WF) (mac : Mac) :
    table.addedFor mac = ((table.register mac).peers (table.entry mac)).fwClientAdded := by
  unfold addedFor
  cases hfind : table.findPeerByMac mac with
  | some i =>
      rw [register_known hfind, entry_known hfind]
      rfl
  | none =>
      rw [(hwf.entry_new hfind).2]
      rfl

/-- The same for the start-up commands. -/
theorem WF.greetedFor_eq (hwf : table.WF) (mac : Mac) :
    table.greetedFor mac =
      ((table.register mac).peers (table.entry mac)).initialCommandsSent := by
  unfold greetedFor
  cases hfind : table.findPeerByMac mac with
  | some i =>
      rw [register_known hfind, entry_known hfind]
      rfl
  | none =>
      rw [(hwf.entry_new hfind).2]
      rfl

/-- A note is as old as the step or made by an association in it. -/
theorem WF.step_noted (hwf : table.WF) (stimulus : Stimulus) {i : Fin maxPeers}
    (hnoted : ((table.step stimulus).peers i).fwClientAdded = true) :
    (table.peers i).fwClientAdded = true ∧
        ((table.step stimulus).peers i).wcid = (table.peers i).wcid ∨
      ∃ mac reassoc, stimulus = .associate mac reassoc ∧
        sessionInitializedFor mac table = false ∧ table.addedFor mac = false ∧
        ((table.step stimulus).peers i).wcid =
          ((table.register mac).peers (table.entry mac)).wcid := by
  -- the other changes of a step leave the notes as the registration left them
  have hregister (mac : Mac) {after : PeerTable}
      (hsame : (after.peers i).fwClientAdded = ((table.register mac).peers i).fwClientAdded ∧
        (after.peers i).wcid = ((table.register mac).peers i).wcid)
      (hnoted : (after.peers i).fwClientAdded = true) :
      (table.peers i).fwClientAdded = true ∧ (after.peers i).wcid = (table.peers i).wcid := by
    rw [hsame.1] at hnoted
    have hkept := hwf.register_noted mac hnoted
    rw [hsame.2, ← hkept]
    exact ⟨hnoted, rfl⟩
  cases stimulus with
  | quiet => exact Or.inl ⟨hnoted, rfl⟩
  | lost s => exact Or.inl ⟨hnoted, rfl⟩
  | register mac => exact Or.inl (hregister mac ⟨rfl, rfl⟩ hnoted)
  | action mac => exact Or.inl (hregister mac (attach_notes _ i) hnoted)
  | data mac frame =>
      simp only [PeerTable.step] at hnoted ⊢
      split at hnoted
      next hgreets =>
        rw [if_pos hgreets]
        refine Or.inl (hregister mac ?_ hnoted)
        rw [(greet_notes _ i).1, (greet_notes _ i).2]
        exact attach_notes _ i
      next hgreets =>
        rw [if_neg hgreets]
        exact Or.inl (hregister mac (attach_notes _ i) hnoted)
  | associate mac reassoc =>
      simp only [PeerTable.step] at hnoted ⊢
      split at hnoted
      next hsession =>
        rw [if_pos hsession]
        exact Or.inl ⟨hnoted, rfl⟩
      next hsession =>
        rw [if_neg hsession]
        by_cases hi : i = table.entry mac
        · subst hi
          cases hadded : table.addedFor mac with
          | false =>
              refine Or.inr ⟨mac, reassoc, rfl, Bool.eq_false_of_not_eq_true hsession, hadded, ?_⟩
              rw [PeerTable.addClient, setPeer_same]
          | true =>
              refine Or.inl (hregister mac ?_ hnoted)
              rw [hwf.addedFor_eq] at hadded
              rw [PeerTable.addClient, setPeer_same]
              exact ⟨hadded.symm, rfl⟩
        · refine Or.inl (hregister mac ?_ hnoted)
          rw [PeerTable.addClient, setPeer_other hi]
          exact ⟨rfl, rfl⟩

end PeerTable

/-! ## What the firmware is told -/

theorem Knows.mono {before after : UsbLog} (hsuffix : before <:+ after) {index : Nat}
    (hknows : Knows before index) : Knows after index := by
  obtain ⟨io, hio, hadded⟩ := hknows
  exact ⟨io, hsuffix.subset hio, hadded⟩

/-- A `CLIENT_ADD` the dongle takes. -/
theorem clientAdded?_packet {wcid : UInt8} (hwcid : 0 < wcid.toNat) {status : UsbStatus}
    (htaken : status = .success ∨ status = .timeout) :
    (UsbIo.bulkOut epCmd (clientPacket wcid) status).clientAdded? = some (wcid.toNat - 1) := by
  have hcmd : mcuCmdInternalFwOp.toNat < 128 := by decide
  have hone : (1 : UInt8).toNat = 1 := rfl
  have hindex : (wcid - 1).toNat = wcid.toNat - 1 :=
    UInt8.toNat_sub_of_le _ _ (by rw [UInt8.le_iff_toNat_le]; omega)
  have hlength : (store32 fwCmdClientAdd ++ [wcid - 1, 0, 0, 0, 0x40, 0x1f, 0, 0]).length <
      0x10000 - 3 := by simp
  simp only [UsbIo.clientAdded?, clientPacket, wire?_mcuPacket hcmd hlength, List.append_assoc,
    load32_store32, htaken, and_self, if_true]
  exact congrArg some hindex

theorem mt76FwClientAdd_log (dongle : Dongle) {wcid : UInt8} (hwcid : 0 < wcid.toNat)
    (log : UsbLog) :
    (mt76FwClientAdd dongle wcid log).2 =
      .bulkOut epCmd (clientPacket wcid) (dongle.bulkOut log epCmd (clientPacket wcid)) :: log := by
  have hsome : ¬wcid = 0 := by
    rintro rfl
    exact absurd hwcid (by decide)
  rw [mt76FwClientAdd, if_neg hsome]
  rfl

/-- A peer without a note is told to the firmware, if the dongle takes the command. -/
theorem addFwClient_knows (i : Fin maxPeers) (daemon : Daemon)
    (hwcid : 0 < (daemon.table.peers i).wcid.toNat)
    (hfresh : (daemon.table.peers i).fwClientAdded = false)
    (htakes : world.dongle.TakesClient daemon.air.usb (daemon.table.peers i).wcid) :
    Knows (addFwClient world (some i) daemon).air.usb
      ((daemon.table.peers i).wcid.toNat - 1) := by
  simp only [addFwClient, hfresh, Bool.false_eq_true, if_false]
  rw [mt76FwClientAdd_log world.dongle hwcid]
  exact ⟨_, List.mem_cons_self, clientAdded?_packet hwcid htakes⟩

/-- An association response to a station without a note. -/
theorem handleAssoc_knows (now : UInt64) (frame : RxFrame) (reassoc : Bool) {daemon : Daemon}
    (hwf : daemon.table.WF) (hsession : sessionInitializedFor frame.src daemon.table = false)
    (hadded : daemon.table.addedFor frame.src = false)
    (htakes : world.dongle.TakesClient (rememberPeer world frame.src daemon).2.air.usb
      (daemon.peerOf frame.src).wcid) :
    Knows (handleAssoc world now frame reassoc daemon).air.usb
      ((daemon.peerOf frame.src).wcid.toNat - 1) := by
  have hfound : (rememberPeer world frame.src
      { daemon with air := lockPairingChannel now daemon.air }).1 =
      some (daemon.table.entry frame.src) := (hwf.entry_found frame.src).1
  have hpeer : (rememberPeer world frame.src
      { daemon with air := lockPairingChannel now daemon.air }).2.table.peers
        (daemon.table.entry frame.src) = daemon.peerOf frame.src := by
    have htable : (rememberPeer world frame.src
        { daemon with air := lockPairingChannel now daemon.air }).2.table =
          daemon.table.register frame.src := rfl
    rw [htable]
  have husb : (rememberPeer world frame.src
      { daemon with air := lockPairingChannel now daemon.air }).2.air.usb =
        (rememberPeer world frame.src daemon).2.air.usb := by
    simp only [rememberPeer, lockPairingChannel]
  obtain ⟨hwcid, hpos⟩ := peerOf_wcid hwf frame.src
  rw [hwf.addedFor_eq] at hadded
  have hcommon : Knows (sendAssocResponseCommon world frame.src
      (lockPairingChannel now daemon.air).ourMac reassoc
      { daemon with air := lockPairingChannel now daemon.air }).air.usb
      ((daemon.peerOf frame.src).wcid.toNat - 1) := by
    simp only [sendAssocResponseCommon, hfound]
    -- the firmware is told before the response is sent
    refine Knows.mono (assocResponse_sends world _ frame.src _ reassoc 0xff).emits.suffix ?_
    generalize (rememberPeer world frame.src _).2 = registered at hpeer husb ⊢
    rw [← hpeer]
    apply addFwClient_knows
    · rw [hpeer, hwcid]
      exact hpos
    · rw [hpeer]
      exact hadded
    · rw [hpeer, husb]
      exact htakes
  cases reassoc with
  | false =>
      simp only [handleAssoc, hsession, Bool.false_eq_true, if_false]
      exact hcommon
  | true =>
      simp only [handleAssoc, hsession, Bool.false_eq_true, if_false, if_true]
      exact hcommon

section

variable {daemon : Daemon} (hwf : daemon.table.WF) {step : Step}

include hwf

theorem step_knows {mac : Mac} {reassoc : Bool} (hasks : step.Asks mac daemon.air.ourMac reassoc)
    (hsession : sessionInitializedFor mac daemon.table = false)
    (hadded : daemon.table.addedFor mac = false)
    (htakes : world.dongle.TakesClient (rememberPeer world mac daemon).2.air.usb
      (daemon.peerOf mac).wcid) :
    Knows (daemon.step world step).air.usb ((daemon.peerOf mac).wcid.toNat - 1) := by
  obtain ⟨frame, hfrom, hmgmt⟩ := hasks
  have hsrc := step.frameFrom?_src hfrom
  subst hsrc
  cases step with
  | housekeeping now scanNow => cases hfrom
  | transfer now t =>
      have hframe := (Option.filter_eq_some_iff.mp hfrom).1
      have hstimulus := RxFrame.stimulus_eq_associate.mpr ⟨hmgmt, rfl⟩
      simp only [Daemon.step, handleTransfer_frame world now hframe]
      -- of all handlers only that of association requests has this stimulus
      refine handleFrame_cases world now frame daemon
        (motive := fun stimulus after => stimulus = .associate frame.src reassoc →
          Knows after.air.usb ((daemon.peerOf frame.src).wcid.toNat - 1))
        ?_ ?_ ?_ ?_ ?_ ?_ ?_ ?_ hstimulus
      · intro _ _ hother
        cases hother
      · intro _ _ hother
        cases hother
      · intro _ _ hother
        cases hother
      · intro _ hother
        split at hother <;> cases hother
      · intro _ hother
        cases hother
      · intro _ hother
        cases hother
      · intro asked _ _
        exact handleAssoc_knows world now frame asked hwf hsession hadded htakes
      · intro _ _ hother
        cases hother

/-- Whatever a step sends goes to the sender of its data frame, which asked for it. -/
theorem fresh_packets {fresh : List GipTx}
    (hfresh : (daemon.step world step).air.packets = fresh ++ daemon.air.packets) {tx : GipTx}
    (htx : tx ∈ fresh) :
    ∃ frame, step.data? daemon.air.ourMac = some frame ∧ daemon.slotFor world frame.src < 8 ∧
      (step.WantsAck world daemon frame ∨
        frame.IsAnnounce ∧ daemon.table.greetedFor frame.src = false) ∧
      tx.index = (daemon.peerOf frame.src).wcid.toNat - 1 := by
  rcases slotted_or_quiet world hwf step with ⟨frame, s, hdelivers, hpad⟩ | hquiet
  · have hslot := (slotFor_lt_iff world hwf frame.src).mpr (Option.isSome_of_eq_some hpad)
    obtain ⟨commands, hcommands, hnone, hpackets⟩ := data_packets world hwf hdelivers hpad
    rw [hpackets] at hfresh
    rw [← List.append_cancel_right hfresh] at htx
    rcases List.mem_append.mp htx with hcommand | hack
    · -- a start-up command: the frame announces its sender for the first time
      have hannounce := not_not.mp (mt hnone.mpr (List.ne_nil_of_mem hcommand))
      refine ⟨frame, hdelivers, hslot, Or.inr ⟨frame.gip_announce.mp hannounce.1, ?_⟩, ?_⟩
      · rw [hwf.greetedFor_eq]
        exact hannounce.2
      · rw [(hcommands tx hcommand).index, peerOf_index hwf]
    · split at hack
      next hasked =>
        obtain ⟨hlong, hbit⟩ := frame.ack_iff.mp hasked
        refine ⟨frame, hdelivers, hslot, Or.inl ⟨hdelivers, hlong, hslot, hbit⟩, ?_⟩
        rw [List.mem_singleton.mp hack]
        exact peerOf_index hwf frame.src
      next => cases hack
  · have hpackets : (daemon.step world step).air.packets = [] ++ daemon.air.packets := hquiet
    rw [hpackets] at hfresh
    rw [← List.append_cancel_right hfresh] at htx
    cases htx

/-- A step that keeps to noted clients keeps the firmware informed. -/
theorem knownClients_step (hknown : KnownClients daemon)
    (hkeeps : step.KeepsClients world daemon) : KnownClients (daemon.step world step) := by
  have hsuffix := (step_encoded world hwf step).suffix
  constructor
  · obtain ⟨fresh, hfresh⟩ := hsuffix
    refine Licensed.extend ⟨fresh, hfresh.symm, fun io hio index hindex => ?_⟩ hknown.packets
    obtain ⟨tx, htx, rfl⟩ := Option.map_eq_some_iff.mp hindex
    obtain ⟨frame, hdelivers, hslot, hasked, hto⟩ := fresh_packets world hwf
      (Air.packets_extend hfresh) (List.mem_filterMap.mpr ⟨io, hio, htx⟩)
    have hadded := hkeeps.data frame hdelivers hslot hasked
    rw [hwf.addedFor_eq] at hadded
    have hentry := hwf.register_noted frame.src hadded
    rw [hto, Daemon.peerOf, hentry]
    exact hknown.flags _ (hentry ▸ hadded)
  · intro i hnoted
    have htable : (daemon.step world step).table = _ :=
      congrArg Link.table (step_link world hwf step)
    rw [htable] at hnoted ⊢
    rcases hwf.step_noted _ hnoted with ⟨hold, hwcid⟩ |
      ⟨mac, reassoc, hassociate, hsession, hadded, hwcid⟩
    · change Knows _ (((daemon.table.step _).peers i).wcid.toNat - 1)
      rw [hwcid]
      exact (hknown.flags i hold).mono hsuffix
    · change Knows _ (((daemon.table.step _).peers i).wcid.toNat - 1)
      rw [hwcid]
      have hasks := (step.asks_iff world.env).mpr hassociate
      rcases hkeeps.associate mac reassoc hasks hsession hadded with htakes | hknows
      · exact step_knows world hwf hasks hsession hadded htakes
      · exact hknows.mono hsuffix

end

/-! ## Runs -/

/-- In a run whose steps all keep to noted clients the firmware is always told first. -/
theorem packets_only_to_known_clients {boot : Daemon} (hboot : Boots world boot)
    {steps : List Step} (hkeeps : Always (Daemon.step world)
      (fun daemon step => step.KeepsClients world daemon) boot steps) :
    KnownClients (run (Daemon.step world) boot steps) := by
  refine (Machine.run_invariant_of_always
    (fun daemon : Daemon => daemon.table.WF ∧ KnownClients daemon) ?_ ?_ hkeeps).2
  · intro daemon step hinv hkeeps
    obtain ⟨hwf, hknown⟩ := hinv
    exact ⟨step_wf world hwf step, knownClients_step world hwf hknown hkeeps⟩
  · refine ⟨boots_wf world hboot, ?_, ?_⟩
    · -- start-up sends no GIP command
      have hnone : Emits (fun io : UsbIo => ∀ index, io.gipIndex? = some index →
          ∃ earlier ∈ ([] : UsbLog), earlier.clientAdded? = some index) [] boot.air.usb := by
        refine ⟨boot.air.usb, (List.append_nil _).symm, fun io hio index hindex => ?_⟩
        obtain ⟨tx, htx, -⟩ := Option.map_eq_some_iff.mp hindex
        have hmem : tx ∈ boot.air.packets := List.mem_filterMap.mpr ⟨io, hio, htx⟩
        rw [packets_nil (boots_sent world hboot)] at hmem
        cases hmem
      exact Licensed.extend hnone trivial
    · intro i hnoted
      rw [(boots_start world hboot).1] at hnoted
      cases hnoted

/-- The controller asks for an association. -/
def assocStep : Step := .transfer 0 (wlanTransfer 0x00 plainMac padMac [] (by decide))

/-- It associates and announces itself. -/
theorem packets_only_to_known_clients_associated :
    KnownClients (run (Daemon.step (romWorld plainRom)) plainBoot [assocStep, announceStep]) := by
  refine packets_only_to_known_clients (romWorld plainRom) plainBoot_boots
    (Machine.always_cons.mpr ⟨⟨?_, fun _ _ _ _ _ => Or.inl (Or.inl rfl)⟩,
      Machine.always_one.mpr ⟨?_, fun _ _ _ _ _ => Or.inl (Or.inl rfl)⟩⟩)
  · intro frame hdelivers
    have hnone : (assocStep.data? plainBoot.air.ourMac).isNone := by decide +kernel
    rw [hdelivers] at hnone
    cases hnone
  · intro frame hdelivers _ _
    have hsender : (announceStep.data?
        (plainBoot.step (romWorld plainRom) assocStep).air.ourMac).map RxFrame.src =
          some padMac := by decide +kernel
    rw [hdelivers, Option.map_some, Option.some.injEq] at hsender
    rw [hsender]
    decide +kernel

/-- It announces itself first, as after a restart of the daemon. -/
theorem announce_before_association :
    ¬KnownClients (run (Daemon.step (romWorld plainRom)) plainBoot [announceStep]) := by
  intro hknown
  have hnone : ∀ io ∈ (run (Daemon.step (romWorld plainRom)) plainBoot [announceStep]).air.usb,
      io.clientAdded? = none := by decide +kernel
  have hsent : ∃ io ∈ (run (Daemon.step (romWorld plainRom)) plainBoot [announceStep]).air.usb,
      io.gipIndex? ≠ none := by decide +kernel
  obtain ⟨io, hio, hindex⟩ := hsent
  exact hindex (hknown.packets.unlicensed hnone io hio)

end XoneDarwin
