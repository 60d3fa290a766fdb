import XoneDarwin.Daemon.Session

/-!
# The daemon refines its session machine

Every received transfer steps the peer table, runs the pad handlers and transmits
exactly as the session machine says for the transfer's stimulus.
-/

namespace XoneDarwin

open Machine (run Emits)

namespace PeerTable

variable {table : PeerTable}

/-! ## Entries -/

theorem WF.entry_found (hwf : table.WF) (mac : Mac) :
    (table.remember mac).1 = some (table.entry mac) ∧
      (table.register mac).findPeerByMac mac = some (table.entry mac) := by
  obtain ⟨i, hreturned, hfound⟩ := hwf.remember_find mac
  have hentry : table.entry mac = i := by rw [entry, hreturned, Option.getD_some]
  rw [hentry]
  exact ⟨hreturned, hfound⟩

theorem WF.register (hwf : table.WF) (mac : Mac) : (table.register mac).WF :=
  hwf.remember mac

theorem WF.entry_active (hwf : table.WF) (mac : Mac) :
    ((table.register mac).peers (table.entry mac)).active = true ∧
      ((table.register mac).peers (table.entry mac)).mac = mac :=
  findPeerByMac_some (hwf.entry_found mac).2

/-- The entry of a registered address is the one it is found under. -/
theorem entry_known {mac : Mac} {i : Fin maxPeers} (hfind : table.findPeerByMac mac = some i) :
    table.entry mac = i := by
  rw [entry, remember_known hfind, Option.getD_some]

theorem register_known {mac : Mac} {i : Fin maxPeers} (hfind : table.findPeerByMac mac = some i) :
    table.register mac = table := by
  rw [PeerTable.register, remember_known hfind]

/-- The entry of a new address is a fresh one. -/
theorem WF.entry_new (hwf : table.WF) {mac : Mac} (hfind : table.findPeerByMac mac = none) :
    table.entry mac = hwf.next ∧
      (table.register mac).peers (table.entry mac) = newPeer table.nextWcid mac := by
  have hentry : table.entry mac = hwf.next := by
    rw [entry, hwf.remember_new hfind, Option.getD_some]
  rw [hentry, PeerTable.register, hwf.remember_new hfind]
  exact ⟨rfl, setPeer_same hwf.next _⟩

/-- A registration leaves every entry alone that has a mark which fresh entries do not have. -/
theorem WF.register_marked (hwf : table.WF) (mark : Peer → Bool)
    (hfresh : ∀ wcid mac, mark (newPeer wcid mac) = false) (mac : Mac) {i : Fin maxPeers}
    (hmarked : mark ((table.register mac).peers i) = true) :
    (table.register mac).peers i = table.peers i := by
  cases hfind : table.findPeerByMac mac with
  | some j => rw [register_known hfind]
  | none =>
      by_cases hi : i = table.entry mac
      · rw [hi, (hwf.entry_new hfind).2, hfresh] at hmarked
        cases hmarked
      · rw [(hwf.entry_new hfind).1] at hi
        rw [PeerTable.register, hwf.remember_new hfind]
        exact setPeer_other hi _

/-! ## Slots -/

theorem padOf?_some {i : Fin maxPeers} {s : Fin maxSlots} (hpad : padOf? i = some s) :
    i.val = s.val + 1 := by
  unfold padOf? at hpad
  split at hpad
  next hrange =>
    cases hpad
    exact (Nat.sub_add_cancel hrange.1).symm
  next => cases hpad

theorem padOf?_none {i : Fin maxPeers} (hpad : padOf? i = none) : i.val = 0 ∨ 8 < i.val := by
  unfold padOf? at hpad
  split at hpad
  next => cases hpad
  next hrange => omega

theorem ofNat_entry_sub_one {i : Fin maxPeers} (hi : i ≠ 0) :
    (UInt8.ofNat i - 1).toNat = i.val - 1 := by
  have hlt : i.val < 128 := i.isLt
  have hpos : 0 < i.val := PeerTable.entry_pos hi
  have hone : (1 : UInt8).toNat = 1 := rfl
  have hval : (UInt8.ofNat i).toNat = i.val := by
    rw [UInt8.toNat_ofNat']
    omega
  rw [UInt8.toNat_sub_of_le _ _ (by rw [UInt8.le_iff_toNat_le]; omega), hval, hone]

/-- The slot number of an entry is one less than its index. -/
theorem padOf?_slot {i : Fin maxPeers} {s : Fin maxSlots} (hpad : padOf? i = some s) :
    UInt8.ofNat s < 8 ∧ UInt8.ofNat s = UInt8.ofNat i - 1 := by
  have hs := padOf?_some hpad
  have hlt : s.val < 8 := s.isLt
  constructor
  · rw [UInt8.lt_iff_toNat_lt, UInt8.toNat_ofNat']
    have height : (8 : UInt8).toNat = 8 := rfl
    omega
  · apply UInt8.toNat_inj.mp
    have hi : i ≠ 0 := by
      rintro rfl
      exact absurd hs (by simp)
    rw [ofNat_entry_sub_one hi, UInt8.toNat_ofNat']
    omega

/-- Entries 9 and up have no slot. -/
theorem WF.peerSlot_none (hwf : table.WF) {i : Fin maxPeers}
    (hactive : (table.peers i).active = true) (hpad : padOf? i = none) :
    table.peerSlot i = (noSlot, table) := by
  have hi := hwf.index_pos hactive
  have hbig : 8 < i.val :=
    (padOf?_none hpad).resolve_left fun hzero => hi (Fin.ext hzero)
  have hval := ofNat_entry_sub_one hi
  have height : (8 : UInt8).toNat = 8 := rfl
  have hfree : ¬(table.peers i).slot < 8 := by
    rcases hwf.slot i hactive with hno | ⟨hlt, hslot⟩
    · rw [hno]
      decide
    · rw [hslot, UInt8.lt_iff_toNat_lt] at hlt
      omega
  have hwide : (table.peers i).wcid - 1 ≥ 8 := by
    rw [hwf.wcid i hactive, ge_iff_le, UInt8.le_iff_toNat_le]
    omega
  simp only [peerSlot, if_neg hfree, if_pos hwide]

/-- Entries 1 to 8 get the slot of their pad. -/
theorem WF.peerSlot_some (hwf : table.WF) {i : Fin maxPeers} {s : Fin maxSlots}
    (hactive : (table.peers i).active = true) (hpad : padOf? i = some s) :
    table.peerSlot i =
      (UInt8.ofNat s, table.setPeer i { table.peers i with slot := UInt8.ofNat s }) := by
  have hval := ofNat_entry_sub_one (hwf.index_pos hactive)
  have hs := padOf?_some hpad
  have hslot : UInt8.ofNat i - 1 = UInt8.ofNat s := (padOf?_slot hpad).2.symm
  unfold peerSlot
  rcases hwf.slot i hactive with hno | ⟨hlt, hmapped⟩
  · have hfree : ¬(table.peers i).slot < 8 := by
      rw [hno]
      decide
    have hnarrow : ¬(table.peers i).wcid - 1 ≥ 8 := by
      have height : (8 : UInt8).toNat = 8 := rfl
      have hlt : s.val < 8 := s.isLt
      rw [hwf.wcid i hactive, ge_iff_le, UInt8.le_iff_toNat_le]
      omega
    simp only [if_neg hfree, if_neg hnarrow]
    rw [hwf.wcid i hactive, hslot]
  · simp only [if_pos hlt]
    rw [← hslot, ← hmapped]
    refine Prod.ext rfl (PeerTable.ext ?_ rfl)
    exact (Function.update_eq_self i table.peers).symm

theorem setPeer_setPeer (i : Fin maxPeers) (peer peer' : Peer) :
    (table.setPeer i peer).setPeer i peer' = table.setPeer i peer' := by
  simp only [setPeer, Function.update_idem]

theorem attach_of_pad {i : Fin maxPeers} {s : Fin maxSlots} (hpad : padOf? i = some s) :
    table.attach i =
      table.setPeer i { table.peers i with slot := UInt8.ofNat s, handshakeDone := true } := by
  simp only [attach, hpad]

/-! ## Look-up after flag changes -/

/-- Look-up reads nothing but activity and address. -/
theorem findPeerByMac_congr {before after : PeerTable}
    (hsame : ∀ j, (after.peers j).active = (before.peers j).active ∧
      (after.peers j).mac = (before.peers j).mac) (mac : Mac) :
    after.findPeerByMac mac = before.findPeerByMac mac := by
  simp only [findPeerByMac, (hsame _).1, (hsame _).2]

theorem setPeer_station {i : Fin maxPeers} {peer : Peer}
    (hactive : peer.active = (table.peers i).active) (hmac : peer.mac = (table.peers i).mac)
    (j : Fin maxPeers) :
    ((table.setPeer i peer).peers j).active = (table.peers j).active ∧
      ((table.setPeer i peer).peers j).mac = (table.peers j).mac :=
  ⟨setPeer_keeps Peer.active hactive j, setPeer_keeps Peer.mac hmac j⟩

/-- A peer that gets its pad keeps all but its slot and the handshake flag. -/
theorem attach_keeps {β : Type*} (field : Peer → β)
    (hfield : ∀ peer slot, field { peer with slot := slot, handshakeDone := true } = field peer)
    (i j : Fin maxPeers) : field ((table.attach i).peers j) = field (table.peers j) := by
  unfold PeerTable.attach
  split
  · rfl
  · exact setPeer_keeps field (hfield _ _) j

theorem attach_station (i j : Fin maxPeers) :
    ((table.attach i).peers j).active = (table.peers j).active ∧
      ((table.attach i).peers j).mac = (table.peers j).mac :=
  ⟨attach_keeps Peer.active (fun _ _ => rfl) i j, attach_keeps Peer.mac (fun _ _ => rfl) i j⟩

theorem greet_station (i j : Fin maxPeers) :
    ((table.greet i).peers j).active = (table.peers j).active ∧
      ((table.greet i).peers j).mac = (table.peers j).mac :=
  setPeer_station (by rfl) (by rfl) j

theorem addClient_station (i j : Fin maxPeers) :
    ((table.addClient i).peers j).active = (table.peers j).active ∧
      ((table.addClient i).peers j).mac = (table.peers j).mac :=
  setPeer_station (by rfl) (by rfl) j

/-- After a data frame its sender is found where it was registered. -/
theorem WF.find_data (hwf : table.WF) (mac : Mac) (frame : GipFrame) :
    (table.step (.data mac frame)).findPeerByMac mac = some (table.entry mac) := by
  simp only [PeerTable.step]
  split
  · rw [findPeerByMac_congr (greet_station _), findPeerByMac_congr (attach_station _)]
    exact (hwf.entry_found mac).2
  · rw [findPeerByMac_congr (attach_station _)]
    exact (hwf.entry_found mac).2

/-! ## Steps keep the table well formed -/

theorem WF.attach (hwf : table.WF) (i : Fin maxPeers) : (table.attach i).WF := by
  unfold PeerTable.attach
  split
  · exact hwf
  next s hpad => exact hwf.setPeer rfl rfl rfl (Or.inr (padOf?_slot hpad))

theorem WF.addClient (hwf : table.WF) (i : Fin maxPeers) : (table.addClient i).WF :=
  hwf.setPeer rfl rfl rfl (Or.inl rfl)

theorem WF.greet (hwf : table.WF) (i : Fin maxPeers) : (table.greet i).WF :=
  hwf.setPeer rfl rfl rfl (Or.inl rfl)

theorem WF.step (hwf : table.WF) (stimulus : Stimulus) : (table.step stimulus).WF := by
  cases stimulus with
  | quiet => exact hwf
  | register mac => exact hwf.register mac
  | associate mac reassoc =>
      simp only [PeerTable.step]
      split
      · exact hwf
      · exact (hwf.register mac).addClient _
  | action mac => exact (hwf.register mac).attach _
  | data mac frame =>
      simp only [PeerTable.step]
      split
      · exact ((hwf.register mac).attach _).greet _
      · exact (hwf.register mac).attach _
  | lost s => exact hwf

end PeerTable

variable (world : World)

/-! ## Handlers -/

/-- The daemon answers a stimulus as the session machine does. -/
structure Answers (stimulus : Stimulus) (before after : Daemon) : Prop where
  table : after.table = before.table.step stimulus
  pads : after.pads = (before.table.padEvents stimulus).foldl
    (Pads.handle world.host world.eventUdp) before.pads
  air : Air.Sends (before.table.sends stimulus) before.air after.air

/-- A change of the radio side alone is the answer to nothing. -/
theorem answers_quiet (daemon : Daemon) {air : Air} (hair : Air.Sends [] daemon.air air) :
    Answers world .quiet daemon { daemon with air := air } :=
  ⟨rfl, rfl, hair⟩

theorem rememberPeer_sends (mac : Mac) (daemon : Daemon) :
    Air.Sends [] daemon.air (rememberPeer world mac daemon).2.air :=
  Air.Sends.housework rfl rfl rfl (Emits.housework (rememberPeer_emits world mac daemon))

theorem findOrRemember_eq (mac : Mac) (daemon : Daemon) :
    findOrRemember world mac daemon = rememberPeer world mac daemon := by
  unfold findOrRemember
  split
  next i hfind =>
    simp only [rememberPeer, hfind, PeerTable.remember_known hfind]
  next => rfl

theorem onInput_eq (s : Fin maxSlots) (payload : List UInt8) (plen : UInt8) (pads : Pads) :
    onInput world.eventUdp (UInt8.ofNat s) payload plen pads =
      match parseInput payload plen with
      | some g => pads.handle world.host world.eventUdp (s, .input g)
      | none => pads := by
  simp only [onInput, slotIdx?_ofNat, Pads.handle]
  cases parseInput payload plen with
  | none => exact ite_self pads
  | some g => rfl

/-- What an event of a connected peer does. -/
def dispatchEvent (i : Fin maxPeers) (s : Fin maxSlots) (event : GipEvent) (daemon : Daemon) :
    Daemon :=
  match event with
  | .pad event => { daemon with pads := daemon.pads.handle world.host world.eventUdp (s, event) }
  | .announce => sendInitialCommands world i daemon
  | .other => daemon

theorem ofNat_slot_lt (s : Fin maxSlots) : ¬UInt8.ofNat s ≥ 8 := by
  revert s
  decide

theorem dispatchWlanGip_eq (i : Fin maxPeers) (s : Fin maxSlots) (gip : List UInt8)
    {gipLen : Int} (hlong : ¬gipLen < 4) (daemon : Daemon) :
    dispatchWlanGip world i (UInt8.ofNat s) gip gipLen daemon =
      dispatchEvent world i s (gipEvent gip gipLen) (dispatchAck world i (gipHeader gip) daemon) := by
  have hgo : ¬(UInt8.ofNat s ≥ 8 ∨ gipLen < 4) := not_or.mpr ⟨ofNat_slot_lt s, hlong⟩
  simp only [dispatchWlanGip, if_neg hgo, gipEvent]
  generalize dispatchAck world i (gipHeader gip) daemon = acked
  by_cases hadded : (gipHeader gip).command = gipCmdCtrlAdded
  · simp only [if_pos hadded]
    rfl
  simp only [if_neg hadded]
  by_cases hlost : (gipHeader gip).command = gipCmdCtrlLost
  · simp only [if_pos hlost]
    rfl
  simp only [if_neg hlost]
  by_cases hannounce : (gipHeader gip).command = gipCmdAnnounce
  · simp only [if_pos hannounce]
    split <;> rfl
  simp only [if_neg hannounce]
  by_cases hstatus : (gipHeader gip).command = gipCmdStatus
  · simp only [if_pos hstatus]
    rfl
  simp only [if_neg hstatus]
  by_cases hinput : (gipHeader gip).command = gipCmdInput ∨
      (gipHeader gip).command = gipCmdInputOverflow
  · simp only [if_pos hinput, onInput_eq]
    cases parseInput (gip.drop 4) ((gipHeader gip).plen (gipLen - 4)) <;> rfl
  simp only [if_neg hinput]
  by_cases hguide : (gipHeader gip).command = gipCmdGuideBtn
  · simp only [if_pos hguide]
    split <;> rfl
  simp only [if_neg hguide]
  rfl

theorem dispatchAck_sends (i : Fin maxPeers) (h : GipHeader) {daemon : Daemon}
    (hactive : (daemon.table.peers i).active = true) :
    Air.Sends (if h.frameType &&& gipTypeAck ≠ 0 then
        [.gip (daemon.table.peers i).mac gipCmdAcknowledge] else [])
      daemon.air (dispatchAck world i h daemon).air := by
  unfold dispatchAck
  split
  · exact sendWlanGipAck_sends world daemon.air hactive _ _ _ _
  · exact Air.Sends.refl _

theorem dispatchAck_table (i : Fin maxPeers) (h : GipHeader) (daemon : Daemon) :
    (dispatchAck world i h daemon).table = daemon.table := by
  unfold dispatchAck
  split <;> rfl

theorem dispatchAck_pads (i : Fin maxPeers) (h : GipHeader) (daemon : Daemon) :
    (dispatchAck world i h daemon).pads = daemon.pads := by
  unfold dispatchAck
  split <;> rfl

theorem sendInitialCommands_sends (i : Fin maxPeers) {daemon : Daemon}
    (hactive : (daemon.table.peers i).active = true) :
    Air.Sends (if (daemon.table.peers i).initialCommandsSent = false then
        [.gip (daemon.table.peers i).mac gipCmdSerial, .gip (daemon.table.peers i).mac gipCmdLed,
          .gip (daemon.table.peers i).mac gipCmdPower] else [])
      daemon.air (sendInitialCommands world i daemon).air := by
  simp only [sendInitialCommands]
  cases hsent : (daemon.table.peers i).initialCommandsSent with
  | true => exact Air.Sends.refl _
  | false =>
      have hpower := sendWlanCommand_sends world daemon.air hactive gipCmdPower gipTypeRequest
        [0x00] (by decide)
      have hled := sendWlanCommand_sends world (sendWlanPowerOn world (daemon.table.peers i)
        daemon.air) hactive gipCmdLed gipTypeRequest [0x00, 0x01, 0x14] (by decide)
      have hserial := sendWlanCommand_sends world (sendWlanLedDim world (daemon.table.peers i)
        (sendWlanPowerOn world (daemon.table.peers i) daemon.air)) hactive gipCmdSerial
        (gipTypeRequest ||| gipTypeAck) [0x04] (by decide)
      exact (hpower.trans hled).trans hserial

/-- The start-up commands due to a peer, newest first. -/
def greetingsDue (peer : Peer) (event : GipEvent) : List Sent :=
  if event = .announce ∧ peer.initialCommandsSent = false then
    [.gip peer.mac gipCmdSerial, .gip peer.mac gipCmdLed, .gip peer.mac gipCmdPower]
  else []

/-- The pad events of a GIP event. -/
def padEventsOf (s : Fin maxSlots) : GipEvent → List (Fin maxSlots × PadEvent)
  | .pad event => [(s, event)]
  | _ => []

/-- Dispatching a frame of a connected peer. -/
structure Dispatched (i : Fin maxPeers) (s : Fin maxSlots) (frame : GipFrame)
    (before after : Daemon) : Prop where
  table : after.table = if frame.event = .announce then before.table.greet i else before.table
  pads : after.pads = (padEventsOf s frame.event).foldl
    (Pads.handle world.host world.eventUdp) before.pads
  air : Air.Sends (greetingsDue (before.table.peers i) frame.event ++
      if frame.ack then [.gip (before.table.peers i).mac gipCmdAcknowledge] else [])
    before.air after.air

theorem dispatchWlanGip_dispatched (i : Fin maxPeers) (s : Fin maxSlots) (gip : List UInt8)
    (gipLen : Int) (daemon : Daemon) (hactive : (daemon.table.peers i).active = true) :
    Dispatched world i s (readGip gip gipLen) daemon
      (dispatchWlanGip world i (UInt8.ofNat s) gip gipLen daemon) := by
  by_cases hshort : gipLen < 4
  · have hskip : UInt8.ofNat s ≥ 8 ∨ gipLen < 4 := Or.inr hshort
    rw [readGip, if_pos hshort, dispatchWlanGip, if_pos hskip]
    exact ⟨rfl, rfl, Air.Sends.refl _⟩
  · rw [readGip, if_neg hshort, dispatchWlanGip_eq world i s gip hshort]
    have htable := dispatchAck_table world i (gipHeader gip) daemon
    have hpads := dispatchAck_pads world i (gipHeader gip) daemon
    have hack := dispatchAck_sends world i (gipHeader gip) hactive
    generalize dispatchAck world i (gipHeader gip) daemon = acked at htable hpads hack
    have hsends : Air.Sends (if decide ((gipHeader gip).frameType &&& gipTypeAck ≠ 0) = true then
        [.gip (daemon.table.peers i).mac gipCmdAcknowledge] else []) daemon.air acked.air := by
      simpa only [decide_eq_true_eq] using hack
    cases gipEvent gip gipLen with
    | pad event => exact ⟨htable, by rw [← hpads]; rfl, hsends⟩
    | other => exact ⟨htable, hpads, hsends⟩
    | announce =>
        refine ⟨?_, hpads, ?_⟩
        · rw [← htable]
          rfl
        · have hcommands := sendInitialCommands_sends world i (htable ▸ hactive)
          rw [htable] at hcommands
          have hboth := hsends.trans hcommands
          simpa only [greetingsDue, true_and, dispatchEvent] using hboth

theorem beaconAfterConnect_sends (table : PeerTable) (pads : Pads) (air : Air) :
    Air.Sends [] air (beaconAfterConnect world ⟨table, pads, air⟩).air := by
  simp only [beaconAfterConnect]
  split <;> exact setPairingBeacon_sends world _ _

/-- A peer with a pad that has made contact: what the table and the pads look like. -/
structure Attached (mac : Mac) (s : Fin maxSlots) (before after : Daemon) : Prop where
  table : after.table = (before.table.register mac).attach (before.table.entry mac)
  pads : after.pads = (before.table.attachEvents mac).foldl
    (Pads.handle world.host world.eventUdp) before.pads
  air : Air.Sends [] before.air after.air

/-- The peer after `attach`: connected, otherwise as registered. -/
theorem PeerTable.attach_peer {table : PeerTable} {i : Fin maxPeers} {s : Fin maxSlots}
    (hpad : padOf? i = some s) :
    (table.attach i).peers i =
      { table.peers i with slot := UInt8.ofNat s, handshakeDone := true } := by
  rw [attach_of_pad hpad, setPeer_same]

/-- The state in which `on_xbox_data` and `on_xbox_action` look at a peer with a pad. -/
def mapped (mac : Mac) (s : Fin maxSlots) (daemon : Daemon) : Daemon :=
  { (rememberPeer world mac daemon).2 with
    table := (daemon.table.register mac).setPeer (daemon.table.entry mac)
      { (daemon.table.register mac).peers (daemon.table.entry mac) with slot := UInt8.ofNat s } }

/-- A peer that has made contact before is attached as it is. -/
theorem mapped_attached {mac : Mac} {s : Fin maxSlots} {daemon : Daemon}
    (hpad : padOf? (daemon.table.entry mac) = some s)
    (hdone : ((daemon.table.register mac).peers (daemon.table.entry mac)).handshakeDone = true) :
    Attached world mac s daemon (mapped world mac s daemon) := by
  refine ⟨?_, ?_, rememberPeer_sends world mac daemon⟩
  · rw [PeerTable.attach_of_pad hpad, ← hdone]
    rfl
  · simp only [PeerTable.attachEvents, hpad, if_pos hdone]
    rfl

/-- A first contact connects the pad and sets the handshake flag. -/
theorem connect_attached {mac : Mac} {s : Fin maxSlots} {daemon : Daemon} (after : Daemon)
    (hpad : padOf? (daemon.table.entry mac) = some s)
    (hdone : ((daemon.table.register mac).peers (daemon.table.entry mac)).handshakeDone = false)
    (htable : after.table = (mapped world mac s daemon).table.setPeer (daemon.table.entry mac)
      { (mapped world mac s daemon).table.peers (daemon.table.entry mac) with
        handshakeDone := true })
    (hpads : after.pads =
      onConnect world.host world.eventUdp (UInt8.ofNat s) (mapped world mac s daemon).pads)
    (hair : Air.Sends [] (mapped world mac s daemon).air after.air) :
    Attached world mac s daemon after := by
  refine ⟨?_, ?_, (rememberPeer_sends world mac daemon).trans hair⟩
  · rw [htable, PeerTable.attach_of_pad hpad]
    simp only [mapped, PeerTable.setPeer_same, PeerTable.setPeer_setPeer]
  · have hfresh : ¬((daemon.table.register mac).peers
        (daemon.table.entry mac)).handshakeDone = true := by
      rw [hdone]
      exact Bool.false_ne_true
    simp only [hpads, PeerTable.attachEvents, hpad, if_neg hfresh]
    rfl

theorem mapped_handshake (mac : Mac) (s : Fin maxSlots) (daemon : Daemon) :
    ((mapped world mac s daemon).table.peers (daemon.table.entry mac)).handshakeDone =
      ((daemon.table.register mac).peers (daemon.table.entry mac)).handshakeDone := by
  rw [mapped, PeerTable.setPeer_same]

theorem establishDataPath_attached {mac : Mac} {s : Fin maxSlots} {daemon : Daemon}
    (hpad : padOf? (daemon.table.entry mac) = some s) :
    Attached world mac s daemon (establishDataPath world (daemon.table.entry mac) (UInt8.ofNat s)
      (mapped world mac s daemon)) := by
  have hflag := mapped_handshake world mac s daemon
  simp only [establishDataPath]
  split
  next hdone => exact mapped_attached world hpad (hflag ▸ hdone)
  next hfresh =>
    refine connect_attached world _ hpad (hflag ▸ Bool.eq_false_of_not_eq_true hfresh) rfl rfl ?_
    exact beaconAfterConnect_sends world _ _ _

/-- A registered peer without a pad: nothing but the registration happens. -/
theorem rememberPeer_padless {mac : Mac} {daemon : Daemon} (hwf : daemon.table.WF)
    (hpad : padOf? (daemon.table.entry mac) = none) :
    (rememberPeer world mac daemon).2.table.peerSlot (daemon.table.entry mac) =
      (noSlot, daemon.table.register mac) :=
  (hwf.register mac).peerSlot_none (hwf.entry_active mac).1 hpad

theorem rememberPeer_padded {mac : Mac} {s : Fin maxSlots} {daemon : Daemon}
    (hwf : daemon.table.WF) (hpad : padOf? (daemon.table.entry mac) = some s) :
    (rememberPeer world mac daemon).2.table.peerSlot (daemon.table.entry mac) =
      (UInt8.ofNat s, (mapped world mac s daemon).table) :=
  (hwf.register mac).peerSlot_some (hwf.entry_active mac).1 hpad

theorem onXboxData_answers {daemon : Daemon} (hwf : daemon.table.WF) (src : Mac) (rxWcid : UInt8)
    (payload : List UInt8) {plen : Int} (hplen : ¬plen ≤ 4) :
    Answers world (.data src (readGip (payload.drop 4) (plen - 4))) daemon
      (onXboxData world src rxWcid payload plen daemon) := by
  have hfound : (rememberPeer world src daemon).1 = some (daemon.table.entry src) :=
    (hwf.entry_found src).1
  simp only [onXboxData, if_neg hplen, findOrRemember_eq, hfound]
  generalize readGip_eq : readGip (payload.drop 4) (plen - 4) = frame
  cases hpad : padOf? (daemon.table.entry src) with
  | none =>
      have hno : noSlot ≥ 8 := by decide
      simp only [rememberPeer_padless world hwf hpad, if_pos hno]
      refine ⟨?_, ?_, ?_⟩
      · simp [PeerTable.step, PeerTable.attach, hpad]
      · simp only [PeerTable.padEvents, PeerTable.attachEvents, PeerTable.gipEvents, hpad]
        rfl
      · simp only [PeerTable.sends, hpad]
        exact rememberPeer_sends world src daemon
  | some s =>
      simp only [rememberPeer_padded world hwf hpad, if_neg (ofNat_slot_lt s)]
      obtain ⟨htable, hpads, hair⟩ := establishDataPath_attached world hpad
      have hmapped : mapped world src s daemon = { (rememberPeer world src daemon).2 with
          table := (mapped world src s daemon).table } := rfl
      rw [hmapped] at htable hpads hair
      -- the dispatcher sees the daemon only as the data path left it
      generalize establishDataPath world (daemon.table.entry src) (UInt8.ofNat s) _ = established
        at htable hpads hair ⊢
      have hpeer : established.table.peers (daemon.table.entry src) =
          { (daemon.table.register src).peers (daemon.table.entry src) with
            slot := UInt8.ofNat s, handshakeDone := true } := by
        rw [htable, PeerTable.attach_peer hpad]
      obtain ⟨hactive, hmac⟩ := hwf.entry_active src
      have hdispatched := dispatchWlanGip_dispatched world (daemon.table.entry src) s
        (payload.drop 4) (plen - 4) established (by rw [hpeer]; exact hactive)
      rw [readGip_eq] at hdispatched
      refine ⟨?_, ?_, ?_⟩
      · rw [hdispatched.table, htable]
        simp [PeerTable.step, hpad]
      · rw [hdispatched.pads, hpads, ← List.foldl_append]
        simp only [PeerTable.padEvents, PeerTable.gipEvents, hpad]
        cases frame.event <;> rfl
      · have hboth := hair.after_nothing hdispatched.air
        simpa only [PeerTable.sends, hpad, PeerTable.greetings, greetingsDue, hpeer, hmac]
          using hboth

theorem onXboxAction_answers {daemon : Daemon} (hwf : daemon.table.WF) (src : Mac) {plen : Int}
    (hplen : ¬plen < 5) :
    Answers world (.action src) daemon (onXboxAction world src plen daemon) := by
  have hfound : (rememberPeer world src daemon).1 = some (daemon.table.entry src) :=
    (hwf.entry_found src).1
  simp only [onXboxAction, if_neg hplen, hfound]
  cases hpad : padOf? (daemon.table.entry src) with
  | none =>
      have hno : noSlot ≥ 8 := by decide
      simp only [rememberPeer_padless world hwf hpad, if_pos hno]
      refine ⟨?_, ?_, rememberPeer_sends world src daemon⟩
      · simp [PeerTable.step, PeerTable.attach, hpad]
      · simp only [PeerTable.padEvents, PeerTable.attachEvents, hpad]
        rfl
  | some s =>
      simp only [rememberPeer_padded world hwf hpad, if_neg (ofNat_slot_lt s)]
      have hflag := mapped_handshake world src s daemon
      split
      next hdone =>
        obtain ⟨htable, hpads, hair⟩ := mapped_attached world hpad (hflag ▸ hdone)
        exact ⟨htable, hpads, hair⟩
      next hfresh =>
        have hsent := sendXboxActionResponse_sends world (mapped world src s daemon).air src
          (mapped world src s daemon).air.ourMac
          ((mapped world src s daemon).table.peers (daemon.table.entry src)).wcid
        have hattached := connect_attached world
          ⟨_, _, sendXboxActionResponse world src (mapped world src s daemon).air.ourMac
            ((mapped world src s daemon).table.peers (daemon.table.entry src)).wcid
            (mapped world src s daemon).air⟩ hpad
          (hflag ▸ Bool.eq_false_of_not_eq_true hfresh) rfl rfl hsent
        exact ⟨hattached.table, hattached.pads, hattached.air⟩

/-! ## Management frames -/

theorem lock_sends (now : UInt64) (air : Air) {after : Air}
    (hafter : Air.Sends [] (lockPairingChannel now air) after) : Air.Sends [] air after :=
  (lockPairingChannel_sends air now).then_nothing hafter

/-- A registration on the way, with a response that is no association response. -/
theorem register_answers (now : UInt64) (mac : Mac) {daemon : Daemon} {air : Air}
    (hair : Air.Sends []
      (rememberPeer world mac { daemon with air := lockPairingChannel now daemon.air }).2.air air) :
    Answers world (.register mac) daemon
      { (rememberPeer world mac { daemon with air := lockPairingChannel now daemon.air }).2 with
        air := air } :=
  ⟨rfl, rfl, lock_sends now daemon.air ((rememberPeer_sends world mac _).trans hair)⟩

theorem handleProbe_answers (now : UInt64) {frame : RxFrame} (daemon : Daemon) :
    Answers world
      (if frame.payloadLen ≥ 2 ∧ byteAt frame.pl 0 = 0x00 ∧ byteAt frame.pl 1 = 0x00 then
        .register frame.src else .quiet)
      daemon (handleProbe world now frame daemon) := by
  simp only [handleProbe]
  split
  · refine register_answers world now frame.src ?_
    have hchannel := (rememberPeer_sends world frame.src
      { daemon with air := lockPairingChannel now daemon.air }).pairingChannel
    rw [← hchannel]
    exact probeResponse_sends world _ frame.src _ _
  · exact answers_quiet world daemon (lockPairingChannel_sends daemon.air now)

theorem handlePair_answers (now : UInt64) (frame : RxFrame) (daemon : Daemon) :
    Answers world .quiet daemon (handlePair world now frame daemon) := by
  simp only [handlePair]
  split
  · refine answers_quiet world daemon (lock_sends now daemon.air ?_)
    have hresponse := sendPairResponse_sends world (lockPairingChannel now daemon.air) frame.src
      (lockPairingChannel now daemon.air).ourMac
    refine hresponse.then_nothing ?_
    split
    · exact setPairingBeacon_sends world _ _
    · split
      · exact setPairingBeacon_sends world _ _
      · exact Air.Sends.refl _
  · exact answers_quiet world daemon (lockPairingChannel_sends daemon.air now)

theorem handleAuth_answers (now : UInt64) {frame : RxFrame} (hsubtype : frame.fcSubtype = 11)
    (daemon : Daemon) :
    Answers world (.register frame.src) daemon (handleAuth world now frame daemon) := by
  have hauth : ¬frame.fcSubtype = 7 := by
    rw [hsubtype]
    decide
  simp only [handleAuth, sendAuthResponse, if_neg hauth]
  exact register_answers world now frame.src (authResponse_sends world _ frame.src _ _ _ _ _)

/-- Adding the firmware client is housework; the table says it was done. -/
theorem addFwClient_spec (i : Fin maxPeers) (daemon : Daemon) :
    (addFwClient world (some i) daemon).table = daemon.table.addClient i ∧
      (addFwClient world (some i) daemon).pads = daemon.pads ∧
      Air.Sends [] daemon.air (addFwClient world (some i) daemon).air := by
  simp only [addFwClient]
  split
  next hadded =>
    refine ⟨?_, rfl, Air.Sends.refl _⟩
    refine PeerTable.ext ?_ rfl
    simp only [PeerTable.addClient, PeerTable.setPeer]
    rw [← hadded]
    exact (Function.update_eq_self i daemon.table.peers).symm
  next =>
    exact ⟨rfl, rfl, Air.Sends.housework rfl rfl rfl (mt76FwClientAdd_housework world.dongle _ _)⟩

theorem handleAssoc_answers (now : UInt64) (frame : RxFrame) (reassoc : Bool) {daemon : Daemon}
    (hwf : daemon.table.WF) :
    Answers world (.associate frame.src reassoc) daemon
      (handleAssoc world now frame reassoc daemon) := by
  simp only [handleAssoc]
  split
  next hsession =>
    refine ⟨?_, rfl, ?_⟩
    · simp only [PeerTable.step, if_pos hsession]
    · simp only [PeerTable.sends, if_pos hsession]
      exact lockPairingChannel_sends daemon.air now
  next hsession =>
    have hcommon : Answers world (.associate frame.src reassoc) daemon
        (sendAssocResponseCommon world frame.src (lockPairingChannel now daemon.air).ourMac reassoc
          { daemon with air := lockPairingChannel now daemon.air }) := by
      have hfound : (rememberPeer world frame.src
          { daemon with air := lockPairingChannel now daemon.air }).1 =
          some (daemon.table.entry frame.src) := (hwf.entry_found frame.src).1
      simp only [sendAssocResponseCommon, hfound]
      have hregistered := rememberPeer_sends world frame.src
        { daemon with air := lockPairingChannel now daemon.air }
      obtain ⟨htable, hpads, hair⟩ := addFwClient_spec world (daemon.table.entry frame.src)
        (rememberPeer world frame.src { daemon with air := lockPairingChannel now daemon.air }).2
      refine ⟨?_, hpads, ?_⟩
      · simp only [PeerTable.step, if_neg hsession]
        exact htable
      · simp only [PeerTable.sends, if_neg hsession]
        exact (lock_sends now daemon.air (hregistered.trans hair)).after_nothing
          (assocResponse_sends world _ frame.src _ reassoc 0xff)
    cases reassoc with
    | false =>
        rw [if_neg Bool.false_ne_true]
        exact hcommon
    | true =>
        rw [if_pos rfl]
        exact hcommon

/-! ## The reader -/

section

variable {frame : RxFrame} {ourMac : Mac}

theorem RxFrame.Mgmt.not_data {subtype : UInt8} (hmgmt : frame.Mgmt subtype ourMac) :
    ¬frame.QosData ourMac := by
  intro hdata
  exact absurd (hmgmt.1.symm.trans hdata.1) (by decide)

theorem RxFrame.Mgmt.unique {subtype other : UInt8} (hmgmt : frame.Mgmt subtype ourMac)
    (hne : subtype ≠ other) : ¬frame.Mgmt other ourMac :=
  fun hother => hne (hmgmt.2.1.symm.trans hother.2.1)

theorem RxFrame.IsXboxAction.mgmt (haction : frame.IsXboxAction) (htoUs : frame.ToUs ourMac) :
    frame.Mgmt 13 ourMac :=
  ⟨haction.1, haction.2.1, htoUs⟩

end

/-- A request that locks the pairing channel: directed probe, pairing, authentication,
association or reassociation. -/
def RxFrame.IsRequest (frame : RxFrame) (ourMac : Mac) : Prop :=
  frame.Mgmt 4 ourMac ∨ frame.Mgmt 7 ourMac ∨ frame.Mgmt 11 ourMac ∨ frame.Mgmt 0 ourMac ∨
    frame.Mgmt 2 ourMac

instance (frame : RxFrame) (ourMac : Mac) : Decidable (frame.IsRequest ourMac) :=
  inferInstanceAs (Decidable (_ ∨ _))

theorem RxFrame.not_isRequest {frame : RxFrame} {ourMac : Mac}
    (hnot : ∀ subtype, subtype ≠ 13 → ¬frame.Mgmt subtype ourMac) : ¬frame.IsRequest ourMac := by
  intro hrequest
  rcases hrequest with hprobe | hpair | hauth | hassoc | hreassoc
  · exact hnot 4 (by decide) hprobe
  · exact hnot 7 (by decide) hpair
  · exact hnot 11 (by decide) hauth
  · exact hnot 0 (by decide) hassoc
  · exact hnot 2 (by decide) hreassoc

theorem handleFrame_data (now : UInt64) {frame : RxFrame} {daemon : Daemon}
    (hdata : frame.QosData daemon.air.ourMac) :
    handleFrame world now frame daemon =
      onXboxData world frame.src frame.rxWcid frame.pl frame.payloadLen daemon := by
  have hnot (subtype : UInt8) : ¬frame.Mgmt subtype daemon.air.ourMac :=
    fun hmgmt => hmgmt.not_data hdata
  have haction : ¬frame.IsXboxAction := fun haction => hnot 13 (haction.mgmt hdata.2.2.1)
  simp only [handleFrame, if_pos hdata, if_neg (hnot _), haction, false_and, if_false]

/-- At most one handler runs for a frame: a case for each. -/
theorem handleFrame_cases (now : UInt64) (frame : RxFrame) (daemon : Daemon)
    {motive : Stimulus → Daemon → Prop}
    (data : frame.QosData daemon.air.ourMac → ¬frame.IsRequest daemon.air.ourMac →
      motive (.data frame.src frame.gip)
        (onXboxData world frame.src frame.rxWcid frame.pl frame.payloadLen daemon))
    (action : frame.IsXboxAction ∧ frame.ToUs daemon.air.ourMac →
      ¬frame.IsRequest daemon.air.ourMac →
      motive (.action frame.src) (onXboxAction world frame.src frame.payloadLen daemon))
    (awdl : ¬frame.QosData daemon.air.ourMac → ¬frame.IsRequest daemon.air.ourMac →
      motive .quiet { daemon with air := logAwdlIgnored now daemon.air })
    (probe : frame.Mgmt 4 daemon.air.ourMac → motive
      (if frame.payloadLen ≥ 2 ∧ byteAt frame.pl 0 = 0x00 ∧ byteAt frame.pl 1 = 0x00 then
        .register frame.src else .quiet) (handleProbe world now frame daemon))
    (pair : frame.Mgmt 7 daemon.air.ourMac → motive .quiet (handlePair world now frame daemon))
    (auth : frame.Mgmt 11 daemon.air.ourMac →
      motive (.register frame.src) (handleAuth world now frame daemon))
    (assoc : ∀ reassoc, frame.Mgmt (if reassoc then 2 else 0) daemon.air.ourMac →
      motive (.associate frame.src reassoc) (handleAssoc world now frame reassoc daemon))
    (other : ¬frame.QosData daemon.air.ourMac → ¬frame.IsRequest daemon.air.ourMac →
      motive .quiet daemon) :
    motive (frame.stimulus daemon.air.ourMac) (handleFrame world now frame daemon) := by
  by_cases hdata : frame.QosData daemon.air.ourMac
  · rw [RxFrame.stimulus_data hdata, handleFrame_data world now hdata]
    exact data hdata (RxFrame.not_isRequest fun _ _ hmgmt => hmgmt.not_data hdata)
  simp only [handleFrame, RxFrame.stimulus, if_neg hdata]
  by_cases haction : frame.IsXboxAction ∧ frame.ToUs daemon.air.ourMac
    -- an action frame is of subtype 13, so it is none of the requests
  · have hnot (subtype : UInt8) (hne : subtype ≠ 13) : ¬frame.Mgmt subtype daemon.air.ourMac :=
      (haction.1.mgmt haction.2).unique hne.symm
    simp only [if_pos haction, if_neg (hnot 4 (by decide)), if_neg (hnot 7 (by decide)),
      if_neg (hnot 11 (by decide)), if_neg (hnot 0 (by decide)), if_neg (hnot 2 (by decide))]
    exact action haction (RxFrame.not_isRequest hnot)
  simp only [if_neg haction]
  by_cases hawdl : frame.IsXboxAction ∧ macIsAwdlBssid frame.bss
  · have hnot (subtype : UInt8) : ¬frame.Mgmt subtype daemon.air.ourMac :=
      fun hmgmt => haction ⟨hawdl.1, hmgmt.2.2⟩
    simp only [if_pos hawdl, if_neg (hnot _)]
    exact awdl hdata (RxFrame.not_isRequest fun subtype _ => hnot subtype)
  simp only [if_neg hawdl]
  by_cases hprobe : frame.Mgmt 4 daemon.air.ourMac
  · simp only [if_pos hprobe, if_neg (hprobe.unique (by decide : (4 : UInt8) ≠ 7)),
      if_neg (hprobe.unique (by decide : (4 : UInt8) ≠ 11)),
      if_neg (hprobe.unique (by decide : (4 : UInt8) ≠ 0)),
      if_neg (hprobe.unique (by decide : (4 : UInt8) ≠ 2))]
    exact probe hprobe
  simp only [if_neg hprobe]
  by_cases hpair : frame.Mgmt 7 daemon.air.ourMac
  · simp only [if_pos hpair, if_neg (hpair.unique (by decide : (7 : UInt8) ≠ 11)),
      if_neg (hpair.unique (by decide : (7 : UInt8) ≠ 0)),
      if_neg (hpair.unique (by decide : (7 : UInt8) ≠ 2))]
    exact pair hpair
  simp only [if_neg hpair]
  by_cases hauth : frame.Mgmt 11 daemon.air.ourMac
  · simp only [if_pos hauth, if_neg (hauth.unique (by decide : (11 : UInt8) ≠ 0)),
      if_neg (hauth.unique (by decide : (11 : UInt8) ≠ 2))]
    exact auth hauth
  simp only [if_neg hauth]
  -- the two association subtypes share a handler and differ in its flag
  by_cases hassoc : frame.Mgmt 0 daemon.air.ourMac
  · simp only [if_pos hassoc, if_neg (hassoc.unique (by decide : (0 : UInt8) ≠ 2))]
    exact assoc false hassoc
  simp only [if_neg hassoc]
  split
  next hreassoc => exact assoc true hreassoc
  next hreassoc =>
    apply other hdata
    intro hrequest
    rcases hrequest with h | h | h | h | h
    · exact hprobe h
    · exact hpair h
    · exact hauth h
    · exact hassoc h
    · exact hreassoc h

/-- The handler that runs answers the frame's stimulus. -/
theorem handleFrame_answers (now : UInt64) (frame : RxFrame) {daemon : Daemon}
    (hwf : daemon.table.WF) :
    Answers world (frame.stimulus daemon.air.ourMac) daemon
      (handleFrame world now frame daemon) := by
  apply handleFrame_cases world now frame daemon
    (motive := fun stimulus after => Answers world stimulus daemon after)
  · intro hdata _
    exact onXboxData_answers world hwf frame.src frame.rxWcid frame.pl (not_le.mpr hdata.2.2.2)
  · intro haction _
    exact onXboxAction_answers world hwf frame.src (not_lt.mpr haction.1.2.2.1)
  · exact fun _ _ => answers_quiet world daemon (logAwdlIgnored_sends daemon.air now)
  · exact fun _ => handleProbe_answers world now daemon
  · exact fun _ => handlePair_answers world now frame daemon
  · exact fun hauth => handleAuth_answers world now hauth.2.1 daemon
  · exact fun reassoc _ => handleAssoc_answers world now frame reassoc hwf
  · exact fun _ _ => answers_quiet world daemon (Air.Sends.refl _)

/-- Every received transfer is answered as the session machine says. -/
theorem handleTransfer_answers (now : UInt64) (t : Transfer) {daemon : Daemon}
    (hwf : daemon.table.WF) :
    Answers world (t.stimulus world.env daemon.air.ourMac) daemon
      (handleTransfer world now t daemon) := by
  have hnothing : Answers world .quiet daemon daemon :=
    answers_quiet world daemon (Air.Sends.refl _)
  simp only [handleTransfer, Transfer.stimulus]
  split
  · exact hnothing
  · cases rxFrame? t with
    | some frame => exact handleFrame_answers world now frame hwf
    | none =>
        simp only [handleEvent]
        cases clientLost? world.env t with
        | none =>
            dsimp only
            split
            · exact answers_quiet world daemon (setPairingBeacon_sends world _ _)
            · exact hnothing
        | some lostWcid =>
            dsimp only
            split
            next hrange =>
              -- the WCIDs 1 to 8 are the slots 0 to 7
              have hslot : ∃ s, slotIdx? (lostWcid - 1) = some s ∧
                  UInt8.ofNat s = lostWcid - 1 := by
                have hlow := UInt8.lt_iff_toNat_lt.mp hrange.1
                have hhigh := UInt8.lt_iff_toNat_lt.mp hrange.2
                have hzero : (0 : UInt8).toNat = 0 := rfl
                have hone : (1 : UInt8).toNat = 1 := rfl
                have hnine : (9 : UInt8).toNat = 9 := rfl
                have hsub : (lostWcid - 1).toNat = lostWcid.toNat - 1 :=
                  UInt8.toNat_sub_of_le _ _ (by rw [UInt8.le_iff_toNat_le]; omega)
                have hlt : (lostWcid - 1).toNat < maxSlots := by
                  change _ < 8
                  omega
                exact ⟨⟨_, hlt⟩, by rw [slotIdx?, dif_pos hlt], UInt8.ofNat_toNat⟩
              obtain ⟨s, hs, hval⟩ := hslot
              simp only [hs]
              refine ⟨rfl, ?_, ?_⟩
              · rw [← hval]
                rfl
              · split
                · exact setPairingBeacon_sends world _ _
                · exact Air.Sends.refl _
            next => exact hnothing

/-! ## Runs -/

/-- What a step is to the controllers. -/
def Step.stimulus (env : Env) (ourMac : Mac) : Step → Stimulus
  | .transfer _ t => t.stimulus env ourMac
  | .housekeeping _ _ => .quiet

theorem step_wf {daemon : Daemon} (hwf : daemon.table.WF) (step : Step) :
    (daemon.step world step).table.WF := by
  cases step with
  | transfer now t =>
      have htable : (daemon.step world (.transfer now t)).table = _ :=
        (handleTransfer_answers world now t hwf).table
      rw [htable]
      exact hwf.step _
  | housekeeping now scanNow => exact hwf

theorem pairingCheck_ourMac (active : Nat) (now scanNow : UInt64) (air : Air) :
    (pairingCheck world active now scanNow air).ourMac = air.ourMac := by
  have hbeacon (enabled : Bool) : (setPairingBeacon world enabled air).ourMac = air.ourMac :=
    (setPairingBeacon_sends world air enabled).ourMac
  by_cases hactive : active = 0
  · rw [hactive, pairingCheck_idle]
    split
    · exact hbeacon true
    · split
      · exact hbeacon true
      · exact hbeacon true
  · simp only [pairingCheck, if_neg hactive]
    split
    · exact hbeacon _
    · rfl

/-- The address the reader compares with never changes. -/
theorem step_ourMac {daemon : Daemon} (hwf : daemon.table.WF) (step : Step) :
    (daemon.step world step).air.ourMac = daemon.air.ourMac := by
  cases step with
  | transfer now t => exact (handleTransfer_answers world now t hwf).air.ourMac
  | housekeeping now scanNow => exact pairingCheck_ourMac world _ now scanNow daemon.air

/-- A step does to the slots what its pad events do. -/
theorem step_pads {daemon : Daemon} (hwf : daemon.table.WF) (step : Step) :
    (daemon.step world step).pads = run (Pads.handle world.host world.eventUdp) daemon.pads
      (daemon.table.padEvents (step.stimulus world.env daemon.air.ourMac)) := by
  cases step with
  | transfer now t => exact (handleTransfer_answers world now t hwf).pads
  | housekeeping now scanNow => rfl

/-- One step of the daemon is one step of the session machine. -/
theorem step_link {daemon : Daemon} (hwf : daemon.table.WF) (step : Step) :
    (daemon.step world step).link =
      daemon.link.step (step.stimulus world.env daemon.air.ourMac) := by
  cases step with
  | transfer now t =>
      obtain ⟨htable, hpads, -⟩ := handleTransfer_answers world now t hwf
      refine Link.ext htable ?_
      change (handleTransfer world now t daemon).pads.view = _
      rw [hpads, view_foldl_handle]
      rfl
  | housekeeping now scanNow => rfl

/-- The daemon refines the session machine: the runs correspond step by step. -/
theorem run_link {daemon : Daemon} (hwf : daemon.table.WF) (steps : List Step) :
    (run (Daemon.step world) daemon steps).link =
      run Link.step daemon.link (steps.map (Step.stimulus world.env daemon.air.ourMac)) := by
  refine Machine.run_map Daemon.link (Step.stimulus world.env daemon.air.ourMac)
    (fun state => state.table.WF ∧ state.air.ourMac = daemon.air.ourMac) ?_ ?_ ⟨hwf, rfl⟩ steps
  · intro state step hinv
    obtain ⟨hwf, hmac⟩ := hinv
    exact ⟨step_wf world hwf step, (step_ourMac world hwf step).trans hmac⟩
  · intro state step hinv
    obtain ⟨hwf, hmac⟩ := hinv
    rw [step_link world hwf step, hmac]

/-! ## Start-up -/

/-- Start-up leaves the peer table empty and the slots as the HID probe found them. -/
theorem boots_start {daemon : Daemon} (hboot : Boots world daemon) :
    daemon.table = {} ∧ daemon.pads = probeHidSupport world.host world.eventUdp {} := by
  obtain ⟨rounds, hinit⟩ := hboot
  have hradio : ∀ usb, radioStart world usb (mainStart world) = some daemon →
      daemon.table = {} ∧ daemon.pads = probeHidSupport world.host world.eventUdp {} := by
    intro usb hradio
    obtain ⟨mac, -, rfl⟩ := Option.map_eq_some_iff.mp hradio
    exact ⟨rfl, rfl⟩
  simp only [mainInit] at hinit
  split at hinit
  · obtain ⟨fw, -, hinit⟩ := Option.bind_eq_some_iff.mp hinit
    obtain ⟨uploaded, -, hinit⟩ := Option.bind_eq_some_iff.mp hinit
    split at hinit
    · cases hinit
    · exact hradio _ hinit
  · cases hinit
    exact ⟨rfl, rfl⟩

theorem probeHidSupport_slots (host : Host) (eventUdp : Bool) (pads : Pads) :
    (probeHidSupport host eventUdp pads).slots = pads.slots := by
  simp only [probeHidSupport]
  split
  · rfl
  · unfold eventUdpSend
    split <;> rfl

theorem boots_slots {daemon : Daemon} (hboot : Boots world daemon) :
    daemon.pads.slots = fun _ => {} := by
  rw [(boots_start world hboot).2, probeHidSupport_slots]

theorem boots_wf {daemon : Daemon} (hboot : Boots world daemon) : daemon.table.WF := by
  rw [(boots_start world hboot).1]
  exact PeerTable.initial_wf

theorem boots_link {daemon : Daemon} (hboot : Boots world daemon) : daemon.link = {} := by
  refine Link.ext (boots_start world hboot).1 ?_
  funext s
  simp only [Daemon.link, Pads.view, boots_slots world hboot]
  rfl

theorem reachable_wf {daemon : Daemon} (hreach : Reachable world daemon) : daemon.table.WF := by
  obtain ⟨boot, steps, hboot, rfl⟩ := hreach
  exact Machine.run_invariant (fun daemon : Daemon => daemon.table.WF)
    (fun daemon step hwf => step_wf world hwf step) (boots_wf world hboot) steps

end XoneDarwin
