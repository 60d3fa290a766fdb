import Mathlib.Data.Fintype.EquivFin
import Mathlib.Order.Interval.Finset.Fin
import XoneDarwin.Daemon.Frames

/-!
# Who gets a slot, and who gets it back

A connect happens once per peer entry: `handshake_done` is set with it and stays
set when the slot is cleared. A controller that was lost comes back with a
`CTRL_ADDED` packet and with nothing else. A new controller gets a slot as long
as fewer than eight stations were ever registered, connected or not.
-/

namespace XoneDarwin

open Machine (run Always)

/-! ## Slots of stations -/

/-- `peer_slot` of the entry a station is found under. -/
def PeerTable.slotOf? (mac : Mac) (table : PeerTable) : Option (Fin maxSlots) :=
  (table.findPeerByMac mac).bind fun i => slotIdx? (table.peerSlot i).1

/-- A station owns an active slot. -/
def Daemon.Owns (mac : Mac) (daemon : Daemon) : Prop :=
  ∃ s, daemon.table.slotOf? mac = some s ∧ (daemon.pads.slots s).active = true

theorem PeerTable.WF.slotIdx?_peerSlot {table : PeerTable} (hwf : table.WF) {i : Fin maxPeers}
    (hactive : (table.peers i).active = true) : slotIdx? (table.peerSlot i).1 = padOf? i := by
  cases hpad : padOf? i with
  | none =>
      rw [hwf.peerSlot_none hactive hpad]
      rfl
  | some s =>
      rw [hwf.peerSlot_some hactive hpad]
      exact slotIdx?_ofNat s

/-- After a data frame the sender's slot is the pad of its entry. -/
theorem PeerTable.WF.slotOf?_data {table : PeerTable} (hwf : table.WF) (mac : Mac)
    (frame : GipFrame) :
    (table.step (.data mac frame)).slotOf? mac = padOf? (table.entry mac) := by
  have hfind := hwf.find_data mac frame
  rw [PeerTable.slotOf?, hfind, Option.bind_some]
  exact (hwf.step _).slotIdx?_peerSlot (findPeerByMac_some hfind).1

/-- The slot of a station is the pad of its entry. -/
theorem PeerTable.WF.slotOf?_eq_some_iff {table : PeerTable} (hwf : table.WF) {mac : Mac}
    {s : Fin maxSlots} :
    table.slotOf? mac = some s ↔ ∃ i, table.findPeerByMac mac = some i ∧ padOf? i = some s := by
  rw [PeerTable.slotOf?, Option.bind_eq_some_iff]
  refine exists_congr fun i => and_congr_right fun hfind => ?_
  rw [hwf.slotIdx?_peerSlot (findPeerByMac_some hfind).1]

/-- A station without a first contact ahead and with a pad has its slot already. -/
theorem PeerTable.WF.slotOf?_contacted {table : PeerTable} (hwf : table.WF) {mac : Mac}
    {s : Fin maxSlots} (hpad : padOf? (table.entry mac) = some s)
    (hdone : ((table.register mac).peers (table.entry mac)).handshakeDone = true) :
    table.slotOf? mac = some s := by
  cases hfind : table.findPeerByMac mac with
  | none =>
      rw [(hwf.entry_new hfind).2] at hdone
      cases hdone
  | some i =>
      rw [entry_known hfind] at hpad
      exact hwf.slotOf?_eq_some_iff.mpr ⟨i, hfind, hpad⟩

/-! ## Activity -/

/-- Only connects and disconnects change whether a pad is in use. -/
theorem Pad.apply_active (pad : Pad) (event : PadEvent) :
    (pad.apply event).active =
      match event with
      | .connect => true
      | .disconnect => false
      | _ => pad.active := by
  cases event with
  | connect =>
      simp only [Pad.apply]
      split
      next hactive => exact hactive
      next => rfl
  | disconnect =>
      simp only [Pad.apply]
      split
      next => rfl
      next hactive => exact Bool.eq_false_of_not_eq_true hactive
  | input g =>
      simp only [Pad.apply]
      split <;> rfl
  | guide pressed => rfl

/-- A data frame leaves its sender's pad in use unless it says otherwise, or says nothing
about a pad that was not in use after an earlier connect. -/
theorem Link.step_data_active (link : Link) {mac : Mac} {s : Fin maxSlots}
    (hpad : padOf? (link.table.entry mac) = some s) (frame : GipFrame) :
    ((link.step (.data mac frame)).pads s).active =
      match frame.event with
      | .pad .connect => true
      | .pad .disconnect => false
      | _ => !((link.table.register mac).peers (link.table.entry mac)).handshakeDone ||
          (link.pads s).active := by
  simp only [Link.step, PeerTable.padEvents, PeerTable.attachEvents, PeerTable.gipEvents, hpad]
  cases ((link.table.register mac).peers (link.table.entry mac)).handshakeDone with
  | true =>
      cases frame.event with
      | pad event => cases event <;> simp [applyEvents, Pad.apply_active]
      | announce => rfl
      | other => rfl
  | false =>
      cases frame.event with
      | pad event => cases event <;> simp [applyEvents, Pad.apply_active]
      | announce => simp [applyEvents, Pad.apply_active]
      | other => simp [applyEvents, Pad.apply_active]

/-! ## Reconnection -/

variable (world : World)

/-- A data frame of a controller with a slot leaves the slot active, unless it is the
frame that reports the controller lost. -/
def Recovers (daemon : Daemon) : Step → Prop
  | .transfer now t => ∀ frame, rxFrame? t = some frame → frame.QosData daemon.air.ourMac →
      frame.gipCommand? ≠ some gipCmdCtrlLost →
      ∀ s, (handleTransfer world now t daemon).table.slotOf? frame.src = some s →
        ((handleTransfer world now t daemon).pads.slots s).active = true
  | .housekeeping _ _ => True

/-- If the sender had its connect, its slot is still active or the frame is a `CTRL_ADDED`. -/
def CanRecover (daemon : Daemon) : Step → Prop
  | .transfer _ t => ∀ frame, rxFrame? t = some frame → frame.QosData daemon.air.ourMac →
      frame.gipCommand? ≠ some gipCmdCtrlLost →
      ∀ i s, daemon.table.findPeerByMac frame.src = some i →
        slotIdx? (daemon.table.peerSlot i).1 = some s →
        (daemon.table.peers i).handshakeDone = true →
        (daemon.pads.slots s).active = true ∨ frame.gipCommand? = some gipCmdCtrlAdded
  | .housekeeping _ _ => True

/-- The pad after a data frame that does not report its sender lost. -/
theorem step_data_active_iff (link : Link) {mac : Mac} {s : Fin maxSlots}
    (hpad : padOf? (link.table.entry mac) = some s) {frame : GipFrame}
    (hlost : frame.event ≠ .pad .disconnect) :
    ((link.step (.data mac frame)).pads s).active = true ↔
      (((link.table.register mac).peers (link.table.entry mac)).handshakeDone = true →
        (link.pads s).active = true ∨ frame.event = .pad .connect) := by
  rw [link.step_data_active hpad]
  cases hevent : frame.event with
  | pad event =>
      cases event with
      | connect => simp
      | disconnect => exact absurd hevent hlost
      | input g => simp [imp_iff_not_or]
      | guide pressed => simp [imp_iff_not_or]
  | announce => simp [imp_iff_not_or]
  | other => simp [imp_iff_not_or]

/-- What a received data frame does, in terms of the session machine. -/
theorem handleTransfer_data {daemon : Daemon} (hwf : daemon.table.WF) (now : UInt64) {t : Transfer}
    {frame : RxFrame} (hframe : rxFrame? t = some frame)
    (hdata : frame.QosData daemon.air.ourMac) :
    (handleTransfer world now t daemon).link = daemon.link.step (.data frame.src frame.gip) := by
  have hlink : (handleTransfer world now t daemon).link = _ :=
    step_link world hwf (.transfer now t)
  rw [hlink, Step.stimulus, Transfer.stimulus_frame hframe, RxFrame.stimulus_data hdata]

/-- After a data frame its sender's slot is the pad of its entry, and the session machine says
which pads are in use. -/
theorem handleTransfer_data_slot {daemon : Daemon} (hwf : daemon.table.WF) (now : UInt64)
    {t : Transfer} {frame : RxFrame} (hframe : rxFrame? t = some frame)
    (hdata : frame.QosData daemon.air.ourMac) :
    (handleTransfer world now t daemon).table.slotOf? frame.src =
        padOf? (daemon.table.entry frame.src) ∧
      ∀ s, ((handleTransfer world now t daemon).pads.slots s).active =
        ((daemon.link.step (.data frame.src frame.gip)).pads s).active := by
  have hlink := handleTransfer_data world hwf now hframe hdata
  have htable : (handleTransfer world now t daemon).table =
      daemon.table.step (.data frame.src frame.gip) := congrArg Link.table hlink
  rw [htable, hwf.slotOf?_data]
  exact ⟨rfl, fun s => congrArg (fun link : Link => (link.pads s).active) hlink⟩

theorem recovers_iff {daemon : Daemon} (hwf : daemon.table.WF) (step : Step) :
    Recovers world daemon step ↔ CanRecover daemon step := by
  cases step with
  | housekeeping now scanNow => exact Iff.rfl
  | transfer now t =>
      refine forall_congr' fun frame => forall_congr' fun hframe => forall_congr' fun hdata =>
        forall_congr' fun hcommand => ?_
      obtain ⟨hslot, hpads⟩ := handleTransfer_data_slot world hwf now hframe hdata
      have hlost : frame.gip.event ≠ .pad .disconnect :=
        fun hevent => hcommand (frame.gip_event.2.mp hevent)
      simp only [hslot, hpads, ← frame.gip_event.1]
      have hiff (s : Fin maxSlots) (hpad : padOf? (daemon.table.entry frame.src) = some s) :=
        step_data_active_iff daemon.link hpad hlost
      cases hfind : daemon.table.findPeerByMac frame.src with
      | none =>
          -- a new sender has not had its connect
          have hfresh : ((daemon.table.register frame.src).peers
              (daemon.table.entry frame.src)).handshakeDone = false :=
            congrArg Peer.handshakeDone (hwf.entry_new hfind).2
          refine iff_of_true (fun s hpad => (hiff s hpad).mpr fun hdone => ?_)
            (fun i s hsome => by cases hsome)
          exact absurd (hfresh.symm.trans hdone) Bool.false_ne_true
      | some i =>
          have hentry := PeerTable.entry_known hfind
          have hactive := (PeerTable.findPeerByMac_some hfind).1
          simp only [Daemon.link, PeerTable.register_known hfind, hentry] at hiff
          constructor
          · rintro hactive' j s ⟨⟩ hslot
            rw [hwf.slotIdx?_peerSlot hactive] at hslot
            exact (hiff s hslot).mp (hactive' s (hentry ▸ hslot))
          · intro hrecover s hpad
            rw [hentry] at hpad
            exact (hiff s hpad).mpr
              (hrecover i s rfl ((hwf.slotIdx?_peerSlot hactive).trans hpad))

/-- Every data frame of a run recovers its sender's slot if and only if each of them finds
the slot still active, or comes before the sender's connect, or is a `CTRL_ADDED`. -/
theorem always_recovers_iff {boot : Daemon} (hboot : Boots world boot) (steps : List Step) :
    Always (Daemon.step world) (Recovers world) boot steps ↔
      Always (Daemon.step world) CanRecover boot steps :=
  Machine.always_congr (fun daemon : Daemon => daemon.table.WF)
    (fun _ step hwf => step_wf world hwf step)
    (fun _ step hwf => recovers_iff world hwf step) (boots_wf world hboot) steps

/-- An input packet with all buttons released. -/
def inputPacket : List UInt8 := [0x20, 0x00, 0x03, 0x0e] ++ List.replicate 14 0

def inputStep : Step := packetStep inputPacket (by decide)

/-- A controller connects, is lost and sends an input packet. -/
def lostSteps : List Step :=
  [addedStep, removedStep, inputStep]

theorem always_recovers_iff_plain :
    Always (Daemon.step (romWorld plainRom)) (Recovers (romWorld plainRom)) plainBoot lostSteps ↔
      Always (Daemon.step (romWorld plainRom)) CanRecover plainBoot lostSteps :=
  always_recovers_iff (romWorld plainRom) plainBoot_boots lostSteps

/-- The input of a controller that is transmitting again is dropped. -/
theorem lost_not_recovers :
    ¬Always (Daemon.step (romWorld plainRom)) (Recovers (romWorld plainRom)) plainBoot
      lostSteps := by
  intro halways
  have hthird := halways (lostSteps.take 2) _ [] rfl
  have hmac : (run (Daemon.step (romWorld plainRom)) plainBoot (lostSteps.take 2)).air.ourMac =
      plainMac := by decide +kernel
  have hslot : ((run (Daemon.step (romWorld plainRom)) plainBoot (lostSteps.take 2)).step
      (romWorld plainRom) inputStep).table.slotOf? padMac = some 0 := by
    decide +kernel
  have hidle : (((run (Daemon.step (romWorld plainRom)) plainBoot (lostSteps.take 2)).step
      (romWorld plainRom) inputStep).pads.slots 0).active = false := by
    decide +kernel
  generalize run (Daemon.step (romWorld plainRom)) plainBoot (lostSteps.take 2) = before
    at hthird hmac hslot hidle
  obtain ⟨frame, hframe, hdata, hsrc, hgip⟩ :=
    gipTransfer_data plainMac padMac inputPacket (by decide) (by decide)
  have hlost : frame.gipCommand? ≠ some gipCmdCtrlLost := by
    rw [Ne, ← frame.gip_event.2, hgip]
    decide
  have hactive := hthird frame hframe (hmac ▸ hdata) hlost 0 (by rw [hsrc]; exact hslot)
  exact Bool.false_ne_true (hidle.symm.trans hactive)

/-! ## New controllers -/

namespace PeerTable

variable {table : PeerTable}

/-- The number of stations that have an entry, connected or not. -/
def registered (table : PeerTable) : Nat :=
  (Finset.univ.filter fun i => (table.peers i).active = true).card

theorem WF.registered_lt_iff (hwf : table.WF) :
    table.registered < 8 ↔ table.nextWcid.toNat ≤ 8 := by
  constructor
  · intro hfew
    by_contra hmany
    have hused : Finset.Icc (1 : Fin maxPeers) 8 ⊆
        Finset.univ.filter fun i => (table.peers i).active = true := by
      intro i hi
      obtain ⟨hlow, hhigh⟩ := Finset.mem_Icc.mp hi
      have hone : 1 ≤ i.val := hlow
      have height : i.val ≤ 8 := hhigh
      exact Finset.mem_filter.mpr ⟨Finset.mem_univ i, hwf.used i hone (by omega)⟩
    have hcard := Finset.card_le_card hused
    rw [Fin.card_Icc] at hcard
    exact absurd hfew (not_lt.mpr hcard)
  · intro hle
    have hunused : Finset.univ.filter (fun i => (table.peers i).active = true) ⊆
        Finset.Icc (1 : Fin maxPeers) 7 := by
      intro i hi
      have hactive := (Finset.mem_filter.mp hi).2
      have hpos : 0 < i.val := PeerTable.entry_pos (hwf.index_pos hactive)
      have hlt : i.val < table.nextWcid.toNat := by
        by_contra hge
        rw [hwf.fresh (by omega) i (by omega)] at hactive
        cases hactive
      have hseven : i.val ≤ 7 := by omega
      exact Finset.mem_Icc.mpr ⟨hpos, hseven⟩
    have hcard := Finset.card_le_card hunused
    rw [Fin.card_Icc] at hcard
    exact Nat.lt_succ_of_le hcard

/-- A new station gets a pad as long as the counter is at most 8. -/
theorem WF.padOf?_next (hwf : table.WF) :
    (∃ s, padOf? hwf.next = some s) ↔ table.nextWcid.toNat ≤ 8 := by
  have hval : hwf.next.val = table.nextWcid.toNat := rfl
  have hpos := hwf.next_pos
  simp only [padOf?, hval]
  split
  next hrange => exact iff_of_true ⟨_, rfl⟩ hrange.2
  next hrange => exact iff_of_false (by simp) (by omega)

/-- Registering a station takes nobody's entry out of use. -/
theorem WF.register_active (hwf : table.WF) (mac : Mac) {i : Fin maxPeers}
    (hactive : (table.peers i).active = true) :
    ((table.register mac).peers i).active = true := by
  cases hfind : table.findPeerByMac mac with
  | some j => rwa [register_known hfind]
  | none =>
      rw [PeerTable.register, hwf.remember_new hfind]
      simp only [setPeer_peers]
      split
      next => rfl
      next => exact hactive

/-- Entries are never given back. -/
theorem WF.step_active (hwf : table.WF) (stimulus : Stimulus) {i : Fin maxPeers}
    (hactive : (table.peers i).active = true) : ((table.step stimulus).peers i).active = true := by
  cases stimulus with
  | quiet => exact hactive
  | register mac => exact hwf.register_active mac hactive
  | associate mac reassoc =>
      simp only [PeerTable.step]
      split
      · exact hactive
      · rw [(addClient_station _ i).1]
        exact hwf.register_active mac hactive
  | action mac =>
      simp only [PeerTable.step]
      rw [(attach_station _ i).1]
      exact hwf.register_active mac hactive
  | data mac frame =>
      simp only [PeerTable.step]
      split
      · rw [(greet_station _ i).1, (attach_station _ i).1]
        exact hwf.register_active mac hactive
      · rw [(attach_station _ i).1]
        exact hwf.register_active mac hactive
  | lost s => exact hactive

end PeerTable

/-- The number of registered stations never goes down. -/
theorem run_registered {daemon : Daemon} (hwf : daemon.table.WF) (steps : List Step) :
    daemon.table.registered ≤ (run (Daemon.step world) daemon steps).table.registered := by
  have hkept : (run (Daemon.step world) daemon steps).table.WF ∧
      ∀ i, (daemon.table.peers i).active = true →
        ((run (Daemon.step world) daemon steps).table.peers i).active = true := by
    refine Machine.run_invariant (fun state : Daemon => state.table.WF ∧
      ∀ i, (daemon.table.peers i).active = true → (state.table.peers i).active = true) ?_
      ⟨hwf, fun _ hactive => hactive⟩ steps
    intro state step hinv
    obtain ⟨hwf, hkept⟩ := hinv
    refine ⟨step_wf world hwf step, fun i hactive => ?_⟩
    have htable : (state.step world step).table = _ :=
      congrArg Link.table (step_link world hwf step)
    rw [htable]
    exact hwf.step_active _ (hkept i hactive)
  refine Finset.card_le_card fun i hi => ?_
  obtain ⟨-, hactive⟩ := Finset.mem_filter.mp hi
  exact Finset.mem_filter.mpr ⟨Finset.mem_univ i, hkept.2 i hactive⟩

theorem newcomer_owns {daemon : Daemon} (hwf : daemon.table.WF) (now : UInt64) {t : Transfer}
    {frame : RxFrame} (hframe : rxFrame? t = some frame) (hdata : frame.QosData daemon.air.ourMac)
    (hnew : daemon.table.findPeerByMac frame.src = none) :
    (handleTransfer world now t daemon).Owns frame.src ↔
      daemon.table.registered < 8 ∧ frame.gipCommand? ≠ some gipCmdCtrlLost := by
  obtain ⟨hslot, hpads⟩ := handleTransfer_data_slot world hwf now hframe hdata
  obtain ⟨hentry, hfresh⟩ := hwf.entry_new hnew
  have hconnected : ((daemon.table.register frame.src).peers
      (daemon.table.entry frame.src)).handshakeDone = false := congrArg Peer.handshakeDone hfresh
  rw [hwf.registered_lt_iff, ← hwf.padOf?_next, ← hentry, Ne, ← frame.gip_event.2]
  simp only [Daemon.Owns, hslot, hpads]
  constructor
  · intro howns
    obtain ⟨s, hpad, hactive⟩ := howns
    refine ⟨⟨s, hpad⟩, fun hlost => ?_⟩
    rw [daemon.link.step_data_active hpad, hlost] at hactive
    cases hactive
  · intro hboth
    obtain ⟨⟨s, hpad⟩, hlost⟩ := hboth
    refine ⟨s, hpad, (step_data_active_iff daemon.link hpad hlost).mpr fun hdone => ?_⟩
    exact absurd (hconnected.symm.trans hdone) Bool.false_ne_true

/-- In every reachable state an accepted data frame of an unknown controller ends with that
controller owning an active slot if and only if fewer than eight stations are registered and the
frame does not report the controller lost; and registrations are never undone. -/
theorem newcomer_owns_iff {daemon : Daemon} (hreach : Reachable world daemon) :
    (∀ steps, daemon.table.registered ≤
      (run (Daemon.step world) daemon steps).table.registered) ∧
    ∀ now t frame, rxFrame? t = some frame → frame.QosData daemon.air.ourMac →
      daemon.table.findPeerByMac frame.src = none →
      ((handleTransfer world now t daemon).Owns frame.src ↔
        daemon.table.registered < 8 ∧ frame.gipCommand? ≠ some gipCmdCtrlLost) :=
  ⟨run_registered world (reachable_wf world hreach),
    fun now _ _ hframe hdata hnew =>
      newcomer_owns world (reachable_wf world hreach) now hframe hdata hnew⟩

/-- Eight stations ask for the adapter with empty probe requests. -/
def probeSteps : List Step :=
  (List.range 8).map fun k =>
    .transfer 0 (wlanTransfer 0x40 plainMac ⟨0x02, 0, 0, 0, 0, UInt8.ofNat k⟩ [0, 0] (by decide))

theorem newcomer_owns_iff_plain :
    (∀ steps, plainBoot.table.registered ≤
      (run (Daemon.step (romWorld plainRom)) plainBoot steps).table.registered) ∧
    ∀ now t frame, rxFrame? t = some frame → frame.QosData plainBoot.air.ourMac →
      plainBoot.table.findPeerByMac frame.src = none →
      ((handleTransfer (romWorld plainRom) now t plainBoot).Owns frame.src ↔
        plainBoot.table.registered < 8 ∧ frame.gipCommand? ≠ some gipCmdCtrlLost) :=
  newcomer_owns_iff (romWorld plainRom) ⟨plainBoot, [], plainBoot_boots, rfl⟩

/-- Eight probing stations use up the slots: no slot is active, and still the next
controller gets none. -/
theorem probes_use_up_slots :
    ∃ daemon, Reachable (romWorld plainRom) daemon ∧ activeSlotCount daemon.pads < maxSlots ∧
      ∃ now t frame, rxFrame? t = some frame ∧ frame.QosData daemon.air.ourMac ∧
        daemon.table.findPeerByMac frame.src = none ∧
        ¬(handleTransfer (romWorld plainRom) now t daemon).Owns frame.src := by
  refine ⟨run (Daemon.step (romWorld plainRom)) plainBoot probeSteps,
    ⟨plainBoot, probeSteps, plainBoot_boots, rfl⟩, by decide +kernel, 0,
    gipTransfer plainMac padMac inputPacket (by decide), ?_⟩
  have hmac : (run (Daemon.step (romWorld plainRom)) plainBoot probeSteps).air.ourMac =
      plainMac := by decide +kernel
  have hnew : (run (Daemon.step (romWorld plainRom)) plainBoot probeSteps).table.findPeerByMac
      padMac = none := by decide +kernel
  have hnone : (handleTransfer (romWorld plainRom) 0
      (gipTransfer plainMac padMac inputPacket (by decide))
      (run (Daemon.step (romWorld plainRom)) plainBoot probeSteps)).table.slotOf? padMac = none := by
    decide +kernel
  generalize run (Daemon.step (romWorld plainRom)) plainBoot probeSteps = daemon
    at hmac hnew hnone ⊢
  obtain ⟨frame, hframe, hdata, hsrc, -⟩ :=
    gipTransfer_data plainMac padMac inputPacket (by decide) (by decide)
  refine ⟨frame, hframe, hmac ▸ hdata, hsrc ▸ hnew, ?_⟩
  rw [hsrc]
  intro howns
  obtain ⟨s, hslot, -⟩ := howns
  rw [hnone] at hslot
  cases hslot

end XoneDarwin
