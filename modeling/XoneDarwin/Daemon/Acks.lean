import XoneDarwin.Daemon.Packets

/-!
# Acknowledgements

`dispatch_wlan_gip` acknowledges every packet whose type nibble asks for it. The
switch `XBOX_WLAN_ACK` is read and printed, and nothing else: with acknowledgements
off the daemon sends the same ones.
-/

namespace XoneDarwin

open Machine (run Always)

variable (world : World)

/-! ## What is asked for -/

/-- The slot `on_xbox_data` maps a sender to. -/
def Daemon.slotFor (mac : Mac) (daemon : Daemon) : UInt8 :=
  match findOrRemember world mac daemon with
  | (some i, found) => (found.table.peerSlot i).1
  | (none, _) => noSlot

/-- The header of the GIP packet in a data frame. -/
def RxFrame.gipHead (frame : RxFrame) : GipHeader := gipHeader (frame.pl.drop 4)

/-- The step delivers a data frame that gets to `dispatch_wlan_gip` with at least four bytes of
GIP, and its type nibble has the ACK bit. -/
def Step.WantsAck (daemon : Daemon) (frame : RxFrame) (step : Step) : Prop :=
  step.data? daemon.air.ourMac = some frame ∧ frame.payloadLen ≥ 8 ∧
    daemon.slotFor world frame.src < 8 ∧ frame.gipHead.frameType &&& gipTypeAck ≠ 0

/-- The ACKNOWLEDGE frames sent between two states, oldest first. -/
def acksBetween (before after : Daemon) : List GipTx :=
  (after.air.packets.take (after.air.packets.length - before.air.packets.length)).reverse.filter
    fun tx => tx.command = gipCmdAcknowledge

/-- The acknowledgement of a frame: to its sender, with the header it had, and not itself to be
acknowledged. -/
structure GipTx.Acknowledges (daemon : Daemon) (frame : RxFrame) (tx : GipTx) : Prop where
  dst : tx.dst = frame.src
  index : tx.index + 1 = daemon.table.entry frame.src
  sequence : tx.sequence = frame.gipHead.sequence
  command : byteAt tx.payload 1 = frame.gipHead.command
  deviceId : tx.deviceId = frame.gipHead.deviceId
  length : byteAt tx.payload 3 = frame.gipHead.length
  noAck : tx.frameType &&& gipTypeAck = 0

/-- A step sends exactly the acknowledgement that is asked for, and only if the switch is on. -/
def AckDue (daemon : Daemon) (step : Step) : Prop :=
  (∀ frame, step.WantsAck world daemon frame → world.env.wlanAckEnabled = true →
    ∃ tx, acksBetween daemon (daemon.step world step) = [tx] ∧ tx.Acknowledges daemon frame) ∧
  ((¬∃ frame, step.WantsAck world daemon frame ∧ world.env.wlanAckEnabled = true) →
    acksBetween daemon (daemon.step world step) = [])

/-- With the switch off none was ever sent. -/
def AcksOff (daemon : Daemon) : Prop :=
  world.env.wlanAckEnabled = false → ∀ tx ∈ daemon.air.packets, tx.command ≠ gipCmdAcknowledge

/-! ## What is sent -/

section

variable {daemon : Daemon} (hwf : daemon.table.WF)

include hwf

theorem slotFor_lt_iff (mac : Mac) :
    daemon.slotFor world mac < 8 ↔ (padOf? (daemon.table.entry mac)).isSome := by
  have hfound : (rememberPeer world mac daemon).1 = some (daemon.table.entry mac) :=
    (hwf.entry_found mac).1
  have hpair : findOrRemember world mac daemon =
      (some (daemon.table.entry mac), (rememberPeer world mac daemon).2) := by
    rw [findOrRemember_eq, ← hfound]
  simp only [Daemon.slotFor, hpair]
  cases hpad : padOf? (daemon.table.entry mac) with
  | none =>
      rw [rememberPeer_padless world hwf hpad]
      exact iff_of_false (by decide : ¬noSlot < 8) Bool.false_ne_true
  | some s =>
      rw [rememberPeer_padded world hwf hpad]
      exact iff_of_true (UInt8.not_le.mp (ofNat_slot_lt s)) rfl

omit hwf in
theorem RxFrame.ack_iff (frame : RxFrame) :
    frame.gip.ack = true ↔
      frame.payloadLen ≥ 8 ∧ frame.gipHead.frameType &&& gipTypeAck ≠ 0 := by
  simp only [RxFrame.gip, readGip, RxFrame.gipHead]
  split
  next hshort => exact iff_of_false Bool.false_ne_true fun hboth => by omega
  next hlong =>
    rw [decide_eq_true_eq]
    exact ⟨fun hack => ⟨by omega, hack⟩, fun hboth => hboth.2⟩

/-- The acknowledgement `send_wlan_gip_ack` builds. -/
theorem ackTx_acknowledges (frame : RxFrame) :
    (ackTx (daemon.peerOf frame.src) daemon.air.ourMac frame.gipHead).Acknowledges daemon frame where
  dst := (hwf.entry_active frame.src).2
  index := by
    have hwcid := peerOf_wcid hwf frame.src
    change (UInt32.ofInt _).toNat + 1 = _
    rw [peerOf_index hwf]
    omega
  sequence := rfl
  command := rfl
  deviceId := by
    change gipFlags gipTypeRequest frame.gipHead.deviceId &&& 0x0f = frame.gipHead.deviceId
    rw [(gipFlags_nibbles _ _).1, GipHeader.deviceId, UInt8.and_assoc, UInt8.and_self]
  length := rfl
  noAck := by
    change (gipFlags gipTypeRequest frame.gipHead.deviceId >>> 4) &&& 0x0f &&& gipTypeAck = 0
    rw [(gipFlags_nibbles _ _).2]
    decide

omit hwf in
/-- The fresh packets of a step, and which of them acknowledge. -/
theorem acksBetween_fresh {before after : Daemon} {commands acks : List GipTx}
    (hpackets : after.air.packets = commands ++ acks ++ before.air.packets)
    (hcommands : ∀ tx ∈ commands, tx.command ≠ gipCmdAcknowledge)
    (hacks : ∀ tx ∈ acks, tx.command = gipCmdAcknowledge) :
    acksBetween before after = acks.reverse := by
  rw [acksBetween, hpackets, List.length_append, Nat.add_sub_cancel, List.take_left,
    List.reverse_append, List.filter_append]
  have hnone : commands.reverse.filter (fun tx => tx.command = gipCmdAcknowledge) = [] := by
    rw [List.filter_eq_nil_iff]
    intro tx htx
    simpa using hcommands tx (List.mem_reverse.mp htx)
  have hall : acks.reverse.filter (fun tx => tx.command = gipCmdAcknowledge) = acks.reverse := by
    rw [List.filter_eq_self]
    intro tx htx
    simpa using hacks tx (List.mem_reverse.mp htx)
  rw [hnone, hall, List.append_nil]

/-- A step sends the acknowledgement its frame wants, whatever the switch says. -/
theorem step_acks (step : Step) :
    (∀ frame, step.WantsAck world daemon frame →
      acksBetween daemon (daemon.step world step) =
        [ackTx (daemon.peerOf frame.src) daemon.air.ourMac frame.gipHead]) ∧
    ((∀ frame, ¬step.WantsAck world daemon frame) →
      acksBetween daemon (daemon.step world step) = []) := by
  constructor
  · intro frame hwants
    obtain ⟨hdelivers, hlong, hslot, hbit⟩ := hwants
    obtain ⟨s, hpad⟩ := Option.isSome_iff_exists.mp ((slotFor_lt_iff world hwf frame.src).mp hslot)
    obtain ⟨commands, hcommands, -, hpackets⟩ := data_packets world hwf hdelivers hpad
    rw [if_pos (frame.ack_iff.mpr ⟨hlong, hbit⟩)] at hpackets
    refine acksBetween_fresh hpackets (fun tx htx => (hcommands tx htx).command) ?_
    intro tx htx
    rw [List.mem_singleton.mp htx]
    rfl
  · intro hnone
    rcases slotted_or_quiet world hwf step with ⟨frame, s, hdelivers, hpad⟩ | hquiet
    · have hack : ¬frame.gip.ack = true := by
        intro hack
        obtain ⟨hlong, hbit⟩ := frame.ack_iff.mp hack
        have hslot := (slotFor_lt_iff world hwf frame.src).mpr (Option.isSome_of_eq_some hpad)
        exact hnone frame ⟨hdelivers, hlong, hslot, hbit⟩
      obtain ⟨commands, hcommands, -, hpackets⟩ := data_packets world hwf hdelivers hpad
      rw [if_neg hack] at hpackets
      exact acksBetween_fresh hpackets (fun tx htx => (hcommands tx htx).command)
        fun _ htx => absurd htx List.not_mem_nil
    · have hpackets : (daemon.step world step).air.packets = [] ++ [] ++ daemon.air.packets :=
        hquiet
      exact acksBetween_fresh hpackets (by simp) (by simp)

/-- So a step is right if the switch is on or nothing is asked for. -/
theorem ackDue_iff (step : Step) :
    AckDue world daemon step ↔
      world.env.wlanAckEnabled = true ∨ ∀ frame, ¬step.WantsAck world daemon frame := by
  obtain ⟨hwanted, hunwanted⟩ := step_acks world hwf step
  constructor
  · intro hdue
    refine or_iff_not_imp_left.mpr fun hoff frame hwants => ?_
    have hnone := hdue.2 fun hasked => hoff hasked.choose_spec.2
    rw [hwanted frame hwants] at hnone
    cases hnone
  · intro hcondition
    refine ⟨fun frame hwants _ => ⟨_, hwanted frame hwants, ackTx_acknowledges hwf frame⟩, ?_⟩
    intro hnot
    apply hunwanted
    rcases hcondition with hon | hnone
    · exact fun frame hwants => hnot ⟨frame, hwants, hon⟩
    · exact hnone

/-! ## Runs -/

/-- With the switch off a step that is right sends no acknowledgement. -/
theorem acksOff_step {step : Step} (hoff : AcksOff world daemon) (hdue : AckDue world daemon step) :
    AcksOff world (daemon.step world step) := by
  intro hdisabled
  obtain ⟨fresh, hfresh⟩ := (step_encoded world hwf step).suffix
  have hpackets := Air.packets_extend hfresh
  have hnone : acksBetween daemon (daemon.step world step) = [] :=
    hdue.2 fun hasked => absurd (hdisabled.symm.trans hasked.choose_spec.2) Bool.false_ne_true
  rw [acksBetween, hpackets, List.length_append, Nat.add_sub_cancel, List.take_left,
    List.filter_eq_nil_iff] at hnone
  intro tx htx
  rw [hpackets] at htx
  rcases List.mem_append.mp htx with hnew | hold
  · simpa using hnone tx (List.mem_reverse.mpr hnew)
  · exact hoff hdisabled tx hold

end

/-- Frames are acknowledged as they ask and as the switch allows, throughout a run, if and only
if the switch is on or no frame of the run asks. -/
theorem ack_discipline_iff {boot : Daemon} (hboot : Boots world boot) (steps : List Step) :
    Always (Daemon.step world) (AckDue world) boot steps ∧
        AcksOff world (run (Daemon.step world) boot steps) ↔
      world.env.wlanAckEnabled = true ∨
        Always (Daemon.step world) (fun daemon step => ∀ frame, ¬step.WantsAck world daemon frame)
          boot steps := by
  have hdue : Always (Daemon.step world) (AckDue world) boot steps ↔
      Always (Daemon.step world) (fun daemon step => world.env.wlanAckEnabled = true ∨
        ∀ frame, ¬step.WantsAck world daemon frame) boot steps :=
    Machine.always_congr (fun daemon : Daemon => daemon.table.WF)
      (fun _ step hwf => step_wf world hwf step) (fun _ step hwf => ackDue_iff world hwf step)
      (boots_wf world hboot) steps
  have hstart : AcksOff world boot := by
    intro _ tx htx
    rw [packets_nil (boots_sent world hboot)] at htx
    cases htx
  have hoff (halways : Always (Daemon.step world) (AckDue world) boot steps) :
      AcksOff world (run (Daemon.step world) boot steps) := by
    refine (Machine.run_invariant_of_always
      (fun daemon : Daemon => daemon.table.WF ∧ AcksOff world daemon) ?_
      ⟨boots_wf world hboot, hstart⟩ halways).2
    intro daemon step hinv hdue
    exact ⟨step_wf world hinv.1 step, acksOff_step world hinv.1 hinv.2 hdue⟩
  rw [and_iff_left_of_imp hoff, hdue]
  by_cases hon : world.env.wlanAckEnabled = true
  · exact iff_of_true (fun _ _ _ _ => Or.inl hon) (Or.inl hon)
  · simp only [hon, Bool.false_eq_true, false_or]

/-- A packet of an unknown command that asks for an acknowledgement. -/
def askingStep : Step := packetStep [0x1f, 0x30, 0x01, 0x00] (by decide)

theorem ack_discipline_iff_asking :
    Always (Daemon.step (romWorld plainRom)) (AckDue (romWorld plainRom)) plainBoot [askingStep] ∧
        AcksOff (romWorld plainRom) (run (Daemon.step (romWorld plainRom)) plainBoot [askingStep]) ↔
      (romWorld plainRom).env.wlanAckEnabled = true ∨
        Always (Daemon.step (romWorld plainRom))
          (fun daemon step => ∀ frame, ¬step.WantsAck (romWorld plainRom) daemon frame)
          plainBoot [askingStep] :=
  ack_discipline_iff (romWorld plainRom) plainBoot_boots [askingStep]

/-- The switch is off, and the packet is acknowledged. -/
theorem asking_acknowledged :
    (romWorld plainRom).env.wlanAckEnabled = false ∧
      ¬(Always (Daemon.step (romWorld plainRom)) (AckDue (romWorld plainRom)) plainBoot
          [askingStep] ∧
        AcksOff (romWorld plainRom)
          (run (Daemon.step (romWorld plainRom)) plainBoot [askingStep])) := by
  refine ⟨rfl, fun hboth => ?_⟩
  have hsent : ∃ tx ∈ (run (Daemon.step (romWorld plainRom)) plainBoot [askingStep]).air.packets,
      tx.command = gipCmdAcknowledge := by decide +kernel
  obtain ⟨tx, htx, hack⟩ := hsent
  exact hboth.2 rfl tx htx hack

end XoneDarwin
