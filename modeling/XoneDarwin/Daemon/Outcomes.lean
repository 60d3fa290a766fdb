import XoneDarwin.Daemon.Handlers
import XoneDarwin.Daemon.Handshake

/-!
# What is noted as sent

The daemon notes that a controller got its start-up commands, and which beacon it
wrote last. Both notes are made behind functions that return nothing, so a
transfer that failed is noted like one that succeeded.
-/

namespace XoneDarwin

open Machine (run Always Emits)

variable (world : World)

/-! ## Outcomes -/

/-- `mt76_mcu_cmd` returned 0 for the transfer. -/
def UsbIo.Accepted : UsbIo → Prop
  | .bulkOut _ _ status => status = .success ∨ status = .timeout
  | _ => False

instance : DecidablePred UsbIo.Accepted
  | .ctrlRead .. => inferInstanceAs (Decidable False)
  | .ctrlWrite .. => inferInstanceAs (Decidable False)
  | .bulkOut _ _ status => inferInstanceAs (Decidable (status = .success ∨ status = .timeout))

/-- The transfers between two states, newest first. -/
def transfersBetween (before after : Daemon) : List UsbIo :=
  after.air.usb.take (after.air.usb.length - before.air.usb.length)

/-- What `set_pairing_beacon` writes. -/
def Air.ownBeacon (air : Air) : Beacon := ⟨air.ourMac, air.ourMac, air.pairingChannel⟩

/-- Between two states only what got through was noted as sent: the start-up commands of
a peer, and the state of the beacon. -/
structure NotesSent (before after : Daemon) : Prop where
  commands : ∀ i, (before.table.peers i).initialCommandsSent = false →
    (after.table.peers i).initialCommandsSent = true →
    ∀ sent ∈ startUp (after.table.peers i).mac,
      ∃ io ∈ transfersBetween before after, io.sent? = some sent ∧ io.Accepted
  beacon : after.air.pairingBeaconEnabled ≠ before.air.pairingBeaconEnabled →
    ∃ io ∈ transfersBetween before after, io.beacon? = some before.air.ownBeacon ∧ io.Accepted

/-- No transfer of a start-up command or of the beacon failed. -/
structure GetsThrough (before after : Daemon) : Prop where
  commands : ∀ io ∈ transfersBetween before after, ∀ mac, ∀ sent ∈ startUp mac,
    io.sent? = some sent → io.Accepted
  beacon : ∀ io ∈ transfersBetween before after, io.beacon? = some before.air.ownBeacon →
    io.Accepted

theorem mt76McuCmd_accepted (dongle : Dongle) (cmd : UInt8) (data : List UInt8) (log : UsbLog) :
    (mt76McuCmd dongle cmd data log).1 = 0 ↔
      (UsbIo.bulkOut epCmd (mcuPacket cmd data)
        (dongle.bulkOut log epCmd (mcuPacket cmd data))).Accepted := by
  simp only [mt76McuCmd, bulkTransfer, UsbIo.Accepted, ← not_or, ne_eq, ite_not]
  by_cases htaken : dongle.bulkOut log epCmd (mcuPacket cmd data) = .success ∨
      dongle.bulkOut log epCmd (mcuPacket cmd data) = .timeout
  · rw [if_pos htaken]
    exact iff_of_true rfl htaken
  · rw [if_neg htaken]
    exact iff_of_false (by decide) htaken

/-- `mt76_write_beacon` returns 0 if the burst write does. -/
theorem mt76WriteBeacon_accepted (dongle : Dongle) (mac : Mac) (pairing : Int) (channel : UInt8)
    (log : UsbLog) :
    (mt76WriteBeacon dongle mac pairing channel log).1 = 0 ↔
      (beaconIo mac channel (dongle.bulkOut log epCmd
        (mcuPacket mcuCmdBurstWrite (beaconPayload mac channel)))).Accepted := by
  refine Iff.trans ?_ (mt76McuCmd_accepted dongle mcuCmdBurstWrite (beaconPayload mac channel) log)
  simp only [mt76WriteBeacon]
  split
  next hfailed => exact iff_of_false (show ¬(-1 : Int) = 0 by decide) hfailed
  next hsent => exact iff_of_true rfl (not_not.mp hsent)

theorem transfersBetween_eq {before after : Daemon} {fresh : List UsbIo}
    (hfresh : after.air.usb = fresh ++ before.air.usb) : transfersBetween before after = fresh := by
  rw [transfersBetween, hfresh, List.length_append, Nat.add_sub_cancel, List.take_left]

/-! ## Start-up commands -/

namespace PeerTable

variable {table : PeerTable}

/-- The announce of a controller that was not greeted calls for the three commands. -/
theorem startUp_due {mac : Mac} {frame : GipFrame} (hannounce : frame.event = .announce)
    (hpad : (padOf? (table.entry mac)).isSome)
    (hfresh : ((table.register mac).peers (table.entry mac)).initialCommandsSent = false) :
    ∀ sent ∈ startUp mac, sent ∈ table.sends (.data mac frame) := by
  intro sent hsent
  obtain ⟨cmd, hcmd, rfl⟩ := mem_startUp.mp hsent
  obtain ⟨s, hs⟩ := Option.isSome_iff_exists.mp hpad
  simp only [PeerTable.sends, hs, PeerTable.greetings, if_pos (And.intro hannounce hfresh)]
  rcases hcmd with rfl | rfl | rfl <;> simp

/-- The flag is set by such an announce alone. -/
theorem WF.step_greeted (hwf : table.WF) (stimulus : Stimulus) {i : Fin maxPeers}
    (hbefore : (table.peers i).initialCommandsSent = false)
    (hafter : ((table.step stimulus).peers i).initialCommandsSent = true) :
    ∀ sent ∈ startUp ((table.step stimulus).peers i).mac, sent ∈ table.sends stimulus := by
  -- the other changes of a step leave the flag as the registration left it
  have hregister (mac : Mac) : ((table.register mac).peers i).initialCommandsSent = false := by
    refine Bool.eq_false_of_not_eq_true fun hgreeted => ?_
    rw [hwf.register_marked Peer.initialCommandsSent (fun _ _ => rfl) mac hgreeted] at hgreeted
    exact Bool.false_ne_true (hbefore.symm.trans hgreeted)
  have hattach (mac : Mac) :
      (((table.register mac).attach (table.entry mac)).peers i).initialCommandsSent =
        ((table.register mac).peers i).initialCommandsSent :=
    attach_keeps Peer.initialCommandsSent (fun _ _ => rfl) _ i
  have hunchanged {after : PeerTable} (mac : Mac) (hsame : (after.peers i).initialCommandsSent =
      ((table.register mac).peers i).initialCommandsSent)
      (hafter : (after.peers i).initialCommandsSent = true) : False :=
    Bool.false_ne_true ((hregister mac).symm.trans (hsame.symm.trans hafter))
  cases stimulus with
  | quiet => exact absurd (hbefore.symm.trans hafter) Bool.false_ne_true
  | lost s => exact absurd (hbefore.symm.trans hafter) Bool.false_ne_true
  | register mac => exact (hunchanged mac rfl hafter).elim
  | associate mac reassoc =>
      simp only [PeerTable.step] at hafter
      split at hafter
      · exact absurd (hbefore.symm.trans hafter) Bool.false_ne_true
      · exact (hunchanged mac (setPeer_keeps Peer.initialCommandsSent (by rfl) i) hafter).elim
  | action mac => exact (hunchanged mac (hattach mac) hafter).elim
  | data mac frame =>
      simp only [PeerTable.step] at hafter ⊢
      split at hafter
      next hgreets =>
        rw [if_pos hgreets]
        by_cases hi : i = table.entry mac
        · have hmac : ((((table.register mac).attach (table.entry mac)).greet
              (table.entry mac)).peers i).mac = mac := by
            rw [(greet_station _ i).2, (attach_station _ i).2, hi]
            exact (hwf.entry_active mac).2
          rw [hmac]
          exact startUp_due hgreets.1 hgreets.2 (hi ▸ hregister mac)
        · rw [PeerTable.greet, setPeer_other hi] at hafter
          exact (hunchanged mac (hattach mac) hafter).elim
      next => exact (hunchanged mac (hattach mac) hafter).elim

end PeerTable

/-! ## The beacon -/

/-- The flag differs only if a beacon was written meanwhile. -/
def Air.Beaconed (before after : Air) : Prop :=
  ∃ fresh, after.usb = fresh ++ before.usb ∧
    (after.pairingBeaconEnabled ≠ before.pairingBeaconEnabled →
      ∃ io ∈ fresh, io.beacon? = some before.ownBeacon)

namespace Air.Beaconed

variable {before middle after : Air}

theorem quiet (hflag : after.pairingBeaconEnabled = before.pairingBeaconEnabled)
    (hsuffix : before.usb <:+ after.usb) : before.Beaconed after := by
  obtain ⟨fresh, hfresh⟩ := hsuffix
  exact ⟨fresh, hfresh.symm, fun hdiffers => absurd hflag hdiffers⟩

theorem trans (hfirst : before.Beaconed middle) (hown : middle.ownBeacon = before.ownBeacon)
    (hsecond : middle.Beaconed after) : before.Beaconed after := by
  obtain ⟨older, holder, hearly⟩ := hfirst
  obtain ⟨newer, hnewer, hlate⟩ := hsecond
  refine ⟨newer ++ older, by rw [hnewer, holder, List.append_assoc], fun hdiffers => ?_⟩
  by_cases hmiddle : middle.pairingBeaconEnabled = before.pairingBeaconEnabled
  · rw [← hmiddle] at hdiffers
    obtain ⟨io, hio, hbeacon⟩ := hlate hdiffers
    exact ⟨io, List.mem_append_left older hio, hown ▸ hbeacon⟩
  · obtain ⟨io, hio, hbeacon⟩ := hearly hmiddle
    exact ⟨io, List.mem_append_right newer hio, hbeacon⟩

end Air.Beaconed

theorem setPairingBeacon_beaconed (enabled : Bool) (air : Air) :
    (setPairingBeacon world enabled air).ownBeacon = air.ownBeacon ∧
      air.Beaconed (setPairingBeacon world enabled air) := by
  unfold setPairingBeacon
  split
  · exact ⟨rfl, .quiet rfl (List.suffix_refl _)⟩
  · obtain ⟨status, fresh, hlog, -⟩ := mt76WriteBeacon_log world.dongle air.ourMac
      (if enabled then 1 else 0) air.pairingChannel air.usb
    refine ⟨rfl, fresh ++ [beaconIo air.ourMac air.pairingChannel status], ?_, fun _ => ?_⟩
    · rw [List.append_assoc]
      exact hlog
    · exact ⟨_, List.mem_append_right fresh List.mem_cons_self, beaconIo_beacon _ _ _⟩

theorem wlanSendGip_quiet (peer : Peer) (gip : List UInt8) (air : Air) :
    (wlanSendGip world peer gip air).ownBeacon = air.ownBeacon ∧
      air.Beaconed (wlanSendGip world peer gip air) := by
  unfold wlanSendGip
  split
  · exact ⟨rfl, .quiet rfl (List.suffix_refl _)⟩
  · dsimp only
    split
    · exact ⟨rfl, .quiet rfl (List.suffix_refl _)⟩
    · exact ⟨rfl, .quiet rfl (List.suffix_cons _ _)⟩

theorem Air.Call.beaconed {world : World} {air after : Air} (hcall : air.Call world after) :
    after.ownBeacon = air.ownBeacon ∧ air.Beaconed after := by
  cases hcall with
  | transmit frame wcid =>
      refine ⟨rfl, .quiet rfl ?_⟩
      unfold XoneDarwin.transmit mt76WlanTx
      dsimp only
      split
      · exact List.suffix_refl _
      · exact List.suffix_cons _ _
  | gip peer gip => exact wlanSendGip_quiet world peer gip air
  | sequence => exact ⟨rfl, .quiet rfl (List.suffix_refl _)⟩
  | beacon enabled => exact setPairingBeacon_beaconed world enabled air
  | lock now =>
      have hsends := lockPairingChannel_sends air now
      refine ⟨?_, .quiet ?_ hsends.emits.suffix⟩
      · rw [Air.ownBeacon, hsends.ourMac, hsends.pairingChannel]
        rfl
      · unfold lockPairingChannel
        rfl
  | awdl now =>
      unfold logAwdlIgnored
      split <;> exact ⟨rfl, .quiet rfl (List.suffix_refl _)⟩
  | client wcid =>
      exact ⟨rfl, .quiet rfl (mt76FwClientAdd_housework world.dongle wcid air.usb).suffix⟩

theorem beaconed_pieces (start : Air) :
    Pieces world fun daemon =>
      daemon.air.ownBeacon = start.ownBeacon ∧ start.Beaconed daemon.air where
  remember := by
    intro mac daemon hdaemon
    obtain ⟨hown, hbeaconed⟩ := hdaemon
    exact ⟨hown, hbeaconed.trans hown (.quiet rfl (rememberPeer_emits world mac daemon).suffix)⟩
  air := by
    intro daemon air hcall hdaemon
    obtain ⟨hown, hbeaconed⟩ := hdaemon
    exact ⟨hcall.beaconed.1.trans hown, hbeaconed.trans hown hcall.beaconed.2⟩
  pads := fun _ hdaemon => hdaemon
  peer := fun _ _ _ _ hdaemon => hdaemon

theorem pairingCheck_beaconed (active : Nat) (now scanNow : UInt64) (air : Air) :
    air.Beaconed (pairingCheck world active now scanNow air) := by
  obtain ⟨hown, henabled⟩ := setPairingBeacon_beaconed world true air
  by_cases hactive : active = 0
  · rw [hactive, pairingCheck_idle]
    split
    · exact henabled
    · split
      · exact henabled.trans hown (.quiet rfl (scan_encoded world scanNow _).suffix)
      · exact henabled
  · simp only [pairingCheck, if_neg hactive]
    split
    · exact (setPairingBeacon_beaconed world _ air).2
    · exact .quiet rfl (List.suffix_refl _)

theorem step_beaconed (daemon : Daemon) (step : Step) :
    daemon.air.Beaconed (daemon.step world step).air := by
  cases step with
  | housekeeping now scanNow => exact pairingCheck_beaconed world _ now scanNow daemon.air
  | transfer now t =>
      have hstart : daemon.air.Beaconed daemon.air := .quiet rfl (List.suffix_refl _)
      exact ((beaconed_pieces world daemon.air).handleTransfer now t ⟨rfl, hstart⟩).2

/-! ## Runs -/

/-- A step changes the table, and sends, as some stimulus says. -/
theorem step_answers {daemon : Daemon} (hwf : daemon.table.WF) (step : Step) :
    ∃ stimulus, (daemon.step world step).table = daemon.table.step stimulus ∧
      (daemon.step world step).air.sent = daemon.table.sends stimulus ++ daemon.air.sent := by
  cases step with
  | housekeeping now scanNow =>
      exact ⟨.quiet, rfl, pairingCheck_sent world _ now scanNow daemon.air⟩
  | transfer now t =>
      have hanswers := handleTransfer_answers world now t hwf
      exact ⟨_, hanswers.table, hanswers.air.sent⟩

theorem notesSent_of_getsThrough {daemon : Daemon} (hwf : daemon.table.WF) {step : Step}
    (hthrough : GetsThrough daemon (daemon.step world step)) :
    NotesSent daemon (daemon.step world step) := by
  obtain ⟨fresh, hfresh, hflag⟩ := step_beaconed world daemon step
  obtain ⟨hcommands, hbeacon⟩ := hthrough
  constructor
  · intro i hbefore hafter sent hsent
    obtain ⟨stimulus, htable, hsends⟩ := step_answers world hwf step
    rw [htable] at hafter hsent
    have hdue := hwf.step_greeted stimulus hbefore hafter sent hsent
    have hlog : fresh.filterMap UsbIo.sent? = daemon.table.sends stimulus := by
      rw [Air.sent, hfresh, List.filterMap_append] at hsends
      exact List.append_cancel_right hsends
    rw [← hlog] at hdue
    obtain ⟨io, hio, hread⟩ := List.mem_filterMap.mp hdue
    rw [transfersBetween_eq hfresh] at hcommands ⊢
    exact ⟨io, hio, hread, hcommands io hio _ sent hsent hread⟩
  · intro hdiffers
    obtain ⟨io, hio, hread⟩ := hflag hdiffers
    rw [transfersBetween_eq hfresh] at hbeacon ⊢
    exact ⟨io, hio, hread, hbeacon io hio hread⟩

/-- In a run in which no start-up command and no beacon fails, what is noted was sent. -/
theorem noted_as_sent {boot : Daemon} (hboot : Boots world boot) {steps : List Step}
    (hthrough : Always (Daemon.step world)
      (fun daemon step => GetsThrough daemon (daemon.step world step)) boot steps) :
    Always (Daemon.step world)
      (fun daemon step => NotesSent daemon (daemon.step world step)) boot steps := by
  intro before step after hsplit
  have hwf := Machine.run_invariant (fun daemon : Daemon => daemon.table.WF)
    (fun _ step hwf => step_wf world hwf step) (boots_wf world hboot) before
  exact notesSent_of_getsThrough world hwf (hthrough before step after hsplit)

/-- A controller announces itself. -/
theorem noted_as_sent_announced :
    Always (Daemon.step (romWorld plainRom))
      (fun daemon step => NotesSent daemon (daemon.step (romWorld plainRom) step))
      plainBoot [announceStep] := by
  have htaken : ∀ io ∈ transfersBetween plainBoot
      (plainBoot.step (romWorld plainRom) announceStep),
      io.sent? = none ∧ io.beacon? = none ∨ io.Accepted := by decide +kernel
  refine noted_as_sent (romWorld plainRom) plainBoot_boots (Machine.always_one.mpr ⟨?_, ?_⟩)
  · intro io hio mac sent _ hread
    refine (htaken io hio).resolve_left fun hneither => ?_
    rw [hneither.1] at hread
    cases hread
  · intro io hio hread
    refine (htaken io hio).resolve_left fun hneither => ?_
    rw [hneither.2] at hread
    cases hread

/-- The adapter gets through start-up, which takes 152 transfers, and no packet after it. -/
def deafWorld : World :=
  { romWorld plainRom with
    dongle := { romDongle plainRom with
      bulkOut := fun log _ _ => if log.length < 152 then .success else .io } }

def deafBoot : Daemon := bootOf deafWorld (by decide +kernel)

/-- The same announce there: everything fails, and both notes are made. -/
theorem failed_noted_as_sent :
    Boots deafWorld deafBoot ∧
      ((deafBoot.step deafWorld announceStep).table.peers 1).initialCommandsSent = true ∧
      (deafBoot.step deafWorld announceStep).air.pairingBeaconEnabled ≠
        deafBoot.air.pairingBeaconEnabled ∧
      (∀ io ∈ transfersBetween deafBoot (deafBoot.step deafWorld announceStep), ¬io.Accepted) ∧
      ¬Always (Daemon.step deafWorld)
        (fun daemon step => NotesSent daemon (daemon.step deafWorld step))
        deafBoot [announceStep] := by
  have hbefore : (deafBoot.table.peers 1).initialCommandsSent = false := by decide +kernel
  have hafter : ((deafBoot.step deafWorld announceStep).table.peers 1).initialCommandsSent =
      true := by decide +kernel
  have hnone : ∀ io ∈ transfersBetween deafBoot (deafBoot.step deafWorld announceStep),
      ¬io.Accepted := by decide +kernel
  refine ⟨bootOf_boots _ _, hafter, by decide +kernel, hnone, fun halways => ?_⟩
  obtain ⟨io, hio, -, haccepted⟩ := (Machine.always_one.mp halways).commands 1 hbefore hafter _
    List.mem_cons_self
  exact hnone io hio haccepted

end XoneDarwin
