import XoneDarwin.Daemon.Frames

/-!
# The channel lock and the pairing flag

The two controls of pairing on the radio side, and what each handler does to them:
requests set the lock, nothing else does; the flag is set where a beacon is
switched.
-/

namespace XoneDarwin

/-- Neither control differs. -/
structure Air.SameControls (before after : Air) : Prop where
  lock : after.channelLockUntilMs = before.channelLockUntilMs
  flag : after.pairingBeaconEnabled = before.pairingBeaconEnabled

namespace Air.SameControls

theorem refl (air : Air) : Air.SameControls air air := ⟨rfl, rfl⟩

theorem trans {before middle after : Air} (hfirst : Air.SameControls before middle)
    (hsecond : Air.SameControls middle after) : Air.SameControls before after :=
  ⟨hsecond.lock.trans hfirst.lock, hsecond.flag.trans hfirst.flag⟩

end Air.SameControls

variable (world : World)

/-! ## Transmissions leave both alone -/

section

variable (air : Air)

theorem transmit_controls (frame : List UInt8) (wcid : UInt8) :
    air.SameControls (transmit world frame wcid air) := ⟨rfl, rfl⟩

theorem sendWlanGipFrame_controls (peer : Peer) (cmd deviceId type seq : UInt8)
    (payload : List UInt8) (payloadLen : UInt8) :
    air.SameControls (sendWlanGipFrame world peer cmd deviceId type seq payload payloadLen air) := by
  simp only [sendWlanGipFrame]
  split
  · exact Air.SameControls.refl air
  next gip _ =>
    unfold wlanSendGip
    split
    · exact Air.SameControls.refl air
    · dsimp only
      split <;> exact ⟨rfl, rfl⟩

theorem sendWlanCommand_controls (peer : Peer) (cmd type : UInt8) (payload : List UInt8) :
    air.SameControls (sendWlanCommand world peer cmd type payload air) := by
  have hsequence : air.SameControls (gipNextSequence air).2 := ⟨rfl, rfl⟩
  exact hsequence.trans (sendWlanGipFrame_controls world _ peer cmd 0 type _ payload _)

theorem sendWlanGipAck_controls (peer : Peer) (rxCmd rxDevice rxSeq rxLen : UInt8) :
    air.SameControls (sendWlanGipAck world peer rxCmd rxDevice rxSeq rxLen air) := by
  unfold sendWlanGipAck
  split
  · exact Air.SameControls.refl air
  · exact sendWlanGipFrame_controls world air peer _ _ _ _ _ _

/-- Switching the beacon sets the flag and not the lock. -/
theorem setPairingBeacon_controls (enabled : Bool) :
    (setPairingBeacon world enabled air).channelLockUntilMs = air.channelLockUntilMs ∧
      (setPairingBeacon world enabled air).pairingBeaconEnabled = enabled := by
  unfold setPairingBeacon
  split
  next hsame => exact ⟨rfl, hsame⟩
  next => exact ⟨rfl, rfl⟩

end

variable (daemon : Daemon)

theorem rememberPeer_controls (mac : Mac) :
    daemon.air.SameControls (rememberPeer world mac daemon).2.air := ⟨rfl, rfl⟩

theorem addFwClient_controls (remembered : Option (Fin maxPeers)) :
    daemon.air.SameControls (addFwClient world remembered daemon).air := by
  unfold addFwClient
  split
  · exact Air.SameControls.refl _
  · dsimp only
    split <;> exact ⟨rfl, rfl⟩

theorem dispatchAck_controls (i : Fin maxPeers) (h : GipHeader) :
    daemon.air.SameControls (dispatchAck world i h daemon).air := by
  unfold dispatchAck
  split
  · exact sendWlanGipAck_controls world daemon.air _ _ _ _ _
  · exact Air.SameControls.refl _

theorem sendInitialCommands_controls (i : Fin maxPeers) :
    daemon.air.SameControls (sendInitialCommands world i daemon).air := by
  simp only [sendInitialCommands]
  split
  · exact Air.SameControls.refl _
  · have hpower := sendWlanCommand_controls world daemon.air (daemon.table.peers i) gipCmdPower
      gipTypeRequest [0x00]
    have hled := sendWlanCommand_controls world
      (sendWlanPowerOn world (daemon.table.peers i) daemon.air) (daemon.table.peers i) gipCmdLed
      gipTypeRequest [0x00, 0x01, 0x14]
    exact (hpower.trans hled).trans (sendWlanCommand_controls world _ _ _ _ _)

theorem dispatchWlanGip_controls (i : Fin maxPeers) (slot : UInt8) (gip : List UInt8)
    (gipLen : Int) :
    daemon.air.SameControls (dispatchWlanGip world i slot gip gipLen daemon).air := by
  have hack := dispatchAck_controls world daemon i (gipHeader gip)
  simp only [dispatchWlanGip]
  split
  · exact Air.SameControls.refl _
  generalize dispatchAck world i (gipHeader gip) daemon = acked at hack ⊢
  split
  · exact hack
  split
  · exact hack
  split
  · split
    · exact hack.trans (sendInitialCommands_controls world acked i)
    · exact hack
  split
  · exact hack
  split
  · exact hack
  split
  · split <;> exact hack
  · exact hack

/-! ## Handlers -/

/-- A first contact in single-pair mode turns pairing off. -/
theorem establishDataPath_controls (i : Fin maxPeers) (slot : UInt8) :
    (establishDataPath world i slot daemon).air.channelLockUntilMs =
        daemon.air.channelLockUntilMs ∧
      (world.env.multiPairMode = false →
        (establishDataPath world i slot daemon).air.pairingBeaconEnabled =
          if (daemon.table.peers i).handshakeDone then daemon.air.pairingBeaconEnabled
          else false) := by
  simp only [establishDataPath]
  cases (daemon.table.peers i).handshakeDone with
  | true => exact ⟨rfl, fun _ => rfl⟩
  | false =>
      have hbeacon (enabled : Bool) := setPairingBeacon_controls world daemon.air enabled
      simp only [beaconAfterConnect, Bool.false_eq_true, if_false]
      constructor
      · split
        · exact (hbeacon _).1
        · exact (hbeacon _).1
      · intro hsingle
        simp only [hsingle, Bool.false_eq_true, if_false]
        exact (hbeacon false).2

/-- The sender has a slot and no contact was made with it before. -/
def Daemon.FirstContact (daemon : Daemon) (mac : Mac) : Prop :=
  (padOf? (daemon.table.entry mac)).isSome ∧
    ((daemon.table.register mac).peers (daemon.table.entry mac)).handshakeDone = false

instance (mac : Mac) : Decidable (daemon.FirstContact mac) :=
  inferInstanceAs (Decidable (_ ∧ _))

theorem onXboxData_controls (hwf : daemon.table.WF) (src : Mac) (rxWcid : UInt8)
    (payload : List UInt8) {plen : Int} (hplen : ¬plen ≤ 4) :
    (onXboxData world src rxWcid payload plen daemon).air.channelLockUntilMs =
        daemon.air.channelLockUntilMs ∧
      (world.env.multiPairMode = false →
        (onXboxData world src rxWcid payload plen daemon).air.pairingBeaconEnabled =
          if daemon.FirstContact src then false else daemon.air.pairingBeaconEnabled) := by
  have hfound : (rememberPeer world src daemon).1 = some (daemon.table.entry src) :=
    (hwf.entry_found src).1
  have hregistered := rememberPeer_controls world daemon src
  simp only [onXboxData, if_neg hplen, findOrRemember_eq, hfound]
  cases hpad : padOf? (daemon.table.entry src) with
  | none =>
      have hno : noSlot ≥ 8 := by decide
      have hnever : ¬daemon.FirstContact src := by
        intro hfirst
        rw [Daemon.FirstContact, hpad] at hfirst
        exact Bool.false_ne_true hfirst.1
      simp only [rememberPeer_padless world hwf hpad, if_pos hno, if_neg hnever]
      exact ⟨hregistered.lock, fun _ => hregistered.flag⟩
  | some s =>
      -- the flag is cleared where the handshake is noted as done, and only there
      have hcontact : daemon.FirstContact src ↔
          ((daemon.table.register src).peers (daemon.table.entry src)).handshakeDone = false := by
        rw [Daemon.FirstContact, hpad]
        exact and_iff_right rfl
      simp only [rememberPeer_padded world hwf hpad, if_neg (ofNat_slot_lt s)]
      obtain ⟨hlock, hflag⟩ := establishDataPath_controls world (mapped world src s daemon)
        (daemon.table.entry src) (UInt8.ofNat s)
      rw [mapped_handshake] at hflag
      have hmapped : mapped world src s daemon = { (rememberPeer world src daemon).2 with
          table := (mapped world src s daemon).table } := rfl
      rw [hmapped] at hlock hflag
      generalize establishDataPath world (daemon.table.entry src) (UInt8.ofNat s) _ = established
        at hlock hflag ⊢
      have hdispatched := dispatchWlanGip_controls world established (daemon.table.entry src)
        (UInt8.ofNat s) (payload.drop 4) (plen - 4)
      refine ⟨(hdispatched.lock.trans hlock).trans hregistered.lock, fun hsingle => ?_⟩
      rw [hdispatched.flag, hflag hsingle]
      simp only [hcontact]
      cases ((daemon.table.register src).peers (daemon.table.entry src)).handshakeDone with
      | true => exact hregistered.flag
      | false => rfl

theorem onXboxAction_controls (src : Mac) (plen : Int) :
    daemon.air.SameControls (onXboxAction world src plen daemon).air := by
  have hregistered := rememberPeer_controls world daemon src
  simp only [onXboxAction]
  split
  · exact Air.SameControls.refl _
  generalize rememberPeer world src daemon = found at hregistered ⊢
  cases found.1 with
  | none => exact hregistered
  | some i =>
      dsimp only
      split
      · exact hregistered
      split
      · exact hregistered
      · exact hregistered.trans (transmit_controls world found.2.air _ _)

/-- The first stage of the pairing exchange. -/
def RxFrame.PairStage1 (frame : RxFrame) : Prop :=
  frame.payloadLen ≥ 2 ∧ byteAt frame.pl 0 = 0x70 ∧ byteAt frame.pl 1 = 0x01

instance (frame : RxFrame) : Decidable frame.PairStage1 :=
  inferInstanceAs (Decidable (_ ∧ _))

section

variable (now : UInt64) (frame : RxFrame)

/-- A locked channel and the flag it was locked with. -/
def Air.LockedAt (before after : Air) : Prop :=
  after.channelLockUntilMs = now + 5000 ∧
    after.pairingBeaconEnabled = before.pairingBeaconEnabled

theorem lockPairingChannel_lockedAt (air : Air) :
    air.LockedAt now (lockPairingChannel now air) := by
  unfold lockPairingChannel
  exact ⟨rfl, rfl⟩

theorem Air.LockedAt.then {before middle after : Air} (hlocked : before.LockedAt now middle)
    (hsame : Air.SameControls middle after) : before.LockedAt now after :=
  ⟨hsame.lock.trans hlocked.1, hsame.flag.trans hlocked.2⟩

/-- The daemon with the channel locked. -/
def Daemon.locked (daemon : Daemon) : Daemon :=
  { daemon with air := lockPairingChannel now daemon.air }

theorem handleProbe_controls :
    daemon.air.LockedAt now (handleProbe world now frame daemon).air := by
  refine (lockPairingChannel_lockedAt now daemon.air).then now ?_
  simp only [handleProbe]
  split
  · exact (rememberPeer_controls world (daemon.locked now) frame.src).trans
      (transmit_controls world _ _ _)
  · exact Air.SameControls.refl _

theorem handleAuth_controls :
    daemon.air.LockedAt now (handleAuth world now frame daemon).air := by
  refine (lockPairingChannel_lockedAt now daemon.air).then now ?_
  simp only [handleAuth, sendAuthResponse]
  split
  · exact transmit_controls world _ _ _
  · exact (rememberPeer_controls world (daemon.locked now) frame.src).trans
      (transmit_controls world _ _ _)

theorem handleAssoc_controls (reassoc : Bool) :
    daemon.air.LockedAt now (handleAssoc world now frame reassoc daemon).air := by
  have hcommon (reassoc : Bool) (ourMac : Mac) (daemon : Daemon) :
      daemon.air.SameControls
        (sendAssocResponseCommon world frame.src ourMac reassoc daemon).air :=
    ((rememberPeer_controls world daemon frame.src).trans (addFwClient_controls world _ _)).trans
      (transmit_controls world _ _ _)
  refine (lockPairingChannel_lockedAt now daemon.air).then now ?_
  simp only [handleAssoc]
  split
  · exact Air.SameControls.refl _
  split
  · exact hcommon true _ (daemon.locked now)
  · exact hcommon false _ (daemon.locked now)

/-- The first pairing stage in single-pair mode turns pairing off. -/
theorem handlePair_controls :
    (handlePair world now frame daemon).air.channelLockUntilMs = now + 5000 ∧
      (world.env.multiPairMode = false →
        (handlePair world now frame daemon).air.pairingBeaconEnabled =
          if frame.PairStage1 then false else daemon.air.pairingBeaconEnabled) := by
  obtain ⟨hlock, hflag⟩ := lockPairingChannel_lockedAt now daemon.air
  simp only [handlePair]
  generalize lockPairingChannel now daemon.air = locked at hlock hflag ⊢
  split
  next hstage =>
    have hanswered := transmit_controls world locked (pairResponse frame.src locked.ourMac) 0xff
    change locked.SameControls (sendPairResponse world frame.src locked.ourMac locked) at hanswered
    generalize sendPairResponse world frame.src locked.ourMac locked = answered at hanswered ⊢
    have hbeacon (enabled : Bool) := setPairingBeacon_controls world answered enabled
    have hlocked := hanswered.lock.trans hlock
    constructor
    · dsimp only
      split
      · exact (hbeacon _).1.trans hlocked
      split
      · exact (hbeacon _).1.trans hlocked
      · exact hlocked
    · intro hsingle
      have hstage1 : frame.PairStage1 := hstage
      rw [if_pos hstage1]
      simp only [hsingle, Bool.false_eq_true, not_false_eq_true, if_true]
      exact (hbeacon false).2
  next hstage =>
    have hstage1 : ¬frame.PairStage1 := hstage
    rw [if_neg hstage1]
    exact ⟨hlock, fun _ => hflag⟩

/-- In single-pair mode the frame turns pairing off. -/
def Daemon.Closes (daemon : Daemon) (frame : RxFrame) : Prop :=
  frame.QosData daemon.air.ourMac ∧ daemon.FirstContact frame.src ∨
    frame.Mgmt 7 daemon.air.ourMac ∧ frame.PairStage1

instance : Decidable (daemon.Closes frame) :=
  inferInstanceAs (Decidable (_ ∨ _))

theorem Daemon.Closes.isRequest_or_data {daemon : Daemon} {frame : RxFrame}
    (hcloses : daemon.Closes frame) :
    frame.QosData daemon.air.ourMac ∨ frame.IsRequest daemon.air.ourMac :=
  hcloses.imp And.left fun hpair => Or.inr (Or.inl hpair.1)

/-- A request other than a pairing request does not close. -/
theorem not_closes_of_mgmt {subtype : UInt8} (hmgmt : frame.Mgmt subtype daemon.air.ourMac)
    (hne : subtype ≠ 7) : ¬daemon.Closes frame := by
  intro hcloses
  rcases hcloses with hdata | hpair
  · exact hmgmt.not_data hdata.1
  · exact hmgmt.unique hne hpair.1

/-- Data closes as a first contact. -/
theorem Daemon.closes_data {daemon : Daemon} {frame : RxFrame}
    (hdata : frame.QosData daemon.air.ourMac) :
    daemon.Closes frame ↔ daemon.FirstContact frame.src :=
  ⟨fun hcloses => hcloses.elim And.right fun hpair => absurd hdata hpair.1.not_data,
    fun hfirst => Or.inl ⟨hdata, hfirst⟩⟩

/-- What a frame does to the controls. -/
structure FrameControls (after : Daemon) : Prop where
  lock : after.air.channelLockUntilMs =
    if frame.IsRequest daemon.air.ourMac then now + 5000 else daemon.air.channelLockUntilMs
  flag : world.env.multiPairMode = false → after.air.pairingBeaconEnabled =
    if daemon.Closes frame then false else daemon.air.pairingBeaconEnabled

/-- A handler that changes neither control, -/
theorem frameControls_same {after : Daemon} (hafter : daemon.air.SameControls after.air)
    (hrequest : ¬frame.IsRequest daemon.air.ourMac) (hcloses : ¬daemon.Closes frame) :
    FrameControls world daemon now frame after where
  lock := by
    rw [if_neg hrequest]
    exact hafter.lock
  flag := by
    rw [if_neg hcloses]
    exact fun _ => hafter.flag

/-- and one that only locks. -/
theorem frameControls_locked {after : Daemon} (hafter : daemon.air.LockedAt now after.air)
    (hrequest : frame.IsRequest daemon.air.ourMac) (hcloses : ¬daemon.Closes frame) :
    FrameControls world daemon now frame after where
  lock := by
    rw [if_pos hrequest]
    exact hafter.1
  flag := by
    rw [if_neg hcloses]
    exact fun _ => hafter.2

theorem handleFrame_controls (hwf : daemon.table.WF) :
    FrameControls world daemon now frame (handleFrame world now frame daemon) := by
  refine handleFrame_cases world now frame daemon
    (motive := fun _ after => FrameControls world daemon now frame after) ?_ ?_ ?_ ?_ ?_ ?_ ?_ ?_
  · intro hdata hrequest
    obtain ⟨hlock, hflag⟩ := onXboxData_controls world daemon hwf frame.src frame.rxWcid frame.pl
      (not_le.mpr hdata.2.2.2)
    constructor
    · rw [if_neg hrequest]
      exact hlock
    · simp only [Daemon.closes_data hdata]
      exact hflag
  · intro haction hrequest
    have hmgmt := haction.1.mgmt haction.2
    apply frameControls_same world daemon now frame _ hrequest
    · exact not_closes_of_mgmt daemon frame hmgmt (by decide)
    · exact onXboxAction_controls world daemon _ _
  · intro hdata hrequest
    apply frameControls_same world daemon now frame _ hrequest
    · exact fun hcloses => hcloses.isRequest_or_data.elim hdata hrequest
    · unfold logAwdlIgnored
      dsimp only
      split <;> exact ⟨rfl, rfl⟩
  · intro hprobe
    apply frameControls_locked world daemon now frame _ (Or.inl hprobe)
    · exact not_closes_of_mgmt daemon frame hprobe (by decide)
    · exact handleProbe_controls world daemon now frame
  · intro hpair
    obtain ⟨hlock, hflag⟩ := handlePair_controls world daemon now frame
    have hcloses : daemon.Closes frame ↔ frame.PairStage1 :=
      ⟨fun hcloses => hcloses.elim (fun hdata => absurd hdata.1 hpair.not_data) And.right,
        fun hstage => Or.inr ⟨hpair, hstage⟩⟩
    have hrequest : frame.IsRequest daemon.air.ourMac := Or.inr (Or.inl hpair)
    constructor
    · rw [if_pos hrequest]
      exact hlock
    · simp only [hcloses]
      exact hflag
  · intro hauth
    apply frameControls_locked world daemon now frame _ (Or.inr (Or.inr (Or.inl hauth)))
    · exact not_closes_of_mgmt daemon frame hauth (by decide)
    · exact handleAuth_controls world daemon now frame
  · intro reassoc hassoc
    have hrequest : frame.IsRequest daemon.air.ourMac := by
      cases reassoc with
      | false => exact Or.inr (Or.inr (Or.inr (Or.inl hassoc)))
      | true => exact Or.inr (Or.inr (Or.inr (Or.inr hassoc)))
    apply frameControls_locked world daemon now frame _ hrequest
    · exact not_closes_of_mgmt daemon frame hassoc (by cases reassoc <;> decide)
    · exact handleAssoc_controls world daemon now frame reassoc
  · intro hdata hrequest
    apply frameControls_same world daemon now frame (Air.SameControls.refl _) hrequest
    exact fun hcloses => hcloses.isRequest_or_data.elim hdata hrequest

end

/-! ## Events -/

/-- The dongle's button was pressed. -/
def Transfer.Button (t : Transfer) : Prop :=
  infoType (load32 t.bytes) = 1 ∧ infoPort (load32 t.bytes) = 1 ∧ eventType (load32 t.bytes) = 0x04

theorem handleEvent_controls (t : Transfer) :
    (handleEvent world t daemon).air.channelLockUntilMs = daemon.air.channelLockUntilMs ∧
      (world.env.multiPairMode = false → ¬t.Button →
        (handleEvent world t daemon).air.pairingBeaconEnabled = daemon.air.pairingBeaconEnabled) := by
  have hbeacon := setPairingBeacon_controls world daemon.air true
  simp only [handleEvent]
  split
  · split
    · constructor
      · dsimp only
        split
        · exact hbeacon.1
        · rfl
      · intro hsingle _
        simp only [hsingle, Bool.false_eq_true, if_false]
    · exact ⟨rfl, fun _ _ => rfl⟩
  · split
    next hbutton => exact ⟨hbeacon.1, fun _ hnot => absurd hbutton hnot⟩
    next => exact ⟨rfl, fun _ _ => rfl⟩

end XoneDarwin
