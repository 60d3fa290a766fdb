import XoneDarwin.Daemon.Isolation
import XoneDarwin.Daemon.OnAir

/-!
# Session start-up of a connection

The flags that gate a controller's start-up live in its peer entry and are never
reset, while connections come and go in the slot table. A monitor follows one
controller beside the daemon and says what each connection is entitled to.
-/

namespace XoneDarwin

open Machine (run Always Emits)

/-! ## What is observed -/

/-- The controller announces itself. -/
def Step.Announces (mac ourMac : Mac) (step : Step) : Prop :=
  ∃ frame, step.frameFrom? mac = some frame ∧ frame.QosData ourMac ∧ frame.IsAnnounce

/-- The controller reports itself lost. -/
def Step.SaysLost (mac ourMac : Mac) (step : Step) : Prop :=
  ∃ frame, step.frameFrom? mac = some frame ∧ frame.QosData ourMac ∧
    frame.gipCommand? = some gipCmdCtrlLost

/-- The controller asks for an association or a reassociation. -/
def Step.Asks (mac ourMac : Mac) (reassoc : Bool) (step : Step) : Prop :=
  ∃ frame, step.frameFrom? mac = some frame ∧ frame.Mgmt (if reassoc then 2 else 0) ourMac

section

variable (mac ourMac : Mac) (step : Step)

/-- A test on the frame from a station, if there is one. -/
instance decidableFrame (p : RxFrame → Prop) [DecidablePred p] :
    Decidable (∃ frame, step.frameFrom? mac = some frame ∧ p frame) :=
  match h : step.frameFrom? mac with
  | none => .isFalse (by rintro ⟨frame, hframe, -⟩; cases hframe)
  | some frame => decidable_of_iff (p frame) (by simp)

instance : Decidable (step.Announces mac ourMac) :=
  decidableFrame mac step fun frame => frame.QosData ourMac ∧ frame.IsAnnounce

instance : Decidable (step.SaysLost mac ourMac) :=
  decidableFrame mac step fun frame =>
    frame.QosData ourMac ∧ frame.gipCommand? = some gipCmdCtrlLost

instance (reassoc : Bool) : Decidable (step.Asks mac ourMac reassoc) :=
  decidableFrame mac step fun frame => frame.Mgmt (if reassoc then 2 else 0) ourMac

end

/-- Whether the controller's slot is active, `none` if it has no slot. -/
def Daemon.slotActive? (mac : Mac) (daemon : Daemon) : Option Bool :=
  (daemon.table.slotOf? mac).map fun s => (daemon.pads.slots s).active

/-- What was sent between two states, oldest first. -/
def sentBetween (before after : Daemon) : List Sent :=
  (after.air.sent.take (after.air.sent.length - before.air.sent.length)).reverse

/-- The start-up commands, in order. -/
def startUp (mac : Mac) : List Sent :=
  [.gip mac gipCmdPower, .gip mac gipCmdLed, .gip mac gipCmdSerial]

/-- The start-up commands sent to a controller between two states. -/
def startUpsBetween (mac : Mac) (before after : Daemon) : List Sent :=
  (sentBetween before after).filter fun sent => sent ∈ startUp mac

/-! ## The stimuli behind them -/

section

variable {mac ourMac : Mac} {step : Step}

theorem Step.announces_iff (env : Env) :
    step.Announces mac ourMac ↔
      ∃ gip, step.stimulus env ourMac = .data mac gip ∧ gip.event = .announce := by
  have hiff (gip : GipFrame) : step.stimulus env ourMac = .data mac gip ↔
      ∃ frame, step.frameFrom? mac = some frame ∧ frame.stimulus ourMac = .data mac gip :=
    Step.stimulus_eq_iff (by simp) (by simp)
      fun frame hframe => (RxFrame.stimulus_eq_data.mp hframe).2.1
  constructor
  · intro hframes
    obtain ⟨frame, hframe, hdata, hannounce⟩ := hframes
    have hsrc : frame.src = mac := step.frameFrom?_src hframe
    exact ⟨frame.gip, (hiff _).mpr ⟨frame, hframe, RxFrame.stimulus_eq_data.mpr ⟨hdata, hsrc, rfl⟩⟩,
      frame.gip_announce.mpr hannounce⟩
  · intro hstimulus
    obtain ⟨gip, hstimulus, hevent⟩ := hstimulus
    obtain ⟨frame, hframe, hsame⟩ := (hiff gip).mp hstimulus
    obtain ⟨hdata, -, rfl⟩ := RxFrame.stimulus_eq_data.mp hsame
    exact ⟨frame, hframe, hdata, frame.gip_announce.mp hevent⟩

theorem Step.asks_iff (env : Env) {reassoc : Bool} :
    step.Asks mac ourMac reassoc ↔ step.stimulus env ourMac = .associate mac reassoc := by
  rw [Step.stimulus_eq_iff (by simp) (by simp)
    (fun frame hframe => (RxFrame.stimulus_eq_associate.mp hframe).2)]
  refine exists_congr fun frame => and_congr_right fun hframe => ?_
  rw [RxFrame.stimulus_eq_associate]
  exact (and_iff_left (step.frameFrom?_src hframe)).symm

end

/-! ## The monitor -/

/-- What is known of a controller's connections. -/
structure Session where
  /-- it has announced itself in the present connection -/
  announced : Bool := false
  /-- it was disconnected and has not announced itself since -/
  gap : Bool := false
  /-- it has announced itself before, in whichever connection -/
  heard : Bool := false

variable (world : World) (mac : Mac)

/-- The slot goes from inactive to active. -/
def Connects (before after : Daemon) : Prop :=
  after.slotActive? mac = some true ∧ before.slotActive? mac ≠ some true

/-- The step leaves the slot disconnected. -/
def Disconnects (before after : Daemon) (step : Step) : Prop :=
  after.slotActive? mac = some false ∧
    (before.slotActive? mac = some true ∨ step.SaysLost mac before.air.ourMac)

instance (before after : Daemon) : Decidable (Connects mac before after) :=
  inferInstanceAs (Decidable (_ ∧ _))

instance (before after : Daemon) (step : Step) : Decidable (Disconnects mac before after step) :=
  inferInstanceAs (Decidable (_ ∧ _))

/-- It announces itself in a connection. -/
def StartsSession (before after : Daemon) (step : Step) : Prop :=
  step.Announces mac before.air.ourMac ∧ after.slotActive? mac = some true

instance (before after : Daemon) (step : Step) : Decidable (StartsSession mac before after step) :=
  inferInstanceAs (Decidable (_ ∧ _))

def Session.next (session : Session) (before after : Daemon) (step : Step) : Session where
  announced := StartsSession mac before after step ||
    session.announced && !Connects mac before after
  gap := !StartsSession mac before after step &&
    (session.gap || Disconnects mac before after step)
  heard := session.heard ||
    (step.Announces mac before.air.ourMac && (after.slotActive? mac).isSome)

/-- The daemon with the monitor beside it. -/
def watch (state : Daemon × Session) (step : Step) : Daemon × Session :=
  (state.1.step world step, state.2.next mac state.1 (state.1.step world step) step)

/-- A step gives a connection what it is entitled to. -/
structure StartsUp (state : Daemon × Session) (step : Step) : Prop where
  /-- the first announce of a connection brings the start-up commands, later ones none -/
  announce : step.Announces mac state.1.air.ourMac →
    (state.1.step world step).slotActive? mac = some true →
    startUpsBetween mac state.1 (state.1.step world step) =
      if state.2.announced = true ∧ state.1.slotActive? mac = some true then [] else startUp mac
  /-- nothing else brings them -/
  otherwise : ¬step.Announces mac state.1.air.ourMac →
    startUpsBetween mac state.1 (state.1.step world step) = []
  /-- between a disconnect and the next such announce requests are answered -/
  answered : ∀ reassoc, state.2.gap = true → step.Asks mac state.1.air.ourMac reassoc →
    .assocResponse mac reassoc ∈ sentBetween state.1 (state.1.step world step)

/-- What starts a connection up comes from a controller that was not heard before. -/
structure FirstTime (state : Daemon × Session) (step : Step) : Prop where
  announce : step.Announces mac state.1.air.ourMac → state.1.slotActive? mac = some true →
    state.2.announced = false → state.2.heard = false
  answered : ∀ reassoc, state.2.gap = true → step.Asks mac state.1.air.ourMac reassoc →
    state.2.heard = false

/-! ## Entries before and after -/

namespace PeerTable

variable {table : PeerTable}

/-- Entries change hands only when a new station registers. -/
theorem WF.register_station (hwf : table.WF) (sender : Mac) (i : Fin maxPeers) :
    (((table.register sender).peers i).active = (table.peers i).active ∧
      ((table.register sender).peers i).mac = (table.peers i).mac) ∨
      table.findPeerByMac sender = none ∧ i = table.entry sender := by
  cases hfind : table.findPeerByMac sender with
  | some j =>
      rw [register_known hfind]
      exact Or.inl ⟨rfl, rfl⟩
  | none =>
      by_cases hnext : i = hwf.next
      · exact Or.inr ⟨rfl, hnext.trans (hwf.entry_new hfind).1.symm⟩
      · rw [PeerTable.register, hwf.remember_new hfind]
        rw [setPeer_other hnext]
        exact Or.inl ⟨rfl, rfl⟩

end PeerTable

/-- The station that a stimulus comes from. -/
def Stimulus.sender? : Stimulus → Option Mac
  | .register mac => some mac
  | .associate mac _ => some mac
  | .action mac => some mac
  | .data mac _ => some mac
  | _ => none

namespace PeerTable

variable {table : PeerTable}

theorem WF.step_station (hwf : table.WF) (stimulus : Stimulus) (i : Fin maxPeers) :
    (((table.step stimulus).peers i).active = (table.peers i).active ∧
      ((table.step stimulus).peers i).mac = (table.peers i).mac) ∨
      ∃ sender, stimulus.sender? = some sender ∧ table.findPeerByMac sender = none ∧
        i = table.entry sender ∧ ((table.step stimulus).peers i).mac = sender := by
  -- the other changes of a step leave the stations as the registration made them
  have hregister {sender : Mac} {after : PeerTable} (hsender : stimulus.sender? = some sender)
      (hafter : ∀ j, (after.peers j).active = ((table.register sender).peers j).active ∧
        (after.peers j).mac = ((table.register sender).peers j).mac) :
      ((after.peers i).active = (table.peers i).active ∧
        (after.peers i).mac = (table.peers i).mac) ∨
      ∃ sender, stimulus.sender? = some sender ∧ table.findPeerByMac sender = none ∧
        i = table.entry sender ∧ (after.peers i).mac = sender := by
    rcases hwf.register_station sender i with ⟨hactive, hmac⟩ | ⟨hfind, hi⟩
    · exact Or.inl ⟨(hafter i).1.trans hactive, (hafter i).2.trans hmac⟩
    · refine Or.inr ⟨sender, hsender, hfind, hi, (hafter i).2.trans ?_⟩
      rw [hi]
      exact (hwf.entry_active sender).2
  cases stimulus with
  | quiet => exact Or.inl ⟨rfl, rfl⟩
  | lost s => exact Or.inl ⟨rfl, rfl⟩
  | register mac => exact hregister rfl fun _ => ⟨rfl, rfl⟩
  | associate mac reassoc =>
      simp only [PeerTable.step]
      split
      · exact Or.inl ⟨rfl, rfl⟩
      · exact hregister rfl (addClient_station _)
  | action mac => exact hregister rfl (attach_station _)
  | data mac frame =>
      simp only [PeerTable.step]
      split
      · refine hregister rfl fun j => ?_
        rw [(greet_station _ j).1, (greet_station _ j).2]
        exact attach_station _ j
      · exact hregister rfl (attach_station _)

/-- Registering a station twice is registering it once. -/
theorem WF.register_register (hwf : table.WF) (mac : Mac) :
    (table.register mac).register mac = table.register mac ∧
      (table.register mac).entry mac = table.entry mac := by
  have hfound := (hwf.entry_found mac).2
  exact ⟨register_known hfound, entry_known hfound⟩

end PeerTable

namespace Link

variable {mac : Mac} {i : Fin maxPeers} {s : Fin maxSlots} {link : Link} {stimulus : Stimulus}

/-- A new station may as well register first. -/
theorem step_register_first (hwf : link.table.WF) (hfind : link.table.findPeerByMac mac = none)
    (hsender : stimulus.sender? = some mac) :
    (link.step (.register mac)).step stimulus = link.step stimulus := by
  obtain ⟨hregister, hentry⟩ := hwf.register_register mac
  have hattach : (link.table.register mac).attachEvents mac = link.table.attachEvents mac := by
    simp only [PeerTable.attachEvents, hregister, hentry]
  have hsession : sessionInitializedFor mac (link.table.register mac) =
      sessionInitializedFor mac link.table := by
    simp only [sessionInitializedFor, hfind, (hwf.entry_found mac).2, (hwf.entry_new hfind).2]
    rfl
  cases stimulus with
  | quiet => cases hsender
  | lost gone => cases hsender
  | register sender =>
      obtain rfl : sender = mac := Option.some.inj hsender
      exact Link.ext hregister rfl
  | associate sender reassoc =>
      obtain rfl : sender = mac := Option.some.inj hsender
      refine Link.ext ?_ rfl
      have hnew : sessionInitializedFor sender link.table = false := by
        simp only [sessionInitializedFor, hfind]
      simp only [Link.step, PeerTable.step, hregister, hentry, hsession, hnew,
        Bool.false_eq_true, if_false]
  | action sender =>
      obtain rfl : sender = mac := Option.some.inj hsender
      refine Link.ext ?_ ?_
      · simp only [Link.step, PeerTable.step, hregister, hentry]
      · simp only [Link.step, PeerTable.step, PeerTable.padEvents, hattach]
        rfl
  | data sender frame =>
      obtain rfl : sender = mac := Option.some.inj hsender
      rw [Link.step_data, Link.step_data]
      simp only [Link.step, Link.contact, PeerTable.step, hregister, hentry, hattach]
      rfl

/-- A controller that has an entry had it before, or its station is new. -/
theorem Holds.before (hwf : link.table.WF) (hafter : (link.step stimulus).Holds mac i s) :
    link.Holds mac i s ∨
      link.table.findPeerByMac mac = none ∧ stimulus.sender? = some mac ∧
        (link.step (.register mac)).Holds mac i s := by
  obtain ⟨hwf', hfound, hpad⟩ := hafter
  have hstation := PeerTable.findPeerByMac_some hfound
  rcases hwf.step_station stimulus i with ⟨hactive, hmac⟩ | ⟨sender, hsender, hfind, hi, hmac⟩
  · exact Or.inl ⟨hwf, hwf.findPeerByMac_iff.mpr
      ⟨hactive.symm.trans hstation.1, hmac.symm.trans hstation.2⟩, hpad⟩
  · obtain rfl : sender = mac := hmac.symm.trans hstation.2
    refine Or.inr ⟨hfind, hsender, hwf.register sender, ?_, hpad⟩
    rw [hi]
    exact (hwf.entry_found sender).2

end Link

/-! ## Flags of one controller -/

namespace Own

variable (own : Own) (s : Fin maxSlots)

/-- An announce leaves all flags of the session set. -/
theorem step_announce (mac : Mac) {gip : GipFrame} (hevent : gip.event = .announce) :
    ((own.step s (.data mac gip)).peer.initialCommandsSent = true ∧
      (own.step s (.data mac gip)).peer.sessionInitialized = true) ∧
      (own.step s (.data mac gip)).peer.handshakeDone = true := by
  simp only [Own.step, hevent]
  exact ⟨⟨rfl, rfl⟩, rfl⟩

/-- Nothing else sets the first two, and nothing resets the third. -/
theorem step_flags {stimulus : Stimulus}
    (hquiet : ∀ mac gip, stimulus = .data mac gip → gip.event ≠ .announce) :
    ((own.step s stimulus).peer.initialCommandsSent = own.peer.initialCommandsSent ∧
      (own.step s stimulus).peer.sessionInitialized = own.peer.sessionInitialized) ∧
      (own.peer.handshakeDone = true → (own.step s stimulus).peer.handshakeDone = true) := by
  cases stimulus with
  | quiet => exact ⟨⟨rfl, rfl⟩, id⟩
  | register mac => exact ⟨⟨rfl, rfl⟩, id⟩
  | associate mac reassoc =>
      simp only [Own.step]
      split <;> exact ⟨⟨rfl, rfl⟩, id⟩
  | action mac => exact ⟨⟨rfl, rfl⟩, fun _ => rfl⟩
  | data mac gip =>
      have hevent := hquiet mac gip rfl
      simp only [Own.step]
      cases hcase : gip.event with
      | pad event => exact ⟨⟨rfl, rfl⟩, fun _ => rfl⟩
      | announce => exact absurd hcase hevent
      | other => exact ⟨⟨rfl, rfl⟩, fun _ => rfl⟩
  | lost gone => exact ⟨⟨rfl, rfl⟩, id⟩

end Own

/-! ## What the monitor knows -/

/-- The flags of an entry tell whether its station was heard. -/
def Peer.Remembers (peer : Peer) (heard : Bool) : Prop :=
  (peer.initialCommandsSent = heard ∧ peer.sessionInitialized = heard) ∧
    (heard = true → peer.handshakeDone = true)

/-- The monitor follows the daemon. -/
structure Tracks (state : Daemon × Session) : Prop where
  wf : state.1.table.WF
  known : state.2.gap = true ∨ state.2.heard = true → ∃ i s, state.1.link.Holds mac i s
  flags : ∀ i s, state.1.link.Holds mac i s → (state.1.table.peers i).Remembers state.2.heard
  announced : state.2.announced = true → state.2.heard = true

section

variable {world mac} {daemon : Daemon} {i : Fin maxPeers} {s : Fin maxSlots}

theorem Link.Holds.slotActive? (hholds : daemon.link.Holds mac i s) :
    daemon.slotActive? mac = some (daemon.pads.slots s).active := by
  obtain ⟨hwf, hfound, hpad⟩ := hholds
  have hslot : daemon.table.slotOf? mac = some s :=
    (PeerTable.WF.slotOf?_eq_some_iff hwf).mpr ⟨i, hfound, hpad⟩
  rw [Daemon.slotActive?, hslot, Option.map_some]

theorem holds_of_slotActive? (hwf : daemon.table.WF)
    (hslot : (daemon.slotActive? mac).isSome = true) : ∃ i s, daemon.link.Holds mac i s := by
  rw [Daemon.slotActive?, Option.isSome_map] at hslot
  obtain ⟨s, hs⟩ := Option.isSome_iff_exists.mp hslot
  obtain ⟨i, hfound, hpad⟩ := hwf.slotOf?_eq_some_iff.mp hs
  exact ⟨i, s, hwf, hfound, hpad⟩

/-- A step changes what the entry of a controller remembers as its stimulus says. -/
theorem remembers_step {link : Link} {stimulus : Stimulus} {heard : Bool}
    (hholds : link.Holds mac i s) (hflags : (link.table.peers i).Remembers heard)
    {announces : Bool} (hannounces : announces = true ↔
      ∃ gip, stimulus = .data mac gip ∧ gip.event = .announce) :
    ((link.step stimulus).table.peers i).Remembers (heard || announces) := by
  cases habout : stimulus.about mac s with
  | false =>
      have hnot : announces = false := by
        refine Bool.eq_false_of_not_eq_true fun htrue => ?_
        obtain ⟨gip, rfl, -⟩ := hannounces.mp htrue
        exact absurd rfl (of_decide_eq_false habout)
      have hsame : (link.step stimulus).table.peers i = link.table.peers i :=
        congrArg Own.peer (hholds.step_other habout)
      rwa [hsame, hnot, Bool.or_false]
  | true =>
      -- a stimulus about the controller acts on its own entry and slot alone
      have hown : (link.step stimulus).table.peers i =
          ((link.own i s).step s stimulus).peer := by
        have hput := congrArg (fun link : Link => link.own i s) (hholds.step_about habout)
        simp only [Link.own_put] at hput
        exact congrArg Own.peer hput
      rw [hown]
      cases hcase : announces with
      | true =>
          obtain ⟨gip, rfl, hevent⟩ := hannounces.mp hcase
          obtain ⟨hset, hdone⟩ := (link.own i s).step_announce s mac hevent
          rw [Bool.or_true]
          exact ⟨hset, fun _ => hdone⟩
      | false =>
          have hquiet : ∀ sender gip, stimulus = .data sender gip → gip.event ≠ .announce := by
            rintro sender gip rfl hevent
            obtain rfl : sender = mac := of_decide_eq_true habout
            exact Bool.false_ne_true (hcase.symm.trans (hannounces.mpr ⟨gip, rfl, hevent⟩))
          obtain ⟨⟨hinitial, hsession⟩, hdone⟩ := (link.own i s).step_flags s hquiet
          rw [Bool.or_false]
          exact ⟨⟨hinitial.trans hflags.1.1, hsession.trans hflags.1.2⟩,
            fun hheard => hdone (hflags.2 hheard)⟩

/-- Before it is heard, the entry of a station that registers is fresh. -/
theorem Tracks.remembers {state : Daemon × Session} (htracks : Tracks mac state)
    {stimulus : Stimulus} (hafter : (state.1.link.step stimulus).Holds mac i s)
    {announces : Bool} (hannounces : announces = true ↔
      ∃ gip, stimulus = .data mac gip ∧ gip.event = .announce) :
    ((state.1.link.step stimulus).table.peers i).Remembers (state.2.heard || announces) := by
  rcases hafter.before htracks.wf with hholds | ⟨hfind, hsender, hfirst⟩
  · exact remembers_step hholds (htracks.flags i s hholds) hannounces
  · have hunheard : state.2.heard = false := by
      refine Bool.eq_false_of_not_eq_true fun hheard => ?_
      obtain ⟨j, r, hholds⟩ := htracks.known (Or.inr hheard)
      exact absurd (hfind.symm.trans hholds.found) (by simp)
    have hentry : state.1.table.entry mac = i :=
      (PeerTable.entry_known hfirst.found).symm.trans
        (htracks.wf.register_register mac).2 |>.symm
    have hfresh : ((state.1.link.step (.register mac)).table.peers i).Remembers false := by
      have hnew := (htracks.wf.entry_new hfind).2
      rw [hentry] at hnew
      have hpeer : (state.1.link.step (.register mac)).table.peers i = _ := hnew
      rw [hpeer]
      exact ⟨⟨rfl, rfl⟩, fun hfalse => by cases hfalse⟩
    rw [hunheard, ← Link.step_register_first htracks.wf hfind hsender]
    exact remembers_step hfirst hfresh hannounces

/-- The monitor keeps following. -/
theorem Tracks.watch {state : Daemon × Session} (htracks : Tracks mac state) (step : Step) :
    Tracks mac (watch world mac state step) := by
  have hwf' := step_wf world htracks.wf step
  have hlink := step_link world htracks.wf step
  have hkeeps : (∃ i s, state.1.link.Holds mac i s) →
      ∃ i s, (state.1.step world step).link.Holds mac i s := by
    intro hholds
    obtain ⟨i, s, hholds⟩ := hholds
    exact ⟨i, s, step_holds world hholds step⟩
  refine ⟨hwf', ?_, ?_, ?_⟩
  · rintro (hgap | hheard)
    · simp only [XoneDarwin.watch, Session.next, Bool.and_eq_true, Bool.or_eq_true,
        decide_eq_true_eq] at hgap
      rcases hgap.2 with hgap | ⟨hslot, -⟩
      · exact hkeeps (htracks.known (Or.inl hgap))
      · exact holds_of_slotActive? hwf' (Option.isSome_of_eq_some hslot)
    · simp only [XoneDarwin.watch, Session.next, Bool.and_eq_true, Bool.or_eq_true] at hheard
      rcases hheard with hheard | ⟨-, hslot⟩
      · exact hkeeps (htracks.known (Or.inr hheard))
      · exact holds_of_slotActive? hwf' hslot
  · intro i s hholds
    have hslot : ((state.1.step world step).slotActive? mac).isSome = true :=
      Option.isSome_of_eq_some hholds.slotActive?
    have hpeer : (state.1.step world step).table.peers i = _ :=
      congrArg (fun link : Link => link.table.peers i) hlink
    simp only [XoneDarwin.watch, Session.next, hslot, Bool.and_true, hpeer]
    exact htracks.remembers (hlink ▸ hholds)
      (decide_eq_true_iff.trans (step.announces_iff world.env))
  · intro hannounced
    simp only [XoneDarwin.watch, Session.next, Bool.and_eq_true, Bool.or_eq_true,
      decide_eq_true_eq] at hannounced ⊢
    rcases hannounced with ⟨hstarts, hslot⟩ | ⟨hannounced, -⟩
    · exact Or.inr ⟨hstarts, Option.isSome_of_eq_some hslot⟩
    · exact Or.inl (htracks.announced hannounced)

/-! ## What is sent -/

theorem sentBetween_sends {sends : List Sent} {before after : Daemon}
    (hsends : Air.Sends sends before.air after.air) : sentBetween before after = sends.reverse := by
  rw [sentBetween, hsends.sent, List.length_append, Nat.add_sub_cancel, List.take_left]

/-- A step sends what its stimulus calls for. -/
theorem step_sent {daemon : Daemon} (hwf : daemon.table.WF) {step : Step} {stimulus : Stimulus}
    (hstimulus : step.stimulus world.env daemon.air.ourMac = stimulus)
    (hquiet : stimulus ≠ .quiet) :
    sentBetween daemon (daemon.step world step) = (daemon.table.sends stimulus).reverse := by
  cases step with
  | housekeeping now scanNow => exact absurd hstimulus.symm hquiet
  | transfer now t =>
      have hsends := (handleTransfer_answers world now t hwf).air
      rw [show t.stimulus world.env daemon.air.ourMac = stimulus from hstimulus] at hsends
      exact sentBetween_sends hsends

variable {state : Daemon × Session} {step : Step}

theorem mem_startUp {sent : Sent} :
    sent ∈ startUp mac ↔ ∃ cmd, (cmd = gipCmdPower ∨ cmd = gipCmdLed ∨ cmd = gipCmdSerial) ∧
      sent = .gip mac cmd := by
  simp only [startUp, List.mem_cons, List.not_mem_nil, or_false]
  constructor
  · rintro (rfl | rfl | rfl)
    · exact ⟨_, Or.inl rfl, rfl⟩
    · exact ⟨_, Or.inr (Or.inl rfl), rfl⟩
    · exact ⟨_, Or.inr (Or.inr rfl), rfl⟩
  · rintro ⟨cmd, rfl | rfl | rfl, rfl⟩
    · exact Or.inl rfl
    · exact Or.inr (Or.inl rfl)
    · exact Or.inr (Or.inr rfl)

/-- Only an announce of the controller itself calls for its start-up commands. -/
theorem sends_not_startUp (table : PeerTable) {stimulus : Stimulus}
    (hnot : ¬∃ gip, stimulus = .data mac gip ∧ gip.event = .announce) :
    ∀ sent ∈ table.sends stimulus, sent ∉ startUp mac := by
  intro sent hsent hstart
  obtain ⟨cmd, hcmd, rfl⟩ := mem_startUp.mp hstart
  cases stimulus with
  | associate sender reassoc =>
      simp only [PeerTable.sends] at hsent
      split at hsent <;> simp at hsent
  | data sender gip =>
      simp only [PeerTable.sends] at hsent
      split at hsent
      next => cases hsent
      next =>
        rcases List.mem_append.mp hsent with hgreeting | hack
        · simp only [PeerTable.greetings] at hgreeting
          split at hgreeting
          next hevent =>
            have hsender : mac = sender := by
              simp only [List.mem_cons, Sent.gip.injEq, List.not_mem_nil, or_false] at hgreeting
              rcases hgreeting with ⟨heq, -⟩ | ⟨heq, -⟩ | ⟨heq, -⟩ <;> exact heq
            exact hnot ⟨gip, by rw [hsender], hevent.1⟩
          next => cases hgreeting
        · split at hack
          next =>
            rw [List.mem_singleton, Sent.gip.injEq] at hack
            rw [hack.2] at hcmd
            revert hcmd
            decide
          next => cases hack
  | quiet => cases hsent
  | register sender => cases hsent
  | action sender => cases hsent
  | lost gone => cases hsent

/-- So no other step sends any. -/
theorem startUps_otherwise {daemon : Daemon} (hwf : daemon.table.WF) {step : Step}
    (hnot : ¬step.Announces mac daemon.air.ourMac) :
    startUpsBetween mac daemon (daemon.step world step) = [] := by
  rw [startUpsBetween, List.filter_eq_nil_iff]
  cases step with
  | housekeeping now scanNow =>
      have hsent : (daemon.step world (.housekeeping now scanNow)).air.sent = daemon.air.sent :=
        pairingCheck_sent world _ now scanNow daemon.air
      simp [sentBetween, hsent]
  | transfer now t =>
      have hsends := (handleTransfer_answers world now t hwf).air
      have hsent : sentBetween daemon (daemon.step world (.transfer now t)) = _ :=
        sentBetween_sends hsends
      rw [hsent]
      intro sent hmem hstart
      rw [Step.announces_iff world.env] at hnot
      exact sends_not_startUp daemon.table hnot sent (List.mem_reverse.mp hmem)
        (of_decide_eq_true hstart)

/-- An announce is answered with the start-up commands if it is the first ever. -/
theorem Tracks.startUps (htracks : Tracks mac state)
    (hannounces : step.Announces mac state.1.air.ourMac)
    (hslot : (state.1.step world step).slotActive? mac = some true) :
    startUpsBetween mac state.1 (state.1.step world step) =
      if state.2.heard = true then [] else startUp mac := by
  obtain ⟨gip, hstimulus, hevent⟩ := (step.announces_iff world.env).mp hannounces
  obtain ⟨i, s, hholds⟩ := holds_of_slotActive? (step_wf world htracks.wf step)
    (Option.isSome_of_eq_some hslot)
  have hafter : (state.1.link.step (.data mac gip)).Holds mac i s := by
    rw [← hstimulus, ← step_link world htracks.wf step]
    exact hholds
  have hentry : state.1.table.entry mac = i :=
    Option.some.inj ((htracks.wf.find_data mac gip).symm.trans hafter.found)
  have hfirst : (state.1.link.step (.register mac)).Holds mac i s :=
    ⟨htracks.wf.register mac, hentry ▸ (htracks.wf.entry_found mac).2, hholds.pad⟩
  have hregister : ((state.1.table.register mac).peers i).Remembers (state.2.heard || false) :=
    htracks.remembers hfirst (by simp)
  have hinitial : ((state.1.table.register mac).peers i).initialCommandsSent = state.2.heard := by
    have hset := hregister.1.1
    rwa [Bool.or_false] at hset
  rw [startUpsBetween, step_sent htracks.wf hstimulus (by simp)]
  simp only [PeerTable.sends, PeerTable.greetings, hentry, hholds.pad, hevent, hinitial]
  have hcommands : gipCmdAcknowledge ≠ gipCmdPower ∧ gipCmdAcknowledge ≠ gipCmdLed ∧
      gipCmdAcknowledge ≠ gipCmdSerial := by decide
  cases state.2.heard <;> cases gip.ack <;> simp [startUp, hcommands]

/-- An announce connects its sender's slot unless that was done before. -/
theorem Link.Holds.announce_active (hholds : daemon.link.Holds mac i s)
    (hannounces : step.Announces mac daemon.air.ourMac) :
    (daemon.step world step).slotActive? mac =
      some (!(daemon.table.peers i).handshakeDone || (daemon.pads.slots s).active) := by
  obtain ⟨gip, hstimulus, hevent⟩ := (step.announces_iff world.env).mp hannounces
  have hentry : daemon.link.table.entry mac = i := PeerTable.entry_known hholds.found
  have hpads : ((daemon.step world step).pads.slots s).active =
      ((daemon.link.step (.data mac gip)).pads s).active := by
    rw [← hstimulus]
    exact congrArg (fun link : Link => (link.pads s).active) (step_link world hholds.wf step)
  rw [(step_holds world hholds step).slotActive?, hpads,
    Link.step_data_active _ (hentry.symm ▸ hholds.pad), hevent,
    PeerTable.register_known hholds.found, hentry]
  rfl

theorem Tracks.answered (htracks : Tracks mac state) {reassoc : Bool}
    (hgap : state.2.gap = true) (hasks : step.Asks mac state.1.air.ourMac reassoc) :
    .assocResponse mac reassoc ∈ sentBetween state.1 (state.1.step world step) ↔
      state.2.heard = false := by
  obtain ⟨i, s, hholds⟩ := htracks.known (Or.inl hgap)
  have hsession : sessionInitializedFor mac state.1.table = state.2.heard := by
    simp only [sessionInitializedFor,
      show state.1.table.findPeerByMac mac = some i from hholds.found]
    exact (htracks.flags i s hholds).1.2
  rw [step_sent htracks.wf ((step.asks_iff world.env).mp hasks) (by simp)]
  simp only [PeerTable.sends, hsession]
  cases state.2.heard <;> simp

theorem startsUp_iff (htracks : Tracks mac state) :
    StartsUp world mac state step ↔ FirstTime mac state step := by
  constructor
  · intro hstarts
    obtain ⟨hannounce, -, hanswered⟩ := hstarts
    refine ⟨fun hannounces hbefore hfirst => ?_, fun reassoc hgap hasks =>
      (htracks.answered hgap hasks).mp (hanswered reassoc hgap hasks)⟩
    have hslot : (state.1.step world step).slotActive? mac = some true := by
      obtain ⟨i, s, hholds⟩ :=
        holds_of_slotActive? htracks.wf (Option.isSome_of_eq_some hbefore)
      rw [hholds.slotActive?] at hbefore
      rw [hholds.announce_active hannounces, Option.some.inj hbefore, Bool.or_true]
    have hsent := hannounce hannounces hslot
    rw [htracks.startUps hannounces hslot, hfirst] at hsent
    -- heard before, it got no start-up although it had just connected
    refine Bool.eq_false_of_not_eq_true fun hheard => ?_
    rw [if_pos hheard, if_neg (by simp)] at hsent
    cases hsent
  · intro hfirst
    obtain ⟨hannounce, hanswered⟩ := hfirst
    refine ⟨fun hannounces hslot => ?_, startUps_otherwise htracks.wf, fun reassoc hgap hasks =>
      (htracks.answered hgap hasks).mpr (hanswered reassoc hgap hasks)⟩
    rw [htracks.startUps hannounces hslot]
    refine if_congr ?_ rfl rfl
    constructor
    · intro hheard
      have hbefore : state.1.slotActive? mac = some true := by
        obtain ⟨i, s, hholds⟩ := htracks.known (Or.inr hheard)
        have hdone := (htracks.flags i s hholds).2 hheard
        rw [hholds.announce_active hannounces, hdone] at hslot
        rw [hholds.slotActive?]
        exact hslot
      refine ⟨Bool.eq_true_of_not_eq_false fun hfirst => ?_, hbefore⟩
      exact Bool.false_ne_true ((hannounce hannounces hbefore hfirst).symm.trans hheard)
    · intro hboth
      obtain ⟨hannounced, -⟩ := hboth
      exact htracks.announced hannounced

end

/-! ## Runs -/

/-- In every run every connection of a controller gets its own start-up, and its requests in the
gaps between connections are answered, if and only if the controller was never heard before
each time: whenever it makes the first announce of a connection, and whenever it asks in a gap. -/
theorem startsUp_always_iff {boot : Daemon} (hboot : Boots world boot) (mac : Mac)
    (steps : List Step) :
    Always (watch world mac) (StartsUp world mac) (boot, {}) steps ↔
      Always (watch world mac) (FirstTime mac) (boot, {}) steps := by
  refine Machine.always_congr (Tracks mac) (fun _ step htracks => htracks.watch step)
    (fun _ step htracks => startsUp_iff htracks) ⟨boots_wf world hboot, ?_, ?_, ?_⟩ steps
  · rintro (hgap | hheard)
    · cases hgap
    · cases hheard
  · intro i s hholds
    have hnone : boot.link.table.findPeerByMac mac = none := by
      rw [boots_link world hboot]
      rfl
    exact absurd (hnone.symm.trans hholds.found) (by simp)
  · intro hannounced
    cases hannounced

/-- An announce of device 0. -/
def announceStep : Step := packetStep [0x02, 0x20, 0x01, 0x00] (by decide)

/-- A controller connects and announces itself, is lost, and does it again. -/
def againSteps : List Step :=
  [addedStep, announceStep, removedStep, addedStep, announceStep]

theorem startsUp_always_iff_plain :
    Always (watch (romWorld plainRom) padMac) (StartsUp (romWorld plainRom) padMac)
        (plainBoot, {}) againSteps ↔
      Always (watch (romWorld plainRom) padMac) (FirstTime padMac) (plainBoot, {}) againSteps :=
  startsUp_always_iff (romWorld plainRom) plainBoot_boots padMac againSteps

/-- The second connection gets no start-up. -/
theorem again_not_startsUp :
    ¬Always (watch (romWorld plainRom) padMac) (StartsUp (romWorld plainRom) padMac)
      (plainBoot, {}) againSteps := by
  intro halways
  have hfifth := halways (againSteps.take 4) _ [] rfl
  have hannounces : announceStep.Announces padMac
      (run (watch (romWorld plainRom) padMac) (plainBoot, {}) (againSteps.take 4)).1.air.ourMac := by
    decide +kernel
  have hslot : ((run (watch (romWorld plainRom) padMac) (plainBoot, {})
      (againSteps.take 4)).1.step (romWorld plainRom)
        announceStep).slotActive? padMac = some true := by
    decide +kernel
  have hfirst : (run (watch (romWorld plainRom) padMac) (plainBoot, {})
      (againSteps.take 4)).2.announced = false := by decide +kernel
  have hsent : startUpsBetween padMac (run (watch (romWorld plainRom) padMac) (plainBoot, {})
      (againSteps.take 4)).1 ((run (watch (romWorld plainRom) padMac) (plainBoot, {})
        (againSteps.take 4)).1.step (romWorld plainRom)
          announceStep) = [] := by
    decide +kernel
  generalize run (watch (romWorld plainRom) padMac) (plainBoot, {}) (againSteps.take 4) = before
    at hfifth hannounces hslot hfirst hsent
  have hstart := hfifth.announce hannounces hslot
  rw [hsent, hfirst, if_neg (by simp)] at hstart
  cases hstart

end XoneDarwin
