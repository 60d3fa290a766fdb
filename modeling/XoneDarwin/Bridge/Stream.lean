import XoneDarwin.Bridge.Mirror
import XoneDarwin.Daemon.Controls

/-!
# The event stream of a slot

What a consumer can rely on: a slot is announced as connected before anything else
is said about it, and again only after it was announced as disconnected. The
daemon's slots keep to this, but a guide button is reported whether or not its slot
is in use.
-/

namespace XoneDarwin

open Machine (run Always)

/-! ## Notices -/

/-- What an event says about its slot. -/
inductive Notice
  | connected
  | disconnected
  | input
  | guide
  deriving DecidableEq

namespace Notice

/-- Is the slot connected after the notice? -/
def next (connected : Bool) : Notice → Bool
  | .connected => true
  | .disconnected => false
  | _ => connected

/-- A slot is only connected when it is not, and nothing else happens to it then. -/
def Fits (connected : Bool) : Notice → Prop
  | .connected => connected = false
  | _ => connected = true

/-- Connected and disconnected alternate from a connected on, the rest lies between them. -/
def WellFormed (notices : List Notice) : Prop :=
  Always next Fits false notices

theorem wellFormed_concat {notices : List Notice} {notice : Notice} :
    WellFormed (notices ++ [notice]) ↔
      WellFormed notices ∧ notice.Fits (run next false notices) := by
  rw [WellFormed, Machine.always_append, Machine.always_one]
  rfl

end Notice

/-- A line as a consumer reads it. -/
def readNotice? (line : List Char) : Option (Fin maxSlots × Notice) :=
  ((jsonGetInt line "slot").bind bridgeSlot?).bind fun s =>
    if jsonHasType line "connected" then some (s, .connected)
    else if jsonHasType line "disconnected" then some (s, .disconnected)
    else if jsonHasType line "guide" then some (s, .guide)
    else if jsonHasType line "input" then some (s, .input)
    else none

/-- The line a datagram consists of. -/
def Datagram.line (d : Datagram) : List Char :=
  d.text.takeWhile fun c => !Bridge.lineEnd c

/-- The notices about a slot, in the order they were sent. -/
def noticesOf (s : Fin maxSlots) (datagrams : List Datagram) : List Notice :=
  datagrams.reverse.filterMap fun d =>
    (readNotice? d.line).bind fun notice => if notice.1 = s then some notice.2 else none

theorem noticesOf_cons (s : Fin maxSlots) (d : Datagram) (older : List Datagram) :
    noticesOf s (d :: older) = noticesOf s older ++
      ((readNotice? d.line).bind fun notice =>
        if notice.1 = s then some notice.2 else none).toList := by
  rw [noticesOf, List.reverse_cons, List.filterMap_append, List.filterMap_cons, List.filterMap_nil]
  split
  next hnone => rw [hnone]; rfl
  next hsome => rw [hsome]; rfl

/-! ## Pad events -/

def PadEvent.notice : PadEvent → Notice
  | .connect => .connected
  | .disconnect => .disconnected
  | .input _ => .input
  | .guide _ => .guide

/-- The text of an event reads as its notice. -/
theorem readNotice?_text (s : Fin maxSlots) (event : PadEvent) :
    readNotice? (event.text s) = some (s, event.notice) := by
  cases event with
  | connect =>
      obtain ⟨htype, hslot⟩ := connectedEvent_read s
      simp only [readNotice?, PadEvent.text, hslot, Option.bind_some, Bridge.bridgeSlot?_val, htype,
        if_true]
      rfl
  | disconnect =>
      obtain ⟨hother, htype, hslot⟩ := disconnectedEvent_read s
      simp only [readNotice?, PadEvent.text, hslot, Option.bind_some, Bridge.bridgeSlot?_val,
        hother, htype, Bool.false_eq_true, if_false, if_true]
      rfl
  | input g =>
      obtain ⟨htype, hothers⟩ := inputEvent_types s g
      have hslot : jsonGetInt (inputEvent (UInt8.ofNat s) g) "slot" = some (s.val : Int) :=
        inputEvent_getInt s g (by decide)
      simp only [readNotice?, PadEvent.text, hslot, Option.bind_some, Bridge.bridgeSlot?_val,
        hothers "connected" (by decide), hothers "disconnected" (by decide),
        hothers "guide" (by decide), htype, Bool.false_eq_true, if_false, if_true]
      rfl
  | guide pressed =>
      obtain ⟨hconnected, hdisconnected, htype, hslot, -⟩ := guideEvent_read s pressed
      simp only [readNotice?, PadEvent.text, hslot, Option.bind_some, Bridge.bridgeSlot?_val,
        hconnected, hdisconnected, htype, Bool.false_eq_true, if_false, if_true]
      rfl

/-- A sendable text is the line of its datagram. -/
theorem line_sent {text : List Char} (hsendable : Sendable text)
    (slots : Fin maxSlots → Slot) : Datagram.line ⟨text.take 318 ++ ['\n'], slots⟩ = text := by
  obtain ⟨hplain, -, hlength⟩ := hsendable
  rw [Datagram.line, List.take_of_length_le hlength, List.takeWhile_append_of_pos]
  · exact List.append_nil _
  · intro c hc
    rw [(hplain c hc).2]
    rfl

/-! ## What the daemon's handlers announce -/

/-- A pad of which the guide button is reported is in use. -/
def Pad.InUse (pad : Pad) (event : PadEvent) : Prop :=
  ∀ pressed, event = .guide pressed → pad.active = true

/-- What is told of a pad fits its activity, unless it is the guide button of an idle pad. -/
theorem Pad.fits_iff {pad : Pad} {event : PadEvent} (htells : pad.tells event = true) :
    event.notice.Fits pad.active ↔ pad.InUse event := by
  cases event with
  | connect =>
      rw [Pad.tells, Bool.not_eq_true'] at htells
      exact iff_of_true htells fun _ hguide => by cases hguide
  | disconnect => exact iff_of_true htells fun _ hguide => by cases hguide
  | input g => exact iff_of_true htells fun _ hguide => by cases hguide
  | guide pressed => exact ⟨fun hactive _ _ => hactive, fun huse => huse pressed rfl⟩

theorem Pad.apply_active_next (pad : Pad) (event : PadEvent) :
    (pad.apply event).active = event.notice.next pad.active := by
  rw [Pad.apply_active]
  cases event <;> rfl

/-- The streams of all slots are well formed. -/
def Pads.WellFormed (pads : Pads) : Prop :=
  ∀ s, Notice.WellFormed (noticesOf s pads.datagrams)

/-- A slot is in use if the last connected has no disconnected after it. -/
def Pads.Announced (pads : Pads) : Prop :=
  ∀ s, run Notice.next false (noticesOf s pads.datagrams) = (pads.view s).active

section

variable (host : Host)

/-- One handler adds at most one notice, to the stream of its slot. -/
theorem handle_notices (pads : Pads) (s : Fin maxSlots) (event : PadEvent) (r : Fin maxSlots) :
    noticesOf r (pads.handle host true (s, event)).datagrams =
      noticesOf r pads.datagrams ++
        if r = s ∧ (pads.view s).tells event = true then [event.notice] else [] := by
  have htold := handle_told host pads s event
  cases htells : (pads.view s).tells event with
  | false =>
      rw [htells, if_neg Bool.false_ne_true] at htold
      rw [htold, if_neg (fun hboth => Bool.false_ne_true hboth.2), List.append_nil]
  | true =>
      rw [htells, if_pos rfl] at htold
      rw [htold, noticesOf_cons, line_sent (event.text_sendable s), readNotice?_text,
        Option.bind_some]
      by_cases hr : r = s
      · rw [if_pos hr.symm, if_pos ⟨hr, rfl⟩]
        rfl
      · rw [if_neg (Ne.symm hr), if_neg fun hboth => hr hboth.1]
        rfl

variable {pads : Pads}

theorem Pads.Announced.handle (hannounced : pads.Announced) (call : Fin maxSlots × PadEvent) :
    (pads.handle host true call).Announced := by
  obtain ⟨s, event⟩ := call
  intro r
  rw [handle_notices, view_handle, Machine.run_append, hannounced r]
  by_cases hr : r = s
  · subst hr
    rw [Function.update_self, Pad.apply_active_next]
    cases htells : (pads.view r).tells event with
    | true =>
        rw [if_pos ⟨rfl, rfl⟩]
        rfl
    | false =>
        -- what is not told changes nothing
        rw [if_neg fun hboth => Bool.false_ne_true hboth.2, Machine.run_nil]
        cases event with
        | connect =>
            rw [Pad.tells, Bool.not_eq_false'] at htells
            exact htells
        | disconnect => exact htells
        | input g => rfl
        | guide pressed => rfl
  · rw [if_neg fun hboth => hr hboth.1, Machine.run_nil, Function.update_of_ne hr]

theorem wellFormed_before (call : Fin maxSlots × PadEvent)
    (hlater : (pads.handle host true call).WellFormed) : pads.WellFormed := by
  obtain ⟨s, event⟩ := call
  intro r
  have hr := hlater r
  rw [handle_notices, Notice.WellFormed, Machine.always_append] at hr
  exact hr.1

theorem handle_wellFormed_iff (hannounced : pads.Announced) (hgood : pads.WellFormed)
    (call : Fin maxSlots × PadEvent) :
    (pads.handle host true call).WellFormed ↔ (pads.view call.1).InUse call.2 := by
  obtain ⟨s, event⟩ := call
  have hkept {r : Fin maxSlots} (hnot : ¬(r = s ∧ (pads.view s).tells event = true)) :
      Notice.WellFormed (noticesOf r (pads.handle host true (s, event)).datagrams) := by
    rw [handle_notices, if_neg hnot, List.append_nil]
    exact hgood r
  cases htells : (pads.view s).tells event with
  | false =>
      refine iff_of_true (fun r => hkept fun hboth => ?_) fun pressed hguide => ?_
      · exact Bool.false_ne_true (htells.symm.trans hboth.2)
      · have hguide : event = .guide pressed := hguide
        rw [hguide] at htells
        cases htells
  | true =>
      rw [← Pad.fits_iff htells, ← hannounced s]
      have hsame : Notice.WellFormed (noticesOf s (pads.handle host true (s, event)).datagrams) ↔
          event.notice.Fits (run Notice.next false (noticesOf s pads.datagrams)) := by
        rw [handle_notices, if_pos ⟨rfl, htells⟩, Notice.wellFormed_concat]
        exact and_iff_right (hgood s)
      constructor
      · exact fun hall => hsame.mp (hall s)
      · intro hfits r
        by_cases hr : r = s
        · exact hr ▸ hsame.mpr hfits
        · exact hkept fun hboth => hr hboth.1

end

/-! ## Steps -/

/-- A GIP guide button frame with its payload. -/
def RxFrame.IsGuide (frame : RxFrame) : Prop :=
  frame.gipCommand? = some gipCmdGuideBtn ∧
    (gipHeader (frame.pl.drop 4)).plen (frame.payloadLen - 8) ≥ 1

instance (frame : RxFrame) : Decidable frame.IsGuide :=
  inferInstanceAs (Decidable (_ ∧ _))

theorem gipEvent_guide (gip : List UInt8) (gipLen : Int) :
    (∃ pressed, gipEvent gip gipLen = .pad (.guide pressed)) ↔
      (gipHeader gip).command = gipCmdGuideBtn ∧ (gipHeader gip).plen (gipLen - 4) ≥ 1 := by
  by_cases hcommand : (gipHeader gip).command = gipCmdGuideBtn
  · have hothers : ¬gipCmdGuideBtn = gipCmdCtrlAdded ∧ ¬gipCmdGuideBtn = gipCmdCtrlLost ∧
        ¬gipCmdGuideBtn = gipCmdAnnounce ∧ ¬gipCmdGuideBtn = gipCmdStatus ∧
        ¬gipCmdGuideBtn = gipCmdInput ∧ ¬gipCmdGuideBtn = gipCmdInputOverflow := by decide
    obtain ⟨hadded, hlost, hannounce, hstatus, hinput, hoverflow⟩ := hothers
    simp only [gipEvent, hcommand, if_neg hadded, if_neg hlost, if_neg hannounce, if_neg hstatus,
      hinput, hoverflow, or_self, if_false, if_true, true_and]
    split
    next hlong => exact iff_of_true ⟨_, rfl⟩ hlong
    next hshort => exact iff_of_false (by simp) hshort
  · refine iff_of_false (fun hsome => ?_) fun hboth => hcommand hboth.1
    obtain ⟨pressed, hguide⟩ := hsome
    simp only [gipEvent, if_neg hcommand] at hguide
    split at hguide
    · cases hguide
    split at hguide
    · cases hguide
    split at hguide
    · split at hguide <;> cases hguide
    split at hguide
    · cases hguide
    split at hguide
    · split at hguide <;> cases hguide
    · cases hguide

theorem RxFrame.gip_guide (frame : RxFrame) :
    (∃ pressed, frame.gip.event = .pad (.guide pressed)) ↔ frame.IsGuide := by
  rcases frame.gip_read with ⟨hevent, hnone⟩ | ⟨hevent, hsome⟩
  · simp [RxFrame.IsGuide, hevent, hnone]
  · have hguide := gipEvent_guide (frame.pl.drop 4) (frame.payloadLen - 4)
    have hlength : frame.payloadLen - 4 - 4 = frame.payloadLen - 8 := by omega
    rw [hlength] at hguide
    simp only [RxFrame.IsGuide, hevent, hsome, Option.some.injEq]
    exact hguide

/-- A guide button frame comes from a controller that owns an active slot, or is its first
contact, or its sender has no slot at all. -/
def GuideInUse (daemon : Daemon) (step : Step) : Prop :=
  ∀ frame, step.data? daemon.air.ourMac = some frame → frame.IsGuide →
    (padOf? (daemon.table.entry frame.src)).isSome →
    daemon.FirstContact frame.src ∨ daemon.Owns frame.src

section

variable (host : Host)

/-- Pads in use wherever the guide button is reported, one event after the other. -/
def AllInUse (pads : Pads) (calls : List (Fin maxSlots × PadEvent)) : Prop :=
  Always (Pads.handle host true) (fun pads call => (pads.view call.1).InUse call.2) pads calls

section

variable {host : Host} {pads : Pads}

theorem allInUse_append {first second : List (Fin maxSlots × PadEvent)} :
    AllInUse host pads (first ++ second) ↔
      AllInUse host pads first ∧
        AllInUse host (run (Pads.handle host true) pads first) second :=
  Machine.always_append

theorem allInUse_one {s : Fin maxSlots} {event : PadEvent} :
    AllInUse host pads [(s, event)] ↔ (pads.view s).InUse event :=
  Machine.always_one

/-- Only the guide button asks for a pad in use. -/
theorem allInUse_other {s : Fin maxSlots} {event : PadEvent}
    (hother : ∀ pressed, event ≠ .guide pressed) : AllInUse host pads [(s, event)] :=
  allInUse_one.mpr fun pressed hguide => absurd hguide (hother pressed)

end

/-- First contacts connect, and report nothing else. -/
theorem attachEvents_inUse (table : PeerTable) (pads : Pads) (mac : Mac) :
    AllInUse host pads (table.attachEvents mac) := by
  unfold PeerTable.attachEvents
  split
  · exact Machine.always_nil
  split
  · exact Machine.always_nil
  · exact allInUse_other fun _ hguide => by cases hguide

variable {daemon : Daemon} {mac : Mac} {s : Fin maxSlots}

/-- A first contact leaves the sender's pad in use. -/
theorem attachEvents_active (hpad : padOf? (daemon.table.entry mac) = some s) :
    ((run (Pads.handle host true) daemon.pads (daemon.table.attachEvents mac)).view s).active =
      (!((daemon.table.register mac).peers (daemon.table.entry mac)).handshakeDone ||
        (daemon.pads.view s).active) := by
  simp only [PeerTable.attachEvents, hpad]
  cases ((daemon.table.register mac).peers (daemon.table.entry mac)).handshakeDone with
  | true => rfl
  | false =>
      simp only [Bool.false_eq_true, if_false, Machine.run_cons, Machine.run_nil, view_handle,
        Function.update_self, Pad.apply_active]
      rfl

omit host in
/-- The same in terms of the sender. -/
theorem firstContact_or_owns (hwf : daemon.table.WF)
    (hpad : padOf? (daemon.table.entry mac) = some s) :
    (!((daemon.table.register mac).peers (daemon.table.entry mac)).handshakeDone ||
        (daemon.pads.view s).active) = true ↔ daemon.FirstContact mac ∨ daemon.Owns mac := by
  cases hdone : ((daemon.table.register mac).peers (daemon.table.entry mac)).handshakeDone with
  | false => exact iff_of_true rfl (Or.inl ⟨Option.isSome_of_eq_some hpad, hdone⟩)
  | true =>
      have hslot := hwf.slotOf?_contacted hpad hdone
      constructor
      · exact fun hactive => Or.inr ⟨s, hslot, hactive⟩
      · intro hcontact
        rcases hcontact with hfirst | ⟨r, hr, hactive⟩
        · exact absurd (hfirst.2.symm.trans hdone) Bool.false_ne_true
        · rw [hslot, Option.some.injEq] at hr
          exact hr ▸ hactive

/-- The events of a data frame report the guide button of an idle pad only as a guide button frame
of a known sender that does not own an active slot. -/
theorem data_inUse_iff (hwf : daemon.table.WF) (frame : GipFrame) :
    AllInUse host daemon.pads (daemon.table.padEvents (.data mac frame)) ↔
      ((∃ pressed, frame.event = .pad (.guide pressed)) →
        (padOf? (daemon.table.entry mac)).isSome → daemon.FirstContact mac ∨ daemon.Owns mac) := by
  rw [PeerTable.padEvents, allInUse_append,
    and_iff_right (attachEvents_inUse host daemon.table daemon.pads mac)]
  cases hpad : padOf? (daemon.table.entry mac) with
  | none =>
      simp only [PeerTable.gipEvents, hpad]
      exact iff_of_true Machine.always_nil fun _ hsome => absurd hsome Bool.false_ne_true
  | some s =>
      rw [← firstContact_or_owns hwf hpad, ← attachEvents_active host hpad]
      simp only [PeerTable.gipEvents, hpad]
      cases frame.event with
      | pad event =>
          rw [allInUse_one]
          constructor
          · intro huse hguide _
            obtain ⟨pressed, hguide⟩ := hguide
            exact huse pressed (GipEvent.pad.inj hguide)
          · intro hactive pressed hguide
            exact hactive ⟨pressed, congrArg GipEvent.pad hguide⟩ rfl
      | announce => exact iff_of_true Machine.always_nil (by simp)
      | other => exact iff_of_true Machine.always_nil (by simp)

/-- The pad events of a step all find their pads in use if its guide button frame does. -/
theorem padEvents_inUse_iff (hwf : daemon.table.WF) (env : Env) (step : Step) :
    AllInUse host daemon.pads (daemon.table.padEvents (step.stimulus env daemon.air.ourMac)) ↔
      GuideInUse daemon step := by
  -- a step without a data frame asks for nothing
  have hvacuous {stimulus : Stimulus}
      (hstimulus : step.stimulus env daemon.air.ourMac = stimulus)
      (hother : ∀ mac gip, stimulus ≠ .data mac gip) : GuideInUse daemon step := by
    intro frame hframe
    apply absurd hstimulus
    rw [Step.stimulus_data_iff.mpr ⟨frame, hframe, rfl, rfl⟩]
    exact (hother frame.src frame.gip).symm
  cases hstimulus : step.stimulus env daemon.air.ourMac with
  | data mac gip =>
      obtain ⟨frame, hframe, rfl, rfl⟩ := Step.stimulus_data_iff.mp hstimulus
      rw [data_inUse_iff host hwf, frame.gip_guide]
      constructor
      · intro huse sender hsender
        rw [hframe, Option.some.injEq] at hsender
        exact hsender ▸ huse
      · exact fun huse => huse frame hframe
  | action mac =>
      have hattach := attachEvents_inUse host daemon.table daemon.pads mac
      exact iff_of_true hattach (hvacuous hstimulus (by simp))
  | lost s =>
      have hlost : AllInUse host daemon.pads [(s, .disconnect)] :=
        allInUse_other fun _ hguide => by cases hguide
      exact iff_of_true hlost (hvacuous hstimulus (by simp))
  | quiet => exact iff_of_true Machine.always_nil (hvacuous hstimulus (by simp))
  | register mac => exact iff_of_true Machine.always_nil (hvacuous hstimulus (by simp))
  | associate mac reassoc => exact iff_of_true Machine.always_nil (hvacuous hstimulus (by simp))

end

/-! ## Runs -/

section

variable (world : World)

/-- The state between steps. -/
structure Announces (daemon : Daemon) : Prop where
  wf : daemon.table.WF
  announced : daemon.pads.Announced

variable (heventUdp : world.eventUdp = true)

include heventUdp

theorem Announces.step {daemon : Daemon} (hannounces : Announces daemon) (step : Step) :
    Announces (daemon.step world step) := by
  obtain ⟨hwf, hannounced⟩ := hannounces
  refine ⟨step_wf world hwf step, ?_⟩
  rw [step_pads world hwf, heventUdp]
  exact Machine.run_invariant Pads.Announced
    (fun _ call hannounced => hannounced.handle world.host call) hannounced _

theorem step_wellFormed_before {daemon : Daemon} (hannounces : Announces daemon) (step : Step)
    (hlater : (daemon.step world step).pads.WellFormed) : daemon.pads.WellFormed := by
  rw [step_pads world hannounces.wf, heventUdp] at hlater
  exact Machine.run_back Pads.WellFormed Pads.Announced
    (fun _ call hannounced => hannounced.handle world.host call)
    (fun _ call _ => wellFormed_before world.host call) hannounces.announced hlater

theorem step_wellFormed_iff {daemon : Daemon} (hannounces : Announces daemon)
    (hgood : daemon.pads.WellFormed) (step : Step) :
    (daemon.step world step).pads.WellFormed ↔ GuideInUse daemon step := by
  rw [step_pads world hannounces.wf, heventUdp,
    ← padEvents_inUse_iff world.host hannounces.wf world.env]
  exact Machine.run_iff_always Pads.WellFormed Pads.Announced
    (fun _ call hannounced => hannounced.handle world.host call)
    (fun _ call _ => wellFormed_before world.host call)
    (fun _ call hannounced hgood => handle_wellFormed_iff world.host hannounced hgood call)
    hannounces.announced hgood _

/-- Start-up tells of no slot. -/
theorem boots_notices {boot : Daemon} (hboot : Boots world boot) (s : Fin maxSlots) :
    noticesOf s boot.pads.datagrams = [] := by
  obtain ⟨-, hsent⟩ := boots_streams world heventUdp hboot
  rcases hsent with hnone | hone
  · rw [hnone]
    rfl
  · have hread : readNotice? hidUnavailableEvent = none := by decide
    rw [hone, noticesOf_cons, line_sent hidUnavailableEvent_sendable, hread]
    rfl

/-- With UDP events enabled the event streams of a run are well formed if and only if every guide
button frame comes from a controller that owns an active slot, as its first contact, or from a
station that has no slot. -/
theorem streams_wellFormed_iff {boot : Daemon} (hboot : Boots world boot) (steps : List Step) :
    (run (Daemon.step world) boot steps).pads.WellFormed ↔
      Always (Daemon.step world) GuideInUse boot steps := by
  have hsilent := boots_notices world heventUdp hboot
  have hstart : Announces boot := by
    refine ⟨boots_wf world hboot, fun s => ?_⟩
    rw [hsilent s, Pads.view, boots_slots world hboot]
    rfl
  have hgood : boot.pads.WellFormed := by
    intro s
    rw [hsilent s]
    exact Machine.always_nil
  exact Machine.run_iff_always (fun daemon : Daemon => daemon.pads.WellFormed) Announces
    (fun _ step hannounces => hannounces.step world heventUdp step)
    (fun _ step hannounces => step_wellFormed_before world heventUdp hannounces step)
    (fun _ step hannounces hgood => step_wellFormed_iff world heventUdp hannounces hgood step)
    hstart hgood steps

end

/-- A controller connects, presses its guide button and is lost. -/
theorem streams_wellFormed_iff_pressed :
    (run (Daemon.step (udpWorld plainRom)) udpBoot
        [addedStep, guideStep, removedStep]).pads.WellFormed ↔
      Always (Daemon.step (udpWorld plainRom)) GuideInUse udpBoot
        [addedStep, guideStep, removedStep] :=
  streams_wellFormed_iff (udpWorld plainRom) rfl udpBoot_boots _

/-- Lost first, it presses the button while its slot is disconnected. -/
theorem guide_after_disconnect :
    (udpWorld plainRom).eventUdp = true ∧ Boots (udpWorld plainRom) udpBoot ∧
      ¬(run (Daemon.step (udpWorld plainRom)) udpBoot
        [addedStep, removedStep, guideStep]).pads.WellFormed := by
  refine ⟨rfl, udpBoot_boots, fun hgood => ?_⟩
  have hnotices : noticesOf 0 (run (Daemon.step (udpWorld plainRom)) udpBoot
      [addedStep, removedStep, guideStep]).pads.datagrams =
        [.connected, .disconnected, .guide] := by decide +kernel
  have hslot := hgood 0
  rw [hnotices, Notice.WellFormed] at hslot
  exact Bool.false_ne_true (hslot [.connected, .disconnected] .guide [] rfl)

end XoneDarwin
