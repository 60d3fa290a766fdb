import XoneDarwin.Daemon.Refinement

/-!
# Stimuli and the transfers behind them

Which frames and events a stimulus of the session machine comes from, and which
GIP commands its events stand for.
-/

namespace XoneDarwin

/-! ## GIP commands -/

/-- The GIP command of a data frame that is long enough to carry one. -/
def RxFrame.gipCommand? (frame : RxFrame) : Option UInt8 :=
  if frame.payloadLen ≥ 8 then some (byteAt frame.pl 4) else none

/-- Other commands neither connect nor disconnect. -/
theorem gipEvent_neither {gip : List UInt8} (gipLen : Int)
    (hadded : (gipHeader gip).command ≠ gipCmdCtrlAdded)
    (hlost : (gipHeader gip).command ≠ gipCmdCtrlLost) :
    gipEvent gip gipLen ≠ .pad .connect ∧ gipEvent gip gipLen ≠ .pad .disconnect := by
  simp only [gipEvent, if_neg hadded, if_neg hlost]
  split
  · split <;> simp
  split
  · simp
  split
  · split <;> simp
  split
  · split <;> simp
  · simp

/-- The command decides whether the event of a frame is a connect or a disconnect. -/
theorem gipEvent_command (gip : List UInt8) (gipLen : Int) :
    (gipEvent gip gipLen = .pad .connect ↔ (gipHeader gip).command = gipCmdCtrlAdded) ∧
      (gipEvent gip gipLen = .pad .disconnect ↔ (gipHeader gip).command = gipCmdCtrlLost) := by
  by_cases hadded : (gipHeader gip).command = gipCmdCtrlAdded
  · have hother : ¬gipCmdCtrlAdded = gipCmdCtrlLost := by decide
    simp [gipEvent, hadded, hother]
  by_cases hlost : (gipHeader gip).command = gipCmdCtrlLost
  · have hother : ¬gipCmdCtrlLost = gipCmdCtrlAdded := by decide
    simp [gipEvent, hlost, hother]
  obtain ⟨hconnect, hdisconnect⟩ := gipEvent_neither gipLen hadded hlost
  exact ⟨iff_of_false hconnect hadded, iff_of_false hdisconnect hlost⟩

/-- The packet in a frame is read if the frame is long enough for it, and starts with the
command. -/
theorem RxFrame.gip_read (frame : RxFrame) :
    frame.gip.event = .other ∧ frame.gipCommand? = none ∨
      frame.gip.event = gipEvent (frame.pl.drop 4) (frame.payloadLen - 4) ∧
        frame.gipCommand? = some (gipHeader (frame.pl.drop 4)).command := by
  simp only [RxFrame.gip, readGip, RxFrame.gipCommand?]
  by_cases hshort : frame.payloadLen - 4 < 4
  · rw [if_pos hshort, if_neg (by omega)]
    exact Or.inl ⟨rfl, rfl⟩
  · have hcommand : (gipHeader (frame.pl.drop 4)).command = byteAt frame.pl 4 :=
      byteAt_drop frame.pl 4 0
    rw [if_neg hshort, if_pos (by omega), hcommand]
    exact Or.inr ⟨rfl, rfl⟩

theorem RxFrame.gip_event (frame : RxFrame) :
    (frame.gip.event = .pad .connect ↔ frame.gipCommand? = some gipCmdCtrlAdded) ∧
      (frame.gip.event = .pad .disconnect ↔ frame.gipCommand? = some gipCmdCtrlLost) := by
  rcases frame.gip_read with ⟨hevent, hnone⟩ | ⟨hevent, hsome⟩
  · simp [hevent, hnone]
  · simp only [hevent, hsome, Option.some.injEq]
    exact gipEvent_command (frame.pl.drop 4) (frame.payloadLen - 4)

/-- A request-type ANNOUNCE of device 0. -/
def RxFrame.IsAnnounce (frame : RxFrame) : Prop :=
  frame.gipCommand? = some gipCmdAnnounce ∧ byteAt frame.pl 5 &&& 0x0f = 0 ∧
    (byteAt frame.pl 5 >>> 4) &&& 0x0f = gipTypeRequest

instance (frame : RxFrame) : Decidable frame.IsAnnounce :=
  inferInstanceAs (Decidable (_ ∧ _))

theorem gipEvent_announce (gip : List UInt8) (gipLen : Int) :
    gipEvent gip gipLen = .announce ↔
      (gipHeader gip).command = gipCmdAnnounce ∧ (gipHeader gip).deviceId = 0 ∧
        (gipHeader gip).frameType = gipTypeRequest := by
  by_cases hcommand : (gipHeader gip).command = gipCmdAnnounce
  · have hadded : ¬gipCmdAnnounce = gipCmdCtrlAdded := by decide
    have hlost : ¬gipCmdAnnounce = gipCmdCtrlLost := by decide
    simp [gipEvent, hcommand, hadded, hlost]
  · refine iff_of_false ?_ fun hannounce => hcommand hannounce.1
    simp only [gipEvent, if_neg hcommand]
    split
    · simp
    split
    · simp
    split
    · simp
    split
    · split <;> simp
    split
    · split <;> simp
    · simp

theorem RxFrame.gip_announce (frame : RxFrame) :
    frame.gip.event = .announce ↔ frame.IsAnnounce := by
  rcases frame.gip_read with ⟨hevent, hnone⟩ | ⟨hevent, hsome⟩
  · simp [RxFrame.IsAnnounce, hevent, hnone]
  · have hclient : (gipHeader (frame.pl.drop 4)).client = byteAt frame.pl 5 :=
      byteAt_drop frame.pl 4 1
    rw [RxFrame.IsAnnounce, hevent, hsome, Option.some.injEq, ← hclient]
    exact gipEvent_announce (frame.pl.drop 4) (frame.payloadLen - 4)

/-! ## Frames -/

/-- Which frames are data, -/
theorem RxFrame.stimulus_eq_data {frame : RxFrame} {ourMac mac : Mac} {gip : GipFrame} :
    frame.stimulus ourMac = .data mac gip ↔
      frame.QosData ourMac ∧ frame.src = mac ∧ frame.gip = gip := by
  by_cases hdata : frame.QosData ourMac
  · rw [RxFrame.stimulus_data hdata]
    simp [hdata]
  · simp only [hdata, false_and, iff_false, RxFrame.stimulus, if_false]
    split
    · simp
    split
    · split <;> simp
    split
    · simp
    split
    · simp
    split <;> simp

/-- and which are requests for an association. -/
theorem RxFrame.stimulus_eq_associate {frame : RxFrame} {ourMac mac : Mac} {reassoc : Bool} :
    frame.stimulus ourMac = .associate mac reassoc ↔
      frame.Mgmt (if reassoc then 2 else 0) ourMac ∧ frame.src = mac := by
  constructor
  · simp only [RxFrame.stimulus]
    split
    · simp
    split
    · simp
    split
    · split <;> simp
    split
    · simp
    split
    next hassoc =>
      rintro ⟨⟩
      exact ⟨hassoc, rfl⟩
    split
    next hreassoc =>
      rintro ⟨⟩
      exact ⟨hreassoc, rfl⟩
    · simp
  · rintro ⟨hmgmt, rfl⟩
    have hother {subtype : UInt8} (hne : subtype ≠ if reassoc then 2 else 0) :
        ¬frame.Mgmt subtype ourMac := hmgmt.unique hne.symm
    have haction : ¬(frame.IsXboxAction ∧ frame.ToUs ourMac) :=
      fun hfirst => hother (by cases reassoc <;> decide) (hfirst.1.mgmt hfirst.2)
    rw [RxFrame.stimulus, if_neg hmgmt.not_data, if_neg haction,
      if_neg (hother (by cases reassoc <;> decide)), if_neg (hother (by cases reassoc <;> decide))]
    cases reassoc with
    | false => exact if_pos hmgmt
    | true => rw [if_neg (hother (by decide)), if_pos (show frame.Mgmt 2 ourMac from hmgmt)]

/-! ## Events of the dongle -/

/-- `EVT_CLIENT_LOST` for a WCID, whether or not the daemon acts on it. -/
def Transfer.ReportsLost (t : Transfer) (wcid : UInt8) : Prop :=
  infoType (load32 t.bytes) = 1 ∧ infoPort (load32 t.bytes) = 1 ∧
    eventType (load32 t.bytes) = 0x0e ∧ byteAt t.bytes 4 = wcid

instance (t : Transfer) (wcid : UInt8) : Decidable (t.ReportsLost wcid) :=
  inferInstanceAs (Decidable (_ ∧ _))

/-- A lost-client event is no WLAN frame. -/
theorem Transfer.ReportsLost.not_frame {t : Transfer} {wcid : UInt8} (hlost : t.ReportsLost wcid) :
    rxFrame? t = none := by
  refine if_neg fun hframe => ?_
  rcases hframe.1 with ⟨htype, -⟩ | ⟨-, -, hevent⟩
  · rw [hlost.1] at htype
    exact absurd htype (by decide)
  · rw [hlost.2.2.1] at hevent
    exact absurd hevent (by decide)

/-- What is not a frame is a stimulus only as a lost-client event. -/
theorem Transfer.stimulus_event (env : Env) (ourMac : Mac) {t : Transfer}
    (hframe : rxFrame? t = none) :
    t.stimulus env ourMac = .quiet ∨
      ∃ wcid s, t.ReportsLost wcid ∧ wcid.toNat = s.val + 1 ∧ t.stimulus env ourMac = .lost s := by
  simp only [Transfer.stimulus, hframe]
  split
  · exact Or.inl rfl
  split
  next lostWcid hlost =>
    split
    next hrange =>
      split
      next s hs =>
        refine Or.inr ⟨lostWcid, s, ?_, ?_, rfl⟩
        · simp only [clientLost?] at hlost
          split at hlost
          next hevent =>
            obtain ⟨htype, hport, -, hkind, -⟩ := hevent
            exact ⟨htype, hport, hkind, Option.some.inj hlost⟩
          next => cases hlost
        · have hval := slotIdx?_val hs
          have hlow := UInt8.lt_iff_toNat_lt.mp hrange.1
          have hzero : (0 : UInt8).toNat = 0 := rfl
          have hone : (1 : UInt8).toNat = 1 := rfl
          rw [UInt8.toNat_sub_of_le _ _ (by rw [UInt8.le_iff_toNat_le]; omega)] at hval
          omega
      next => exact Or.inl rfl
    next => exact Or.inl rfl
  next => exact Or.inl rfl

/-! ## Steps -/

/-- The frame a step delivers from `mac`. -/
def Step.frameFrom? (mac : Mac) : Step → Option RxFrame
  | .transfer _ t => (rxFrame? t).filter fun frame => frame.src = mac
  | .housekeeping _ _ => none

theorem Step.frameFrom?_src {mac : Mac} {frame : RxFrame} (step : Step)
    (hframe : step.frameFrom? mac = some frame) : frame.src = mac := by
  cases step with
  | housekeeping now scanNow => cases hframe
  | transfer now t => exact of_decide_eq_true (Option.filter_eq_some_iff.mp hframe).2

/-- A stimulus that comes with a frame of `mac` comes from it. -/
theorem Step.stimulus_eq_iff {env : Env} {mac ourMac : Mac} {step : Step} {target : Stimulus}
    (hquiet : target ≠ .quiet) (hlost : ∀ s, target ≠ .lost s)
    (hsender : ∀ frame : RxFrame, frame.stimulus ourMac = target → frame.src = mac) :
    step.stimulus env ourMac = target ↔
      ∃ frame, step.frameFrom? mac = some frame ∧ frame.stimulus ourMac = target := by
  cases step with
  | housekeeping now scanNow => simp [Step.stimulus, Step.frameFrom?, hquiet.symm]
  | transfer now t =>
      cases hframe : rxFrame? t with
      | some frame =>
          simp only [Step.stimulus, Transfer.stimulus_frame hframe, Step.frameFrom?, hframe]
          constructor
          · intro htarget
            exact ⟨frame, by simp [hsender frame htarget], htarget⟩
          · intro hreports
            obtain ⟨found, hfound, htarget⟩ := hreports
            obtain ⟨hsame, -⟩ := Option.filter_eq_some_iff.mp hfound
            rwa [Option.some.inj hsame]
      | none =>
          have hnone : (Step.transfer now t).frameFrom? mac = none := by
            simp only [Step.frameFrom?, hframe, Option.filter_none]
          refine iff_of_false (fun htarget => ?_) (by simp [hnone])
          rcases Transfer.stimulus_event env ourMac hframe with
            hnothing | ⟨-, gone, -, -, hgone⟩
          · exact hquiet (htarget.symm.trans hnothing)
          · exact hlost gone (htarget.symm.trans hgone)

/-- The data frame a step delivers. -/
def Step.data? (ourMac : Mac) : Step → Option RxFrame
  | .transfer _ t => (rxFrame? t).filter fun frame => frame.QosData ourMac
  | .housekeeping _ _ => none

theorem Step.data?_transfer {ourMac : Mac} {now : UInt64} {t : Transfer} {frame : RxFrame} :
    (Step.transfer now t).data? ourMac = some frame ↔
      rxFrame? t = some frame ∧ frame.QosData ourMac := by
  rw [Step.data?, Option.filter_eq_some_iff, decide_eq_true_eq]

/-- It is what makes the step a data stimulus. -/
theorem Step.stimulus_data_iff {env : Env} {ourMac mac : Mac} {step : Step} {gip : GipFrame} :
    step.stimulus env ourMac = .data mac gip ↔
      ∃ frame, step.data? ourMac = some frame ∧ frame.src = mac ∧ frame.gip = gip := by
  rw [Step.stimulus_eq_iff (by simp) (by simp)
    fun frame hstimulus => (RxFrame.stimulus_eq_data.mp hstimulus).2.1]
  cases step with
  | housekeeping now scanNow => simp [Step.frameFrom?, Step.data?]
  | transfer now t =>
      simp only [Step.data?_transfer, Step.frameFrom?, Option.filter_eq_some_iff,
        decide_eq_true_eq, RxFrame.stimulus_eq_data]
      constructor
      · intro hfrom
        obtain ⟨frame, ⟨hframe, hsrc⟩, hdata, -, hgip⟩ := hfrom
        exact ⟨frame, ⟨hframe, hdata⟩, hsrc, hgip⟩
      · intro hdelivers
        obtain ⟨frame, ⟨hframe, hdata⟩, hsrc, hgip⟩ := hdelivers
        exact ⟨frame, ⟨hframe, hsrc⟩, hdata, hsrc, hgip⟩

/-! ## Frames for others -/

section

variable (world : World) (now : UInt64)

theorem logAwdlIgnored_counters (air : Air) :
    ∃ ignored lastLog, logAwdlIgnored now air =
      { air with awdlIgnored := ignored, awdlLastLogMs := lastLog } := by
  unfold logAwdlIgnored
  split
  · exact ⟨0, now, rfl⟩
  · exact ⟨air.awdlIgnored + 1, air.awdlLastLogMs, rfl⟩

/-- A frame for somebody else gets past no handler but the log of ignored frames. -/
theorem handleFrame_foreign {frame : RxFrame} {daemon : Daemon}
    (hforeign : ¬frame.ToUs daemon.air.ourMac) :
    handleFrame world now frame daemon =
      if frame.IsXboxAction ∧ macIsAwdlBssid frame.bss then
        { daemon with air := logAwdlIgnored now daemon.air }
      else daemon := by
  have hdata : ¬frame.QosData daemon.air.ourMac := fun hdata => hforeign hdata.2.2.1
  have haction : ¬(frame.IsXboxAction ∧ frame.ToUs daemon.air.ourMac) :=
    fun haction => hforeign haction.2
  have hmgmt (subtype : UInt8) : ¬frame.Mgmt subtype daemon.air.ourMac :=
    fun hmgmt => hforeign hmgmt.2.2
  simp only [handleFrame, if_neg hdata, if_neg haction, if_neg (hmgmt _)]

/-- A WLAN frame whose destination and BSSID are not the daemon's changes nothing and sends
nothing: only the counters of the log of ignored frames may differ afterwards. -/
theorem foreign_frame_without_effect {t : Transfer} {frame : RxFrame} {daemon : Daemon}
    (hframe : rxFrame? t = some frame) (hdst : frame.dst ≠ daemon.air.ourMac)
    (hbss : frame.bss ≠ daemon.air.ourMac) :
    ∃ ignored lastLog, daemon.step world (.transfer now t) =
      { daemon with air :=
        { daemon.air with awdlIgnored := ignored, awdlLastLogMs := lastLog } } := by
  have hforeign : ¬frame.ToUs daemon.air.ourMac := fun htoUs => htoUs.elim hdst hbss
  have hstep : daemon.step world (.transfer now t) = handleFrame world now frame daemon :=
    handleTransfer_frame world now hframe daemon
  rw [hstep, handleFrame_foreign world now hforeign]
  split
  · obtain ⟨ignored, lastLog, hlog⟩ := logAwdlIgnored_counters now daemon.air
    exact ⟨ignored, lastLog, by rw [hlog]⟩
  · exact ⟨daemon.air.awdlIgnored, daemon.air.awdlLastLogMs, rfl⟩

end

/-- A neighbour's vendor action frame, seen by the daemon when it has just started. -/
theorem foreign_frame_without_effect_awdl :
    ∃ ignored lastLog, plainBoot.step (romWorld plainRom) (.transfer 7
        (wlanTransfer 0xd0 ⟨0x00, 0x25, 0x00, 1, 2, 3⟩ padMac
          [0x7f, 0x00, 0x17, 0xf2, 0x08] (by decide))) =
      { plainBoot with air :=
        { plainBoot.air with awdlIgnored := ignored, awdlLastLogMs := lastLog } } :=
  foreign_frame_without_effect (romWorld plainRom) 7 (rxFrame?_wlanTransfer _ _ _ _ _)
    (by rw [plainBoot_ourMac]; decide) (by rw [plainBoot_ourMac]; decide)

end XoneDarwin
