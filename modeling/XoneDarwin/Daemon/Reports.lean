import XoneDarwin.Daemon.Frames

/-!
# What is posted to the virtual gamepads

A report lives in its slot from handler to handler. Buttons and hat always stay within
what `kHIDDescriptor` declares; a trigger is whatever the controller sent, and the
layout heuristic of `on_input` lets more than the declared 1023 through.
-/

namespace XoneDarwin

open Machine (Always bitAt run)

/-- The logical ranges of `kHIDDescriptor`: 13 buttons, a hat of 0 to 7 or the null value 8, signed
sticks, triggers of 0 to 1023. -/
structure HidReport.Conforms (report : HidReport) : Prop where
  buttons : ∀ k, 13 ≤ k → bitAt report.buttons k = false
  hat : report.hat.toNat ≤ 7 ∨ report.hat = 8
  sticks : ∀ axis ∈ [report.lx, report.ly, report.rx, report.ry],
    -32768 ≤ axis.toInt ∧ axis.toInt ≤ 32767
  triggers : report.lt ≤ 1023 ∧ report.rt ≤ 1023

/-- Both triggers are within 0 to 1023. -/
def GipInput.InRange (g : GipInput) : Prop :=
  g.triggerL ≤ 1023 ∧ g.triggerR ≤ 1023

/-! ## Reports that conform -/

theorem sticks_conform (report : HidReport) :
    ∀ axis ∈ [report.lx, report.ly, report.rx, report.ry],
      -32768 ≤ axis.toInt ∧ axis.toInt ≤ 32767 := by
  intro axis _
  exact ⟨axis.le_toInt, Int.le_of_lt_add_one axis.toInt_lt⟩

theorem initial_conforms : HidReport.Conforms {} where
  buttons := fun k _ => Machine.bitAt_zero k
  hat := Or.inl (by decide)
  sticks := sticks_conform {}
  triggers := by decide

namespace HidReport.Conforms

variable {report : HidReport}

/-- A centred hat. -/
theorem centred (hreport : report.Conforms) : { report with hat := 8 }.Conforms where
  buttons := hreport.buttons
  hat := Or.inr rfl
  sticks := hreport.sticks
  triggers := hreport.triggers

theorem withGuide (hreport : report.Conforms) (pressed : Bool) :
    (report.withGuide pressed).Conforms where
  buttons := by
    intro k hk
    have hbit := hreport.buttons k hk
    cases pressed with
    | true =>
        have hguide : bitAt hidBtnGuide k = false := by
          refine (Machine.bitAt_bit (by decide) k).trans (decide_eq_false ?_)
          change ¬10 = k
          omega
        exact (Machine.bitAt_or _ _ k).trans (by rw [hbit, hguide]; rfl)
    | false => exact (Machine.bitAt_and _ _ k).trans (by rw [hbit]; rfl)
  hat := hreport.hat
  sticks := hreport.sticks
  triggers := hreport.triggers

end HidReport.Conforms

/-- A decoded report conforms exactly if its triggers are in range. -/
theorem gipToHid_conforms_iff (g : GipInput) (guide : Bool) :
    (gipToHid g guide).Conforms ↔ g.InRange := by
  refine ⟨fun hreport => hreport.triggers, fun hrange => ⟨?_, ?_, sticks_conform _, hrange⟩⟩
  · intro k hk
    have hbelow (j : Nat) (hj : j < 13) : decide (j = k) = false := decide_eq_false (by omega)
    simp (disch := decide) only [gipToHid_bitAt, hbelow, Bool.and_false, Bool.or_false]
  · have hle : (hatOf g.buttons).toNat ≤ 8 := hatOf_le g.buttons
    by_cases hnull : (hatOf g.buttons).toNat = 8
    · exact Or.inr (UInt8.toNat_inj.mp hnull)
    · exact Or.inl (by change (hatOf g.buttons).toNat ≤ 7; omega)

/-! ## Slots and the reports posted for them -/

/-- Every report handed to `IOHIDUserDeviceHandleReport` conforms. -/
def Pads.AllConform (pads : Pads) : Prop :=
  ∀ report, .report report ∈ pads.hid → report.Conforms

/-- What the slots hold between events: an idle slot has a conforming report and no gamepad, and a
slot with a gamepad holds what was posted for it. -/
structure Pads.Settled (pads : Pads) : Prop where
  idle : ∀ s, (pads.slots s).active = false →
    (pads.slots s).lastReport.Conforms ∧ (pads.slots s).hidDevice = false
  shown : pads.AllConform → ∀ s, (pads.slots s).hidDevice = true →
    (pads.slots s).lastReport.Conforms

/-- An input that is reported to a gamepad has its triggers in range. -/
def Pads.Fits (pads : Pads) (call : Fin maxSlots × PadEvent) : Prop :=
  ∀ g, call.2 = .input g → (pads.slots call.1).hidDevice = true → g.InRange

/-- One slot and some calls that post nothing. -/
theorem Pads.Settled.setSlot {pads after : Pads} (hsettled : pads.Settled) (s : Fin maxSlots)
    (slot : Slot) (hslots : after.slots = (pads.setSlot s slot).slots)
    (hgood : after.AllConform → pads.AllConform)
    (hidle : slot.active = false → slot.lastReport.Conforms ∧ slot.hidDevice = false)
    (hshown : after.AllConform → slot.hidDevice = true → slot.lastReport.Conforms) :
    after.Settled where
  idle := by
    intro t
    rw [hslots]
    by_cases ht : t = s
    · subst ht
      simpa [Pads.setSlot] using hidle
    · simpa [Pads.setSlot, ht] using hsettled.idle t
  shown := by
    intro hafter t
    rw [hslots]
    by_cases ht : t = s
    · subst ht
      simpa [Pads.setSlot] using hshown hafter
    · simpa [Pads.setSlot, ht] using hsettled.shown (hgood hafter) t

/-! ## The handlers -/

section

variable (host : Host) (eventUdp : Bool) (pads : Pads)

@[simp] theorem eventUdpSend_slots (message : List Char) :
    (eventUdpSend eventUdp message pads).slots = pads.slots := by
  unfold eventUdpSend
  split <;> rfl

@[simp] theorem eventUdpSend_hid (message : List Char) :
    (eventUdpSend eventUdp message pads).hid = pads.hid := by
  unfold eventUdpSend
  split <;> rfl

theorem createVirtualGamepad_slots (slot : UInt8) :
    (createVirtualGamepad host slot pads).2.slots = pads.slots := by
  simp only [createVirtualGamepad]
  split
  · split <;> rfl
  · rfl

theorem allConform_congr {after : Pads}
    (hreports : ∀ report, .report report ∈ after.hid ↔ .report report ∈ pads.hid) :
    after.AllConform ↔ pads.AllConform :=
  forall_congr' fun report => imp_congr_left (hreports report)

/-- Creating a gamepad posts nothing. -/
theorem createVirtualGamepad_report (slot : UInt8) (report : HidReport) :
    .report report ∈ (createVirtualGamepad host slot pads).2.hid ↔ .report report ∈ pads.hid := by
  simp only [createVirtualGamepad]
  split
  · split
    · simp [makeHidDevice]
    · simp [makeHidDevice]
  · rfl

variable {pads}

/-- A connect posts nothing. -/
theorem handle_connect_allConform (s : Fin maxSlots) :
    (pads.handle host eventUdp (s, .connect)).AllConform ↔ pads.AllConform := by
  refine allConform_congr pads fun report => ?_
  simp only [Pads.handle, onConnect, slotIdx?_ofNat]
  split
  · rfl
  · rw [eventUdpSend_hid]
    exact createVirtualGamepad_report host pads _ report

/-- Nor does a disconnect. -/
theorem handle_disconnect_allConform (s : Fin maxSlots) :
    (pads.handle host eventUdp (s, .disconnect)).AllConform ↔ pads.AllConform := by
  refine allConform_congr pads fun report => ?_
  simp only [Pads.handle, onDisconnect, slotIdx?_ofNat]
  split
  · rw [eventUdpSend_hid]
    simp only [Pads.setSlot]
    split
    · simp
    · rfl
  · rfl

/-- A slot is written and, if it has a gamepad, its report is posted. -/
theorem post_allConform_iff (message : List Char) (s : Fin maxSlots) (slot : Slot) :
    (eventUdpSend eventUdp message (postHidReport s (pads.setSlot s slot))).AllConform ↔
      (slot.hidDevice = true → slot.lastReport.Conforms) ∧ pads.AllConform := by
  simp only [Pads.AllConform, eventUdpSend_hid, postHidReport, Pads.setSlot, Function.update_self]
  split
  next hdevice => simp [hdevice]
  next hnone => simp [hnone]

theorem post_slots (message : List Char) (s : Fin maxSlots) (slot : Slot) :
    (eventUdpSend eventUdp message (postHidReport s (pads.setSlot s slot))).slots =
      (pads.setSlot s slot).slots := by
  rw [eventUdpSend_slots, postHidReport]
  split <;> rfl

/-- What has been posted stays posted. -/
theorem handle_allConform_before (call : Fin maxSlots × PadEvent)
    (hafter : (pads.handle host eventUdp call).AllConform) : pads.AllConform := by
  obtain ⟨s, event⟩ := call
  cases event with
  | connect => exact (handle_connect_allConform host eventUdp s).mp hafter
  | disconnect => exact (handle_disconnect_allConform host eventUdp s).mp hafter
  | input g =>
      simp only [Pads.handle, reportInput] at hafter
      split at hafter
      · exact ((post_allConform_iff eventUdp _ s _).mp hafter).2
      · exact hafter
  | guide pressed =>
      simp only [Pads.handle, onGuide, slotIdx?_ofNat] at hafter
      exact ((post_allConform_iff eventUdp _ s _).mp hafter).2

end

namespace Pads.Settled

variable (host : Host) (eventUdp : Bool) {pads : Pads} (hsettled : pads.Settled)

include hsettled

/-- A slot with a gamepad is in use. -/
theorem active_of_device {s : Fin maxSlots} (hdevice : (pads.slots s).hidDevice = true) :
    (pads.slots s).active = true := by
  cases hactive : (pads.slots s).active with
  | true => rfl
  | false =>
      rw [(hsettled.idle s hactive).2] at hdevice
      cases hdevice

theorem handle (call : Fin maxSlots × PadEvent) : (pads.handle host eventUdp call).Settled := by
  have hbefore := @handle_allConform_before host eventUdp pads call
  obtain ⟨s, event⟩ := call
  cases event with
  | connect =>
      simp only [Pads.handle, onConnect, slotIdx?_ofNat] at hbefore ⊢
      split
      · exact hsettled
      next hinactive =>
        rw [if_neg hinactive] at hbefore
        have hidle := hsettled.idle s (Bool.eq_false_of_not_eq_true hinactive)
        refine hsettled.setSlot s { pads.slots s with
          active := true
          clientId := UInt8.ofNat s
          lastReport := { (pads.slots s).lastReport with hat := 8 }
          hidDevice := (createVirtualGamepad host (UInt8.ofNat s) pads).1 } ?_ hbefore
          (fun hnot => absurd hnot (by simp)) (fun _ _ => hidle.1.centred)
        rw [eventUdpSend_slots]
        simp only [Pads.setSlot, createVirtualGamepad_slots]
  | disconnect =>
      simp only [Pads.handle, onDisconnect, slotIdx?_ofNat] at hbefore ⊢
      split
      next hactive =>
        rw [if_pos hactive] at hbefore
        refine hsettled.setSlot s {} ?_ hbefore (fun _ => ⟨initial_conforms, rfl⟩)
          (fun _ hdevice => absurd hdevice (by simp))
        rw [eventUdpSend_slots]
        simp only [Pads.setSlot]
        split <;> rfl
      · exact hsettled
  | input g =>
      simp only [Pads.handle, reportInput] at hbefore ⊢
      split
      next hactive =>
        rw [if_pos hactive] at hbefore
        refine hsettled.setSlot s _ (post_slots eventUdp _ s _) hbefore ?_ ?_
        · exact fun hinactive => absurd (hinactive.symm.trans hactive) (by simp)
        · exact fun hafter => ((post_allConform_iff eventUdp _ s _).mp hafter).1
      · exact hsettled
  | guide pressed =>
      simp only [Pads.handle, onGuide, slotIdx?_ofNat] at hbefore ⊢
      refine hsettled.setSlot s _ (post_slots eventUdp _ s _) hbefore ?_ ?_
      · intro hinactive
        obtain ⟨hreport, hnone⟩ := hsettled.idle s hinactive
        exact ⟨hreport.withGuide pressed, hnone⟩
      · exact fun hafter => ((post_allConform_iff eventUdp _ s _).mp hafter).1

/-- A pad event posts a report that does not conform exactly if it is an input out of range. -/
theorem handle_allConform_iff (hgood : pads.AllConform) (call : Fin maxSlots × PadEvent) :
    (pads.handle host eventUdp call).AllConform ↔ pads.Fits call := by
  obtain ⟨s, event⟩ := call
  cases event with
  | connect =>
      refine iff_of_true ?_ fun _ hinput => by cases hinput
      exact (handle_connect_allConform host eventUdp s).mpr hgood
  | disconnect =>
      refine iff_of_true ?_ fun _ hinput => by cases hinput
      exact (handle_disconnect_allConform host eventUdp s).mpr hgood
  | input g =>
      have hfits : pads.Fits (s, .input g) ↔ ((pads.slots s).hidDevice = true → g.InRange) := by
        constructor
        · exact fun hfits => hfits g rfl
        · rintro hrange _ ⟨⟩
          exact hrange
      rw [hfits]
      by_cases hactive : (pads.slots s).active = true
      · simp only [Pads.handle, reportInput, if_pos hactive]
        rw [post_allConform_iff, and_iff_left hgood]
        exact imp_congr_right fun _ => gipToHid_conforms_iff g _
      · simp only [Pads.handle, if_neg hactive]
        exact iff_of_true hgood fun hdevice => absurd (hsettled.active_of_device hdevice) hactive
  | guide pressed =>
      refine iff_of_true ?_ fun _ hinput => by cases hinput
      simp only [Pads.handle, onGuide, slotIdx?_ofNat]
      refine (post_allConform_iff eventUdp _ s _).mpr ⟨fun hdevice => ?_, hgood⟩
      exact (hsettled.shown hgood s hdevice).withGuide pressed

end Pads.Settled

/-! ## Steps -/

section

variable (world : World)

/-- The slots as `on_input` finds them: the first contact of a station connects its slot before. -/
def Daemon.padsFor (mac : Mac) (daemon : Daemon) : Pads :=
  run (Pads.handle world.host world.eventUdp) daemon.pads (daemon.table.attachEvents mac)

/-- An input packet that reaches a slot with a gamepad has its triggers in range. -/
def TriggersInRange (daemon : Daemon) : Step → Prop
  | .transfer _ t => ∀ frame, rxFrame? t = some frame → frame.QosData daemon.air.ourMac →
      ∀ g, frame.gip.event = .pad (.input g) →
        ∀ s, padOf? (daemon.table.entry frame.src) = some s →
          ((daemon.padsFor world frame.src).slots s).hidDevice = true → g.InRange
  | .housekeeping _ _ => True

/-- Events without input fit. -/
theorem fits_of_no_input (pads : Pads) {calls : List (Fin maxSlots × PadEvent)}
    (hnone : ∀ call ∈ calls, ∀ g, call.2 ≠ .input g) :
    Always (Pads.handle world.host world.eventUdp) Pads.Fits pads calls := by
  intro before call after hsplit g hinput
  refine absurd hinput (hnone call ?_ g)
  rw [hsplit]
  exact List.mem_append_right _ List.mem_cons_self

theorem attachEvents_no_input (table : PeerTable) (mac : Mac) :
    ∀ call ∈ table.attachEvents mac, ∀ g, call.2 ≠ .input g := by
  intro call hcall g
  simp only [PeerTable.attachEvents] at hcall
  split at hcall
  · cases hcall
  · split at hcall
    · cases hcall
    · rw [List.mem_singleton.mp hcall]
      simp

/-- The events of a step fit exactly if its input is in range. -/
theorem padEvents_fit_iff (daemon : Daemon) (step : Step) :
    Always (Pads.handle world.host world.eventUdp) Pads.Fits daemon.pads
        (daemon.table.padEvents (step.stimulus world.env daemon.air.ourMac)) ↔
      TriggersInRange world daemon step := by
  cases step with
  | housekeeping now scanNow => exact iff_of_true Machine.always_nil trivial
  | transfer now t =>
      by_cases hdata : ∃ frame, rxFrame? t = some frame ∧ frame.QosData daemon.air.ourMac
      · obtain ⟨frame, hframe, hqos⟩ := hdata
        have hstimulus : (Step.transfer now t).stimulus world.env daemon.air.ourMac =
            .data frame.src frame.gip :=
          (Transfer.stimulus_frame hframe world.env daemon.air.ourMac).trans
            (RxFrame.stimulus_data hqos)
        rw [hstimulus, PeerTable.padEvents, Machine.always_append, and_iff_right
          (fits_of_no_input world daemon.pads (attachEvents_no_input daemon.table frame.src))]
        constructor
        · intro halways frame' hframe' _ g hinput s hpad hdevice
          obtain rfl : frame' = frame := Option.some.inj (hframe'.symm.trans hframe)
          rw [PeerTable.gipEvents, hpad, hinput] at halways
          exact Machine.always_one.mp halways g rfl hdevice
        · intro hrange
          rw [PeerTable.gipEvents]
          split
          next s event hpad hevent =>
            refine Machine.always_one.mpr ?_
            rintro g rfl hdevice
            exact hrange frame hframe hqos g hevent s hpad hdevice
          next => exact Machine.always_nil
      · refine iff_of_true (fits_of_no_input world daemon.pads ?_) ?_
        · cases hstimulus : (Step.transfer now t).stimulus world.env daemon.air.ourMac with
          | quiet => exact fun _ hcall => absurd hcall List.not_mem_nil
          | register mac => exact fun _ hcall => absurd hcall List.not_mem_nil
          | associate mac reassoc => exact fun _ hcall => absurd hcall List.not_mem_nil
          | action mac => exact attachEvents_no_input daemon.table mac
          | data mac gip =>
              obtain ⟨frame, hfrom, hframe⟩ := (Step.stimulus_eq_iff (by simp) (by simp)
                fun frame hframe => (RxFrame.stimulus_eq_data.mp hframe).2.1).mp hstimulus
              exact absurd ⟨frame, (Option.filter_eq_some_iff.mp hfrom).1,
                (RxFrame.stimulus_eq_data.mp hframe).1⟩ hdata
          | lost s =>
              intro call hcall g
              rw [List.mem_singleton.mp hcall]
              simp
        · exact fun frame hframe hqos => absurd ⟨frame, hframe, hqos⟩ hdata

/-! ## Runs -/

theorem boots_settled {boot : Daemon} (hboot : Boots world boot) :
    boot.pads.Settled ∧ boot.pads.AllConform := by
  have hslots := boots_slots world hboot
  constructor
  · constructor
    · intro s _
      rw [hslots]
      exact ⟨initial_conforms, rfl⟩
    · intro _ s hdevice
      rw [hslots] at hdevice
      cases hdevice
  · rw [(boots_start world hboot).2]
    intro report hreport
    simp only [probeHidSupport] at hreport
    split at hreport
    · simp [makeHidDevice] at hreport
    · rw [eventUdpSend_hid] at hreport
      simp [makeHidDevice] at hreport

/-- Every report posted in a run conforms to the report descriptor if and only if no input packet
with a trigger above 1023 ever reaches a slot with a gamepad. -/
theorem reports_conform_iff {boot : Daemon} (hboot : Boots world boot) (steps : List Step) :
    (run (Daemon.step world) boot steps).pads.AllConform ↔
      Always (Daemon.step world) (TriggersInRange world) boot steps := by
  obtain ⟨hsettled, hgood⟩ := boots_settled world hboot
  apply Machine.run_iff_always (fun daemon : Daemon => daemon.pads.AllConform)
    (fun daemon => daemon.table.WF ∧ daemon.pads.Settled) ?_ ?_ ?_
    ⟨boots_wf world hboot, hsettled⟩ hgood steps
  · intro daemon step hinv
    obtain ⟨hwf, hsettled⟩ := hinv
    refine ⟨step_wf world hwf step, ?_⟩
    rw [(step_pads world hwf step)]
    exact Machine.run_invariant Pads.Settled (fun _ call hpads => hpads.handle _ _ call) hsettled _
  · intro daemon step hinv hafter
    rw [step_pads world hinv.1] at hafter
    exact Machine.run_back Pads.AllConform (fun _ => True) (fun _ _ _ => trivial)
      (fun _ call _ => handle_allConform_before _ _ call) trivial hafter
  · intro daemon step hinv hgood
    rw [step_pads world hinv.1, ← padEvents_fit_iff]
    exact Machine.run_iff_always Pads.AllConform Pads.Settled
      (fun _ call hpads => hpads.handle _ _ call)
      (fun _ call _ => handle_allConform_before _ _ call)
      (fun _ call hpads hgood => hpads.handle_allConform_iff _ _ hgood call) hinv.2 hgood _

end

/-! ## A trigger pulled too far -/

/-- A controller is added and reports its left trigger at 2047. -/
def pulledSteps : List Step :=
  [addedStep, packetStep [0x20, 0x00, 0x02, 0x0e, 0x00, 0x00, 0xff, 0x07, 0x00, 0x00, 0x00, 0x00,
    0x00, 0x00, 0x00, 0x00, 0x00, 0x00] (by decide)]

theorem reports_conform_iff_pulled :
    (run (Daemon.step (romWorld plainRom)) plainBoot pulledSteps).pads.AllConform ↔
      Always (Daemon.step (romWorld plainRom)) (TriggersInRange (romWorld plainRom)) plainBoot
        pulledSteps :=
  reports_conform_iff (romWorld plainRom) plainBoot_boots pulledSteps

/-- The report posted for it shows 2047 where the descriptor allows 1023. -/
theorem trigger_above_range :
    ¬(run (Daemon.step (romWorld plainRom)) plainBoot pulledSteps).pads.AllConform := by
  intro hgood
  have hposted : .report { hat := 8, lt := 0x07ff } ∈
      (run (Daemon.step (romWorld plainRom)) plainBoot pulledSteps).pads.hid := by
    decide +kernel
  exact absurd (hgood _ hposted).triggers (by decide)

end XoneDarwin
