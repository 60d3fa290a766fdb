import XoneDarwin.Daemon.UsbGip
import XoneDarwin.DriverKit.Slots

/-!
# The slot tables and the client byte

The client byte of a frame is the sender's. The handlers check it before they touch a
table; the `ANNOUNCE` branch of both dispatchers looks first.
-/

namespace XoneDarwin

open Machine.Reading (below_bind below_cell below_pure)

/-- The one frame that reaches behind the table: an announce in the name of a controller there is
no slot for. -/
def StrayAnnounce (buf : List UInt8) : Prop :=
  4 ≤ buf.length ∧ byteAt buf 0 = gipCmdAnnounce ∧ maxSlots ≤ (byteAt buf 1).toNat

instance (buf : List UInt8) : Decidable (StrayAnnounce buf) :=
  inferInstanceAs (Decidable (_ ∧ _))

/-! ## The daemon's handlers -/

section

variable (outside : Nat → Slot) (host : Host) (eventUdp : Bool) (client : UInt8) (pads : Pads)

@[simp] theorem Pads.slotAt_below (i : Fin maxSlots) :
    (pads.slotAt outside i).Below maxSlots :=
  below_cell.mpr i.isLt

@[simp] theorem Pads.writeSlot_below (i : Fin maxSlots) (slot : Slot) :
    (pads.writeSlot i slot).Below maxSlots :=
  below_cell.mpr i.isLt

@[simp] theorem postHidReportAt_below (i : Fin maxSlots) :
    (postHidReportAt outside i pads).Below maxSlots := by
  unfold postHidReportAt
  refine below_bind.mpr ⟨pads.slotAt_below outside i, ?_⟩
  split
  · simp
  · simp

theorem onConnectAt_below : (onConnectAt outside host eventUdp client pads).Below maxSlots := by
  unfold onConnectAt
  cases slotIdx? client with
  | none => simp
  | some i =>
      refine below_bind.mpr ⟨pads.slotAt_below outside i, ?_⟩
      split
      · simp
      · simp

theorem onDisconnectAt_below : (onDisconnectAt outside eventUdp client pads).Below maxSlots := by
  unfold onDisconnectAt
  cases slotIdx? client with
  | none => simp
  | some i =>
      refine below_bind.mpr ⟨pads.slotAt_below outside i, ?_⟩
      split
      · simp
      · simp

theorem onInputAt_below (payload : List UInt8) (plen : UInt8) :
    (onInputAt outside eventUdp client payload plen pads).Below maxSlots := by
  unfold onInputAt
  cases slotIdx? client with
  | none => simp
  | some i =>
      refine below_bind.mpr ⟨pads.slotAt_below outside i, ?_⟩
      split
      · cases parseInput payload plen with
        | none => simp
        | some g => simp
      · simp

theorem onGuideAt_below (pressed : Bool) :
    (onGuideAt outside eventUdp client pressed pads).Below maxSlots := by
  unfold onGuideAt
  cases slotIdx? client with
  | none => simp
  | some i => simp

end

/-- The dispatcher of the daemon stays inside `g_slots` unless the frame is a stray announce. -/
theorem processFrame_below_iff (outside : Nat → Slot) (world : World) (epOut : UInt8)
    (buf : List UInt8) (daemon : Daemon) :
    (processFrame world epOut outside buf daemon).Below maxSlots ↔ ¬StrayAnnounce buf := by
  have hpads {handler : Pads → Machine.Reading Pads} (daemon : Daemon)
      (hhandler : (handler daemon.pads).Below maxSlots) :
      (daemon.onPads handler).Below maxSlots :=
    below_bind.mpr ⟨hhandler, below_pure _⟩
  unfold processFrame
  dsimp only
  generalize (if buf.length - 4 < (byteAt buf 3).toNat then UInt8.ofNat (buf.length - 4)
    else byteAt buf 3) = plen
  by_cases hannounce : byteAt buf 0 = gipCmdAnnounce
  · by_cases hlen : buf.length < 4
    · rw [if_pos hlen]
      exact iff_of_true (below_pure _) fun hstray => absurd hstray.1 (Nat.not_le_of_lt hlen)
    · have hstray : ¬StrayAnnounce buf ↔ (byteAt buf 1).toNat < maxSlots := by
        rw [StrayAnnounce, and_iff_right (Nat.le_of_not_lt hlen), and_iff_right hannounce,
          Nat.not_le]
      rw [if_neg hlen, if_neg (by rw [hannounce]; decide), if_neg (by rw [hannounce]; decide),
        if_pos hannounce, hstray, below_bind, Pads.slotAt, below_cell]
      refine and_iff_left ?_
      split
      · exact hpads _ (onConnectAt_below outside _ _ _ _)
      · exact below_pure _
  · refine iff_of_true ?_ fun hstray => hannounce hstray.2.1
    split_ifs
    · exact below_pure _
    · exact hpads _ (onConnectAt_below outside _ _ _ _)
    · exact hpads _ (onDisconnectAt_below outside _ _ _)
    · exact below_pure _
    · exact hpads _ (onInputAt_below outside _ _ _ _ _)
    · exact below_bind.mpr ⟨hpads _ (onGuideAt_below outside _ _ _ _), below_pure _⟩
    · exact below_bind.mpr ⟨below_pure _, below_pure _⟩
    · exact below_pure _

/-! ## The driver's handlers -/

namespace DriverKit.Driver

section

variable (outside : Nat → ControllerSlot) (driver : Driver) (clientId : UInt8)

@[simp] theorem slotAt_below (i : Fin maxControllers) :
    (driver.slotAt outside i).Below maxControllers :=
  below_cell.mpr i.isLt

@[simp] theorem hidDeviceAt_below (i : Fin maxControllers) :
    (driver.hidDeviceAt i).Below maxControllers :=
  below_cell.mpr i.isLt

theorem handleControllerAnnounce_below (outcome : HidOutcome) :
    (driver.handleControllerAnnounce outside outcome clientId).Below maxControllers := by
  unfold handleControllerAnnounce
  cases controller? clientId with
  | none => simp
  | some i =>
      refine below_bind.mpr ⟨slotAt_below outside driver i, ?_⟩
      split
      · exact below_pure _
      · refine below_bind.mpr ⟨hidDeviceAt_below _ i, ?_⟩
        split
        · exact below_pure _
        · unfold createHidDevice
          split
          · simp
          · simp

theorem handleControllerInput_below (payload : List UInt8) :
    (driver.handleControllerInput outside clientId payload).Below maxControllers := by
  unfold handleControllerInput
  cases controller? clientId with
  | none => simp
  | some i =>
      refine below_bind.mpr ⟨slotAt_below outside driver i, ?_⟩
      split
      · exact below_pure _
      · refine below_bind.mpr ⟨hidDeviceAt_below driver i, ?_⟩
        split
        · exact below_pure _
        · exact below_pure _

theorem postHidReport_below : (driver.postHidReport outside clientId).Below maxControllers := by
  unfold postHidReport
  cases controller? clientId with
  | none => simp
  | some i =>
      refine below_bind.mpr ⟨hidDeviceAt_below driver i, ?_⟩
      split
      · exact below_pure _
      · simp

theorem handleGuideButton_below (pressed : Bool) :
    (driver.handleGuideButton outside clientId pressed).Below maxControllers := by
  unfold handleGuideButton
  cases controller? clientId with
  | none => simp
  | some i => exact below_bind.mpr ⟨slotAt_below outside driver i, postHidReport_below _ _ _⟩

theorem handleControllerDisconnect_below :
    (driver.handleControllerDisconnect outside clientId).Below maxControllers := by
  unfold handleControllerDisconnect
  cases controller? clientId with
  | none => simp
  | some i =>
      refine below_bind.mpr ⟨slotAt_below outside driver i, ?_⟩
      refine below_bind.mpr ⟨hidDeviceAt_below _ i, ?_⟩
      split
      · exact below_pure _
      · exact below_pure _

/-- The dispatcher of the driver stays inside its tables unless the frame is a stray announce. -/
theorem processGipFrame_below_iff (outcome : HidOutcome) (sending : SendOutcome)
    (buf : List UInt8) :
    (driver.processGipFrame outside outcome sending buf).Below maxControllers ↔
      ¬StrayAnnounce buf := by
  apply processGipFrame_rule outside (P := fun r => r.Below maxControllers ↔ ¬StrayAnnounce buf)
  case hshort =>
    intro hshort
    exact iff_of_true (below_pure _)
      fun hstray => absurd hstray.1 (Nat.not_le_of_lt hshort)
  case hadded =>
    intro _ hadded
    refine iff_of_true (handleControllerAnnounce_below outside driver _ outcome) fun hstray => ?_
    exact absurd (hadded.symm.trans hstray.2.1) (by decide)
  case hannounce =>
    intro hlong hannounce acked _
    have hcommand : byteAt buf 0 = XoneDarwin.gipCmdAnnounce := hannounce
    have hstray : ¬StrayAnnounce buf ↔ (GipHeader.load buf).client.toNat < maxControllers := by
      rw [StrayAnnounce, and_iff_right hlong, and_iff_right hcommand, Nat.not_le]
      rfl
    rw [hstray, below_bind, slotAt, below_cell]
    refine and_iff_left ?_
    split
    · exact handleControllerAnnounce_below outside acked _ outcome
    · exact below_pure _
  case hother =>
    intro _ hannounce
    have hstray : ¬StrayAnnounce buf := fun hstray => hannounce hstray.2.1
    refine ⟨fun _ _ => iff_of_true (below_pure _) hstray,
      iff_of_true (handleControllerDisconnect_below outside driver _) hstray,
      iff_of_true (handleControllerInput_below outside driver _ _) hstray, fun _ _ => ?_⟩
    exact iff_of_true (below_bind.mpr ⟨handleGuideButton_below outside driver _ _,
      below_pure _⟩) hstray

end

end DriverKit.Driver

/-! ## Both dispatchers -/

/-- Every use of a slot table has an index inside it, in the driver and in the daemon, unless the
frame is an announce with a client byte of 8 or more. -/
theorem slot_uses_in_bounds_iff (outside : Nat → DriverKit.ControllerSlot)
    (outside' : Nat → Slot) (driver : DriverKit.Driver) (outcome : DriverKit.HidOutcome)
    (sending : DriverKit.SendOutcome) (world : World) (epOut : UInt8) (daemon : Daemon)
    (buf : List UInt8) :
    ((driver.processGipFrame outside outcome sending buf).Below DriverKit.maxControllers ↔
        ¬StrayAnnounce buf) ∧
      ((processFrame world epOut outside' buf daemon).Below maxSlots ↔ ¬StrayAnnounce buf) :=
  ⟨DriverKit.Driver.processGipFrame_below_iff outside driver outcome sending buf,
    processFrame_below_iff outside' world epOut buf daemon⟩

/-- An announce of client 9, in the initial state of both. -/
theorem announce_reads_behind_the_table :
    ¬(DriverKit.Driver.processGipFrame (fun _ => {}) ⟨true, true, true⟩ (.transfer .success)
        [0x02, 9, 1, 0] {}).Below DriverKit.maxControllers ∧
      ¬(processFrame ⟨.v1, ⟨fun _ _ _ => none, fun _ _ _ _ => true, fun _ _ _ => .success⟩,
        ⟨fun _ _ _ => true⟩, {}, false, none⟩ 0x08 (fun _ => {}) [0x02, 9, 1, 0] {}).Below
          maxSlots := by
  constructor
  · exact fun hbelow => absurd (hbelow 9 (by decide)) (by decide)
  · exact fun hbelow => absurd (hbelow 9 (by decide)) (by decide)

end XoneDarwin
