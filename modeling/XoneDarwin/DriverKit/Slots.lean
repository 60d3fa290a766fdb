import XoneDarwin.DriverKit.Driver

/-!
# Slots and gamepads of the driver

`mSlots` and `mHIDDevices` are kept in step by hand. An announce marks its slot before
the gamepad exists, and nothing takes the mark back where the creation fails.
-/

namespace XoneDarwin.DriverKit

open Machine (Always Reading run)

namespace Driver

/-- A slot is connected exactly if it has a gamepad. -/
def InStep (driver : Driver) : Prop :=
  ∀ i, (driver.mSlots i).connected = driver.mHidDevices i

/-- The two marks of a slot are the same. -/
def Marked (driver : Driver) : Prop :=
  ∀ i, (driver.mSlots i).initialized = (driver.mSlots i).connected

/-- The frame makes the driver take a free slot. -/
def Takes (driver : Driver) (frame : List UInt8) (i : Fin maxControllers) : Prop :=
  4 ≤ frame.length ∧ controller? (GipHeader.load frame).client = some i ∧
    ((GipHeader.load frame).command = dongleCmdControllerAdded ∨
      (GipHeader.load frame).command = gipCmdAnnounce) ∧
    (driver.mSlots i).connected = false

/-- No creation fails for a slot that is taken. -/
def Served (driver : Driver) (input : Step) : Prop :=
  ∀ i, driver.Takes input.frame i → input.outcome.created = true

/-! ## One slot -/

theorem controller?_val {clientId : UInt8} {i : Fin maxControllers}
    (hi : controller? clientId = some i) : i.val = clientId.toNat := by
  unfold controller? at hi
  split at hi
  · cases hi
    rfl
  · cases hi

section

variable {driver : Driver} {i : Fin maxControllers}

@[simp] theorem slotAt_val (outside : Nat → ControllerSlot) :
    (driver.slotAt outside i).val = driver.mSlots i :=
  dif_pos i.isLt

@[simp] theorem hidDeviceAt_val : (driver.hidDeviceAt i).val = driver.mHidDevices i := rfl

@[simp] theorem setSlot_mHidDevices (slot : ControllerSlot) :
    (driver.setSlot i slot).mHidDevices = driver.mHidDevices := rfl

/-- A slot written together with its gamepad. -/
theorem InStep.set_iff (hdriver : driver.InStep) {slot : ControllerSlot} {present : Bool} :
    ((driver.setSlot i slot).setHidDevice i present).InStep ↔ slot.connected = present := by
  constructor
  · intro hafter
    have hi := hafter i
    simpa [setSlot, setHidDevice] using hi
  · intro hslot j
    by_cases hj : j = i
    · subst hj
      simpa [setSlot, setHidDevice] using hslot
    · simpa [setSlot, setHidDevice, hj] using hdriver j

/-- A slot written with its gamepad left alone. -/
theorem InStep.setSlot_iff (hdriver : driver.InStep) {slot : ControllerSlot} :
    (driver.setSlot i slot).InStep ↔ slot.connected = driver.mHidDevices i := by
  rw [← hdriver.set_iff, setHidDevice, setSlot, Function.update_eq_self]

theorem Marked.setSlot (hdriver : driver.Marked) {slot : ControllerSlot}
    (hslot : slot.initialized = slot.connected) : (driver.setSlot i slot).Marked := by
  intro j
  by_cases hj : j = i
  · subst hj
    simpa [Driver.setSlot] using hslot
  · simpa [Driver.setSlot, hj] using hdriver j

end

/-! ## The handlers -/

/-- The same slots and the same gamepads. -/
structure SameTables (before after : Driver) : Prop where
  slots : after.mSlots = before.mSlots
  devices : after.mHidDevices = before.mHidDevices

theorem SameTables.inStep_iff {before after : Driver} (hsame : SameTables before after) :
    after.InStep ↔ before.InStep := by
  rw [InStep, InStep, hsame.slots, hsame.devices]

theorem SameTables.marked {before after : Driver} (hsame : SameTables before after)
    (hbefore : before.Marked) : after.Marked := by
  rw [Marked, hsame.slots]
  exact hbefore

section

variable (outside : Nat → ControllerSlot) (driver : Driver)

/-- A packet only adds its calls. -/
theorem sendPacket_eq (sending : SendOutcome) (packet : List UInt8) :
    (driver.sendPacket sending packet).2 =
      { driver with io := sending.calls packet ++ driver.io } := by
  cases sending with
  | noPipe | noMemory | transfer => rfl

/-- The acknowledgement depends on the client alone. -/
theorem sendAcknowledge_eq (sending : SendOutcome) (clientId command sequence : UInt8) :
    driver.sendAcknowledge sending clientId command sequence =
      { driver with
        mHostSequence := driver.mHostSequence + 1
        io := sending.calls
          [gipCmdAcknowledge, clientId, driver.mHostSequence, 0x01, 0x00] ++ driver.io } :=
  sendPacket_eq { driver with mHostSequence := driver.mHostSequence + 1 } sending _

theorem sendAcknowledge_tables (sending : SendOutcome) (clientId command sequence : UInt8) :
    SameTables driver (driver.sendAcknowledge sending clientId command sequence) := by
  rw [sendAcknowledge_eq]
  exact ⟨rfl, rfl⟩

theorem handleControllerInput_tables (clientId : UInt8) (payload : List UInt8) :
    SameTables driver (driver.handleControllerInput outside clientId payload).val := by
  unfold handleControllerInput
  cases controller? clientId with
  | none => exact ⟨rfl, rfl⟩
  | some i =>
      simp only [Reading.val_bind, slotAt_val]
      split
      · exact ⟨rfl, rfl⟩
      · simp only [Reading.val_bind]
        split
        · exact ⟨rfl, rfl⟩
        · exact ⟨rfl, rfl⟩

theorem postHidReport_tables (clientId : UInt8) :
    SameTables driver (driver.postHidReport outside clientId).val := by
  unfold postHidReport
  cases controller? clientId with
  | none => exact ⟨rfl, rfl⟩
  | some i =>
      simp only [Reading.val_bind]
      split
      · exact ⟨rfl, rfl⟩
      · exact ⟨rfl, rfl⟩

end

section

variable (outside : Nat → ControllerSlot) {driver : Driver}

theorem handleGuideButton_inStep (hdriver : driver.InStep) (clientId : UInt8) (pressed : Bool) :
    (driver.handleGuideButton outside clientId pressed).val.InStep := by
  unfold handleGuideButton
  cases controller? clientId with
  | none => exact hdriver
  | some i =>
      simp only [Reading.val_bind, slotAt_val]
      rw [(postHidReport_tables outside _ clientId).inStep_iff, hdriver.setSlot_iff]
      exact hdriver i

theorem handleGuideButton_marked (hdriver : driver.Marked) (clientId : UInt8) (pressed : Bool) :
    (driver.handleGuideButton outside clientId pressed).val.Marked := by
  unfold handleGuideButton
  cases controller? clientId with
  | none => exact hdriver
  | some i =>
      simp only [Reading.val_bind, slotAt_val]
      exact (postHidReport_tables outside _ clientId).marked (hdriver.setSlot (hdriver i))

theorem handleControllerDisconnect_inStep (hdriver : driver.InStep) (clientId : UInt8) :
    (driver.handleControllerDisconnect outside clientId).val.InStep := by
  unfold handleControllerDisconnect
  cases controller? clientId with
  | none => exact hdriver
  | some i =>
      cases hdevice : driver.mHidDevices i with
      | true =>
          simp only [Reading.val_bind, hidDeviceAt_val, setSlot_mHidDevices, hdevice, reduceIte]
          exact hdriver.set_iff.mpr rfl
      | false =>
          simp only [Reading.val_bind, hidDeviceAt_val, setSlot_mHidDevices, hdevice,
            Bool.false_eq_true, reduceIte]
          exact hdriver.setSlot_iff.mpr hdevice.symm

theorem handleControllerDisconnect_marked (hdriver : driver.Marked) (clientId : UInt8) :
    (driver.handleControllerDisconnect outside clientId).val.Marked := by
  unfold handleControllerDisconnect
  cases controller? clientId with
  | none => exact hdriver
  | some i =>
      have hcleared : (driver.setSlot i {}).Marked := hdriver.setSlot rfl
      cases hdevice : driver.mHidDevices i with
      | true =>
          simp only [Reading.val_bind, hidDeviceAt_val, setSlot_mHidDevices, hdevice, reduceIte]
          exact hcleared
      | false =>
          simp only [Reading.val_bind, hidDeviceAt_val, setSlot_mHidDevices, hdevice,
            Bool.false_eq_true, reduceIte]
          exact hcleared

/-- An announce leaves the tables in step unless it takes a slot and the creation fails. -/
theorem handleControllerAnnounce_inStep_iff (hdriver : driver.InStep) (outcome : HidOutcome)
    (clientId : UInt8) :
    (driver.handleControllerAnnounce outside outcome clientId).val.InStep ↔
      ∀ i, controller? clientId = some i → (driver.mSlots i).connected = false →
        outcome.created = true := by
  unfold handleControllerAnnounce
  cases hclient : controller? clientId with
  | none => exact iff_of_true hdriver fun i hi => absurd hi (by simp)
  | some i =>
      simp only [Reading.val_bind, slotAt_val]
      cases hconnected : (driver.mSlots i).connected with
      | true =>
          refine iff_of_true hdriver fun j hj hfree => ?_
          cases hj
          rw [hconnected] at hfree
          cases hfree
      | false =>
          have hdevice : driver.mHidDevices i = false := (hdriver i).symm.trans hconnected
          have hiff : outcome.created = true ↔
              ∀ j, some i = some j → (driver.mSlots j).connected = false →
                outcome.created = true := by
            refine ⟨fun hcreated _ _ _ => hcreated, fun hall => hall i rfl hconnected⟩
          rw [← hiff]
          simp only [Bool.false_eq_true, reduceIte, Reading.val_bind, hidDeviceAt_val,
            setSlot_mHidDevices, hdevice, createHidDevice]
          cases outcome.created with
          | true => exact iff_of_true (hdriver.set_iff.mpr rfl) rfl
          | false =>
              refine iff_of_false (fun hafter => ?_) (by decide)
              have hsame := hdriver.setSlot_iff.mp hafter
              rw [hdevice] at hsame
              cases hsame

theorem handleControllerAnnounce_marked (hdriver : driver.Marked) (outcome : HidOutcome)
    (clientId : UInt8) :
    (driver.handleControllerAnnounce outside outcome clientId).val.Marked := by
  unfold handleControllerAnnounce
  cases controller? clientId with
  | none => exact hdriver
  | some i =>
      have htaken : (driver.setSlot i
          { connected := true, clientId := clientId, sequence := 0, initialized := true,
            guidePressed := false }).Marked := hdriver.setSlot rfl
      simp only [Reading.val_bind, slotAt_val]
      cases (driver.mSlots i).connected with
      | true => exact hdriver
      | false =>
          cases hdevice : driver.mHidDevices i with
          | true =>
              simp only [Bool.false_eq_true, Reading.val_bind, hidDeviceAt_val,
                setSlot_mHidDevices, hdevice, reduceIte]
              exact htaken
          | false =>
              simp only [Bool.false_eq_true, Reading.val_bind, hidDeviceAt_val,
                setSlot_mHidDevices, hdevice, reduceIte, createHidDevice]
              cases outcome.created with
              | true => exact htaken
              | false => exact htaken

end

/-! ## Frames -/

section

variable (outside : Nat → ControllerSlot) {driver : Driver}

/-- What a frame comes down to, as far as the tables are concerned. -/
theorem processGipFrame_rule {P : Reading Driver → Prop} (outcome : HidOutcome)
    (sending : SendOutcome) (buf : List UInt8)
    (hshort : buf.length < 4 → P (pure driver))
    (hadded : 4 ≤ buf.length → (GipHeader.load buf).command = dongleCmdControllerAdded →
      P (driver.handleControllerAnnounce outside outcome (GipHeader.load buf).client))
    (hannounce : 4 ≤ buf.length → (GipHeader.load buf).command = gipCmdAnnounce →
      ∀ acked, SameTables driver acked →
        P (acked.slotAt outside (GipHeader.load buf).client.toNat >>= fun slot =>
          if ¬slot.initialized then
            acked.handleControllerAnnounce outside outcome (GipHeader.load buf).client
          else pure acked))
    (hother : (GipHeader.load buf).command ≠ dongleCmdControllerAdded →
      (GipHeader.load buf).command ≠ gipCmdAnnounce →
      (∀ acked, SameTables driver acked → P (pure acked)) ∧
      P (driver.handleControllerDisconnect outside (GipHeader.load buf).client) ∧
      P (driver.handleControllerInput outside (GipHeader.load buf).client (buf.drop 4)) ∧
      ∀ ack : Driver → Driver, (∀ shown, SameTables shown (ack shown)) →
        P (driver.handleGuideButton outside (GipHeader.load buf).client
          (byteAt (buf.drop 4) 0 ≠ 0) >>= fun shown => pure (ack shown))) :
    P (driver.processGipFrame outside outcome sending buf) := by
  unfold processGipFrame
  dsimp only
  generalize (if buf.length - 4 < (GipHeader.load buf).length.toNat then buf.length - 4
    else (GipHeader.load buf).length.toNat) = payloadLen
  by_cases hlen : buf.length < 4
  · rw [if_pos hlen]
    exact hshort hlen
  rw [if_neg hlen]
  have hlong : 4 ≤ buf.length := Nat.le_of_not_lt hlen
  by_cases hcadded : (GipHeader.load buf).command = dongleCmdControllerAdded
  · rw [if_pos hcadded]
    exact hadded hlong hcadded
  rw [if_neg hcadded]
  by_cases hcannounce : (GipHeader.load buf).command = gipCmdAnnounce
  · rw [if_neg (by rw [hcannounce]; decide), if_pos hcannounce]
    exact hannounce hlong hcannounce _ (sendAcknowledge_tables driver sending _ _ _)
  obtain ⟨hacked, hlost, hinput, hguide⟩ := hother hcadded hcannounce
  rw [if_neg hcannounce]
  split_ifs
  · exact hlost
  · exact hacked _ (sendAcknowledge_tables driver sending _ _ _)
  · exact hinput
  · exact hacked driver ⟨rfl, rfl⟩
  · exact hguide _ fun shown => sendAcknowledge_tables shown sending _ _ _
  · exact hacked _ (sendAcknowledge_tables driver sending _ gipCmdGuideBtn
      (GipHeader.load buf).sequence)
  · exact hacked driver ⟨rfl, rfl⟩

theorem processGipFrame_marked (hdriver : driver.Marked) (outcome : HidOutcome)
    (sending : SendOutcome) (buf : List UInt8) :
    (driver.processGipFrame outside outcome sending buf).val.Marked := by
  apply processGipFrame_rule outside (P := fun r => r.val.Marked)
  case hshort => exact fun _ => hdriver
  case hadded => exact fun _ _ => handleControllerAnnounce_marked outside hdriver outcome _
  case hannounce =>
    intro _ _ acked hsame
    rw [Reading.val_bind]
    split_ifs
    · exact hsame.marked hdriver
    · exact handleControllerAnnounce_marked outside (hsame.marked hdriver) outcome _
  case hother =>
    intro _ _
    refine ⟨fun acked hsame => hsame.marked hdriver,
      handleControllerDisconnect_marked outside hdriver _,
      (handleControllerInput_tables outside driver _ _).marked hdriver, fun ack hsame => ?_⟩
    exact (hsame _).marked (handleGuideButton_marked outside hdriver _ _)

/-- A frame leaves the tables in step exactly if no creation it calls for fails. -/
theorem processGipFrame_inStep_iff (hmarked : driver.Marked) (hdriver : driver.InStep)
    (input : Step) :
    (driver.processGipFrame outside input.outcome input.sending input.frame).val.InStep ↔
      driver.Served input := by
  apply processGipFrame_rule outside (P := fun r => r.val.InStep ↔ driver.Served input)
  case hshort =>
    intro hshort
    refine iff_of_true hdriver fun i htakes => ?_
    exact absurd htakes.1 (Nat.not_le_of_lt hshort)
  case hadded =>
    intro hlong hadded
    rw [handleControllerAnnounce_inStep_iff outside hdriver]
    constructor
    · intro hcreated i htakes
      exact hcreated i htakes.2.1 htakes.2.2.2
    · intro hserved i hi hfree
      exact hserved i ⟨hlong, hi, Or.inl hadded, hfree⟩
  case hannounce =>
    intro hlong hannounce acked hsame
    have hacked : acked.InStep := hsame.inStep_iff.mpr hdriver
    have hserved : driver.Served input ↔
        ∀ i, controller? (GipHeader.load input.frame).client = some i →
          (acked.mSlots i).connected = false → input.outcome.created = true := by
      rw [hsame.slots]
      constructor
      · intro hserved i hi hfree
        exact hserved i ⟨hlong, hi, Or.inr hannounce, hfree⟩
      · intro hcreated i htakes
        exact hcreated i htakes.2.1 htakes.2.2.2
    rw [Reading.val_bind, hserved]
    split
    · exact handleControllerAnnounce_inStep_iff outside hacked _ _
    next hinitialized =>
      refine iff_of_true hacked fun i hi hfree => ?_
      rw [← controller?_val hi, slotAt_val, hsame.marked hmarked i, hfree] at hinitialized
      exact absurd hinitialized (by decide)
  case hother =>
    intro hadded hannounce
    have hserved : driver.Served input :=
      fun i htakes => (htakes.2.2.1.elim hadded hannounce).elim
    refine ⟨fun acked hsame => iff_of_true (hsame.inStep_iff.mpr hdriver) hserved,
      iff_of_true (handleControllerDisconnect_inStep outside hdriver _) hserved,
      iff_of_true ((handleControllerInput_tables outside driver _ _).inStep_iff.mpr hdriver)
        hserved, fun ack hsame => iff_of_true ?_ hserved⟩
    exact (hsame _).inStep_iff.mpr (handleGuideButton_inStep outside hdriver _ _)

/-! ## Between `Start` and `Stop` -/

/-- Every connected slot has its gamepad, and no other slot has one, as long as no creation fails
for a free slot that is announced: nothing takes the mark of such a slot back. -/
theorem connected_has_gamepad_iff (steps : List Step) :
    (∀ before, before <+: steps → (run (step outside) {} before).InStep) ↔
      Always (step outside) Served {} steps := by
  apply Machine.forall_prefix_iff_always InStep fun driver => driver.Marked ∧ driver.InStep
  case hgood => exact fun _ hboth => hboth.2
  case hstep =>
    intro _ input _ hboth hserved
    obtain ⟨hmarked, hstep⟩ := hboth
    refine ⟨processGipFrame_marked outside hmarked _ _ _, ?_⟩
    exact (processGipFrame_inStep_iff outside hmarked hstep input).mpr hserved
  case hbad =>
    intro _ input _ hboth hlater
    exact (processGipFrame_inStep_iff outside hboth.1 hboth.2 input).mp hlater
  case hstart => exact ⟨fun _ => rfl, fun _ => rfl⟩

/-- A controller is added and there is no memory for its gamepad; it announces itself again, and
no gamepad is made although there is memory now. -/
theorem failed_gamepad_is_not_retried :
    ¬(run (step fun _ => {}) {} [⟨[0x0e, 0, 0, 0], ⟨false, true, true⟩, .transfer .success⟩]).InStep ∧
      (run (step fun _ => {}) {} [⟨[0x0e, 0, 0, 0], ⟨false, true, true⟩, .transfer .success⟩,
        ⟨[0x02, 0, 1, 0], ⟨true, true, true⟩, .transfer .success⟩]).mHidDevices 0 = false := by
  refine ⟨fun hstep => ?_, by decide⟩
  exact absurd (hstep 0) (by decide)

end

end Driver

end XoneDarwin.DriverKit
