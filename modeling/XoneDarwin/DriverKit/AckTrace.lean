import Mathlib.Data.List.ReduceOption
import XoneDarwin.DriverKit.Slots

/-!
# The driver's acknowledgements

The driver sends nothing but acknowledgements: one for each announce, status and guide
frame, to its sender, in order, numbered from 0 on. The number is used up whether or not
`SendPacket` gets as far as the pipe.
-/

namespace XoneDarwin.DriverKit

open Machine (Reading run)

/-- The packets handed to the pipe, newest first. -/
def sentPackets (io : List DriverIo) : List (List UInt8) :=
  io.filterMap fun call =>
    match call with
    | .send packet => some packet
    | _ => none

/-- What `SendPacket` hands to the pipe. -/
def SendOutcome.packet? (packet : List UInt8) : SendOutcome → Option (List UInt8)
  | .transfer _ => some packet
  | _ => none

theorem sentPackets_calls (sending : SendOutcome) (packet : List UInt8) (io : List DriverIo) :
    sentPackets (sending.calls packet ++ io) =
      (sending.packet? packet).toList ++ sentPackets io := by
  cases sending with
  | noPipe | noMemory | transfer => rfl

namespace Driver

/-- The frames that are acknowledged. -/
def Step.Acknowledged (input : Step) : Prop :=
  4 ≤ input.frame.length ∧
    ((GipHeader.load input.frame).command = gipCmdAnnounce ∨
      (GipHeader.load input.frame).command = gipCmdStatus ∨
      (GipHeader.load input.frame).command = gipCmdGuideBtn)

instance (input : Step) : Decidable input.Acknowledged :=
  inferInstanceAs (Decidable (_ ∧ _))

/-- The acknowledgement with number `count`: what it acknowledges is not in it. -/
def ackPacket (count : Nat) (clientId : UInt8) : List UInt8 :=
  [gipCmdAcknowledge, clientId, UInt8.ofNat count, 0x01, 0x00]

/-! ## Handlers that send nothing -/

/-- Nothing is sent and no number is used. -/
structure Quiet (before after : Driver) : Prop where
  sent : sentPackets after.io = sentPackets before.io
  sequence : after.mHostSequence = before.mHostSequence

theorem Quiet.refl (driver : Driver) : Quiet driver driver :=
  ⟨rfl, rfl⟩

/-- Any other call. -/
theorem quiet_call {before after : Driver} (call : DriverIo) (hcall : ∀ packet, call ≠ .send packet)
    (hio : after.io = call :: before.io) (hsequence : after.mHostSequence = before.mHostSequence) :
    Quiet before after := by
  refine ⟨?_, hsequence⟩
  rw [hio]
  cases call with
  | send packet => exact absurd rfl (hcall packet)
  | _ => rfl

section

variable (outside : Nat → ControllerSlot) (driver : Driver)

theorem handleControllerAnnounce_quiet (outcome : HidOutcome) (clientId : UInt8) :
    Quiet driver (driver.handleControllerAnnounce outside outcome clientId).val := by
  unfold handleControllerAnnounce
  cases controller? clientId with
  | none => exact .refl driver
  | some i =>
      simp only [Reading.val_bind, slotAt_val]
      split
      · exact .refl driver
      · simp only [Reading.val_bind]
        split
        · exact ⟨rfl, rfl⟩
        · unfold createHidDevice
          split
          · exact quiet_call (.start clientId) (by simp) rfl rfl
          · exact ⟨rfl, rfl⟩

theorem handleControllerDisconnect_quiet (clientId : UInt8) :
    Quiet driver (driver.handleControllerDisconnect outside clientId).val := by
  unfold handleControllerDisconnect
  cases controller? clientId with
  | none => exact .refl driver
  | some i =>
      simp only [Reading.val_bind]
      split
      · exact quiet_call (.stop clientId) (by simp) rfl rfl
      · exact ⟨rfl, rfl⟩

theorem handleControllerInput_quiet (clientId : UInt8) (payload : List UInt8) :
    Quiet driver (driver.handleControllerInput outside clientId payload).val := by
  unfold handleControllerInput
  cases controller? clientId with
  | none => exact .refl driver
  | some i =>
      simp only [Reading.val_bind, slotAt_val]
      split
      · exact .refl driver
      · simp only [Reading.val_bind]
        split
        · exact .refl driver
        · exact quiet_call (.post clientId _) (by simp) rfl rfl

theorem handleGuideButton_quiet (clientId : UInt8) (pressed : Bool) :
    Quiet driver (driver.handleGuideButton outside clientId pressed).val := by
  unfold handleGuideButton postHidReport
  cases controller? clientId with
  | none => exact .refl driver
  | some i =>
      simp only [Reading.val_bind, slotAt_val]
      split
      · exact ⟨rfl, rfl⟩
      · exact quiet_call (.post clientId _) (by simp) rfl rfl

/-! ## Frames -/

/-- One acknowledgement more. -/
structure Acks (before after : Driver) (input : Step) : Prop where
  sent : sentPackets after.io =
    (input.sending.packet? [gipCmdAcknowledge, (GipHeader.load input.frame).client,
      before.mHostSequence, 0x01, 0x00]).toList ++ sentPackets before.io
  sequence : after.mHostSequence = before.mHostSequence + 1

theorem sendAcknowledge_acks (command : UInt8) (input : Step) :
    Acks driver (driver.sendAcknowledge input.sending (GipHeader.load input.frame).client command
      (GipHeader.load input.frame).sequence) input := by
  rw [sendAcknowledge_eq]
  exact ⟨sentPackets_calls .., rfl⟩

theorem Acks.of_quiet {before middle after : Driver} {input : Step} (hquiet : Quiet before middle)
    (hacks : Acks middle after input) : Acks before after input where
  sent := by rw [hacks.sent, hquiet.sent, hquiet.sequence]
  sequence := by rw [hacks.sequence, hquiet.sequence]

theorem Acks.then_quiet {before middle after : Driver} {input : Step}
    (hacks : Acks before middle input) (hquiet : Quiet middle after) : Acks before after input where
  sent := hquiet.sent.trans hacks.sent
  sequence := hquiet.sequence.trans hacks.sequence

/-- A frame is acknowledged once or not at all. -/
theorem step_sends (input : Step) :
    if input.Acknowledged then Acks driver (driver.step outside input) input
    else Quiet driver (driver.step outside input) := by
  have hacked (command : UInt8) := sendAcknowledge_acks driver command input
  by_cases hshort : input.frame.length < 4
  · rw [if_neg fun hack => Nat.not_le_of_lt hshort hack.1, Driver.step, processGipFrame,
      if_pos hshort]
    exact .refl driver
  have hlong : 4 ≤ input.frame.length := Nat.le_of_not_lt hshort
  rw [Driver.step, processGipFrame, if_neg hshort]
  dsimp only
  generalize (if input.frame.length - 4 < (GipHeader.load input.frame).length.toNat then
    input.frame.length - 4 else (GipHeader.load input.frame).length.toNat) = payloadLen
  -- the three commands that are acknowledged, whether or not their payload is long enough
  by_cases hannounce : (GipHeader.load input.frame).command = gipCmdAnnounce
  · rw [if_pos ⟨hlong, Or.inl hannounce⟩, if_neg (by rw [hannounce]; decide),
      if_neg (by rw [hannounce]; decide), if_pos hannounce, Reading.val_bind]
    split
    · exact (hacked gipCmdAnnounce).then_quiet (handleControllerAnnounce_quiet outside _ _ _)
    · exact hacked gipCmdAnnounce
  by_cases hstatus : (GipHeader.load input.frame).command = gipCmdStatus
  · rw [if_pos ⟨hlong, Or.inr (Or.inl hstatus)⟩, if_neg (by rw [hstatus]; decide),
      if_neg (by rw [hstatus]; decide), if_neg hannounce, if_pos hstatus]
    exact hacked gipCmdStatus
  by_cases hguide : (GipHeader.load input.frame).command = gipCmdGuideBtn
  · rw [if_pos ⟨hlong, Or.inr (Or.inr hguide)⟩, if_neg (by rw [hguide]; decide),
      if_neg (by rw [hguide]; decide), if_neg hannounce, if_neg hstatus,
      if_neg (by rw [hguide]; decide), if_pos hguide]
    split
    -- the report is posted before the acknowledgement goes out
    · exact (sendAcknowledge_acks _ gipCmdGuideBtn input).of_quiet
        (handleGuideButton_quiet outside driver _ _)
    · exact hacked gipCmdGuideBtn
  · rw [if_neg (by simp [Step.Acknowledged, hannounce, hstatus, hguide]), if_neg hannounce,
      if_neg hstatus, if_neg hguide]
    split_ifs
    · exact handleControllerAnnounce_quiet outside driver _ _
    · exact handleControllerDisconnect_quiet outside driver _
    · exact handleControllerInput_quiet outside driver _ _
    · exact .refl driver
    · exact .refl driver

/-- In every run each announce, status and guide frame uses up one number, from 0 on modulo 256.
What goes to the pipe are the acknowledgements with these numbers, to the senders of the frames and
in their order, as far as `SendPacket` gets with each of them, and nothing else. -/
theorem driver_acks (steps : List Step) :
    (sentPackets (run (step outside) {} steps).io).reverse =
        ((steps.filter (Step.Acknowledged ·)).mapIdx fun count input =>
          input.sending.packet?
            (ackPacket count (GipHeader.load input.frame).client)).reduceOption ∧
      (run (step outside) {} steps).mHostSequence =
        UInt8.ofNat (steps.filter (Step.Acknowledged ·)).length := by
  induction steps using List.reverseRecOn with
  | nil => exact ⟨rfl, rfl⟩
  | append_singleton steps input ih =>
      obtain ⟨hsent, hsequence⟩ := ih
      have hstep := step_sends outside (run (step outside) {} steps) input
      rw [Machine.run_concat, List.filter_append]
      by_cases hack : input.Acknowledged
      · rw [if_pos hack] at hstep
        have hone : [input].filter (Step.Acknowledged ·) = [input] := by simp [hack]
        -- the frame's acknowledgement has as its number how many there were before it
        rw [hone, List.mapIdx_append, hstep.sent, List.reverse_append, hsent, hstep.sequence,
          hsequence, List.length_append, List.reduceOption_append]
        constructor
        · rw [List.mapIdx_cons, List.mapIdx_nil, Nat.zero_add, ackPacket]
          cases input.sending with
          | noPipe | noMemory | transfer => rfl
        · rw [List.length_singleton, UInt8.ofNat_add]
          rfl
      · rw [if_neg hack] at hstep
        have hnone : [input].filter (Step.Acknowledged ·) = [] := by simp [hack]
        rw [hnone, List.append_nil, hstep.sent, hstep.sequence]
        exact ⟨hsent, hsequence⟩

end

end Driver

end XoneDarwin.DriverKit
