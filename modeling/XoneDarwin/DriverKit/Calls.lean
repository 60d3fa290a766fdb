import Mathlib.Logic.Relation
import XoneDarwin.DriverKit.Guide
import XoneDarwin.Machine.Traces

/-!
# The driver's calls for its gamepads

A frame brings about a few calls at most, and each call fits what the slot's pointer says:
a gamepad is started where there is none, and gets reports and is stopped where there is one.
-/

namespace XoneDarwin.DriverKit

open Machine (Reading accept run)

/-- The hat is a direction or centred. -/
def XboxHidReport.Declared (report : XboxHidReport) : Prop :=
  report.hat.toNat ≤ 8

theorem hatOf_le (up down left right : Bool) : (hatOf up down left right).toNat ≤ 8 := by
  revert up down left right
  decide

/-- The calls made for the gamepad of a slot. -/
def DriverIo.isFor (i : Fin maxControllers) : DriverIo → Bool
  | .createPacket | .send _ | .releasePacket => false
  | .start clientId => clientId = UInt8.ofNat i
  | .stop clientId => clientId = UInt8.ofNat i
  | .post clientId _ => clientId = UInt8.ofNat i

/-- What may be called while a gamepad exists or not, and whether it exists then. -/
def gamepadNext : Bool → DriverIo → Option Bool
  | false, .start _ => some true
  | true, .post _ _ => some true
  | true, .stop _ => some false
  | _, _ => none

namespace Driver

theorem ofNat_controller {clientId : UInt8} {i : Fin maxControllers}
    (hclient : controller? clientId = some i) : clientId = UInt8.ofNat i := by
  rw [controller?_val hclient, UInt8.ofNat_toNat]

theorem ofNat_eq_iff (i j : Fin maxControllers) : UInt8.ofNat j = UInt8.ofNat i ↔ j = i := by
  refine ⟨fun h => ?_, fun h => h ▸ rfl⟩
  have hj := controller?_ofNat (i := j)
  rw [h, controller?_ofNat] at hj
  exact (Option.some.inj hj).symm

/-- One call, or none, and what becomes of the gamepads. -/
inductive Call (before after : Driver) : Prop
  | none (io : after.io = before.io) (devices : after.mHidDevices = before.mHidDevices)
  | send (packet : List UInt8)
      (io : after.io = .releasePacket :: .send packet :: .createPacket :: before.io)
      (devices : after.mHidDevices = before.mHidDevices)
  | post (i : Fin maxControllers) (report : XboxHidReport) (present : before.mHidDevices i = true)
      (declared : report.Declared) (io : after.io = .post (UInt8.ofNat i) report :: before.io)
      (devices : after.mHidDevices = before.mHidDevices)
  | start (i : Fin maxControllers) (absent : before.mHidDevices i = false)
      (io : after.io = .start (UInt8.ofNat i) :: before.io)
      (devices : after.mHidDevices = Function.update before.mHidDevices i true)
  | stop (i : Fin maxControllers) (present : before.mHidDevices i = true)
      (io : after.io = .stop (UInt8.ofNat i) :: before.io)
      (devices : after.mHidDevices = Function.update before.mHidDevices i false)

/-- Calls in a row. -/
abbrev Calls : Driver → Driver → Prop := Relation.ReflTransGen Call

/-! ## The handlers -/

section

variable (outside : Nat → ControllerSlot) (driver : Driver)

theorem sendAcknowledge_call (sending : SendOutcome) (clientId command sequence : UInt8) :
    Call driver (driver.sendAcknowledge sending clientId command sequence) := by
  rw [sendAcknowledge_eq]
  cases sending with
  | noPipe | noMemory => exact .none rfl rfl
  | transfer => exact .send _ rfl rfl

theorem handleControllerAnnounce_call (outcome : HidOutcome) (clientId : UInt8) :
    Call driver (driver.handleControllerAnnounce outside outcome clientId).val := by
  unfold handleControllerAnnounce
  cases hclient : controller? clientId with
  | none => exact .none rfl rfl
  | some i =>
      simp only [Reading.val_bind, slotAt_val]
      split
      · exact .none rfl rfl
      · simp only [Reading.val_bind]
        split
        · exact .none rfl rfl
        next habsent =>
          unfold createHidDevice
          split
          · have hfree : driver.mHidDevices i = false := Bool.eq_false_iff.mpr habsent
            rw [ofNat_controller hclient]
            exact .start i hfree rfl rfl
          · exact .none rfl rfl

theorem handleControllerDisconnect_call (clientId : UInt8) :
    Call driver (driver.handleControllerDisconnect outside clientId).val := by
  unfold handleControllerDisconnect
  cases hclient : controller? clientId with
  | none => exact .none rfl rfl
  | some i =>
      simp only [Reading.val_bind]
      split
      next hpresent =>
        rw [ofNat_controller hclient]
        exact .stop i hpresent rfl rfl
      · exact .none rfl rfl

theorem handleControllerInput_call (clientId : UInt8) (payload : List UInt8) :
    Call driver (driver.handleControllerInput outside clientId payload).val := by
  have hio := driver.handleControllerInput_io outside clientId payload
  have hdevices := (handleControllerInput_tables outside driver clientId payload).devices
  cases hclient : controller? clientId with
  | none =>
      simp only [hclient] at hio
      exact .none hio hdevices
  | some i =>
      simp only [hclient] at hio
      split at hio
      next hboth =>
        rw [ofNat_controller hclient] at hio hdevices ⊢
        refine .post i _ hboth.2 ?_ hio hdevices
        exact hatOf_le _ _ _ _
      · exact .none hio hdevices

theorem handleGuideButton_call (clientId : UInt8) (pressed : Bool) :
    Call driver (driver.handleGuideButton outside clientId pressed).val := by
  have hio := driver.handleGuideButton_io outside clientId pressed
  have hdevices : (driver.handleGuideButton outside clientId pressed).val.mHidDevices =
      driver.mHidDevices := by
    unfold handleGuideButton
    cases controller? clientId with
    | none => rfl
    | some i =>
        rw [Reading.val_bind]
        exact (postHidReport_tables outside _ clientId).devices
  cases hclient : controller? clientId with
  | none =>
      simp only [hclient] at hio
      exact .none hio hdevices
  | some i =>
      simp only [hclient] at hio
      split at hio
      next hpresent =>
        rw [ofNat_controller hclient] at hio hdevices ⊢
        refine .post i _ hpresent ?_ hio hdevices
        exact Nat.le_refl 8
      · exact .none hio hdevices

/-- A frame makes the calls of its handler and acknowledges it where it has to. -/
theorem step_calls (input : Step) : Calls driver (driver.step outside input) := by
  have hacked (command : UInt8) := driver.sendAcknowledge_call input.sending
    (GipHeader.load input.frame).client command (GipHeader.load input.frame).sequence
  rw [Driver.step, processGipFrame]
  dsimp only
  generalize (if input.frame.length - 4 < (GipHeader.load input.frame).length.toNat then
    input.frame.length - 4 else (GipHeader.load input.frame).length.toNat) = payloadLen
  split_ifs
  · exact .refl
  · exact .single (handleControllerAnnounce_call outside driver _ _)
  · exact .single (handleControllerDisconnect_call outside driver _)
  · rw [Reading.val_bind]
    split_ifs
    · exact .single (hacked gipCmdAnnounce)
    · exact .tail (.single (hacked gipCmdAnnounce)) (handleControllerAnnounce_call outside _ _ _)
  · exact .single (hacked gipCmdStatus)
  · exact .single (handleControllerInput_call outside driver _ _)
  · exact .refl
  · exact .tail (.single (handleGuideButton_call outside driver _ _))
      (sendAcknowledge_call _ input.sending _ gipCmdGuideBtn
        (GipHeader.load input.frame).sequence)
  · exact .single (hacked gipCmdGuideBtn)
  · exact .refl

/-- What every call keeps holds in every run. -/
theorem run_of_calls {P : Driver → Prop} (hcall : ∀ before after, Call before after → P before →
    P after) {start : Driver} (hstart : P start) (steps : List Step) :
    P (run (step outside) start steps) := by
  have hcalls {before after : Driver} (hseveral : Calls before after) (hbefore : P before) :
      P after := by
    induction hseveral with
    | refl => exact hbefore
    | tail _ hlast ih => exact hcall _ _ hlast ih
  exact Machine.run_invariant P (fun driver input => hcalls (step_calls outside driver input))
    hstart steps

end

/-! ## The gamepads -/

/-- For every slot the calls lead to what its pointer says. -/
def Lived (driver : Driver) : Prop :=
  ∀ i, accept gamepadNext false (driver.io.filter (·.isFor i)).reverse =
    some (driver.mHidDevices i)

/-- One more call, and the phase it leads to. -/
theorem Lived.cons {before after : Driver} (hlived : before.Lived) (call : DriverIo)
    (hio : after.io = call :: before.io)
    (hnext : ∀ i, if call.isFor i then
      gamepadNext (before.mHidDevices i) call = some (after.mHidDevices i)
      else after.mHidDevices i = before.mHidDevices i) : after.Lived := by
  intro i
  have hcall := hnext i
  rw [hio]
  split at hcall
  next hfor =>
    rw [List.filter_cons_of_pos hfor, List.reverse_cons, Machine.accept_append, hlived i,
      Option.bind_some, Machine.accept_cons, hcall]
    rfl
  next hfor =>
    rw [List.filter_cons_of_neg hfor, hlived i, hcall]

theorem Lived.call {before after : Driver} (hcall : Call before after) (hlived : before.Lived) :
    after.Lived := by
  cases hcall with
  | none hio hdevices =>
      intro i
      rw [hio, hdevices]
      exact hlived i
  | send packet hio hdevices =>
      intro i
      rw [hio, hdevices]
      exact hlived i
  | post j report hpresent _ hio hdevices =>
      refine hlived.cons _ hio fun i => ?_
      simp only [DriverIo.isFor, decide_eq_true_eq, ofNat_eq_iff, hdevices]
      split
      next hji => rw [← hji, hpresent]; rfl
      · trivial
  -- a slot's gamepad is only created where there is none, so its calls stay in order
  | start j habsent hio hdevices =>
      refine hlived.cons _ hio fun i => ?_
      simp only [DriverIo.isFor, decide_eq_true_eq, ofNat_eq_iff, hdevices]
      split
      next hji => rw [← hji, habsent, Function.update_self]; rfl
      next hji => exact Function.update_of_ne (Ne.symm hji) ..
  | stop j hpresent hio hdevices =>
      refine hlived.cons _ hio fun i => ?_
      simp only [DriverIo.isFor, decide_eq_true_eq, ofNat_eq_iff, hdevices]
      split
      next hji => rw [← hji, hpresent, Function.update_self]; rfl
      next hji => exact Function.update_of_ne (Ne.symm hji) ..

end Driver

end XoneDarwin.DriverKit
