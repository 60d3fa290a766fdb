import XoneDarwin.DriverKit.Protocol
import XoneDarwin.Protocol

/-!
# Driver and daemon on the same payload

Both decoders were written by hand for the same report. The driver's bit fields leave
out the unused bit 1 of the button word, so each of its buttons but the sync button is
read one bit below the daemon's; sticks and triggers lie at the same place.
-/

namespace XoneDarwin

open Machine (bitAt)

/-- A payload read as the packed `gip_input_t`. -/
def GipInput.load (payload : List UInt8) : GipInput where
  buttons := load16 payload
  triggerL := load16 (payload.drop 2)
  triggerR := load16 (payload.drop 4)
  stickLx := (load16 (payload.drop 6)).toInt16
  stickLy := (load16 (payload.drop 8)).toInt16
  stickRx := (load16 (payload.drop 10)).toInt16
  stickRy := (load16 (payload.drop 12)).toInt16

/-- Is the button of a flag down in the daemon's report? -/
def HidReport.pressed (report : HidReport) (flag : UInt16) : Bool :=
  report.buttons &&& flag ≠ 0

namespace DriverKit

/-- The two reports show the same, the guide and sync buttons aside. -/
@[mk_iff] structure XboxHidReport.Agrees (driver : XboxHidReport) (daemon : HidReport) : Prop where
  a : driver.btnA = daemon.pressed hidBtnA
  b : driver.btnB = daemon.pressed hidBtnB
  x : driver.btnX = daemon.pressed hidBtnX
  y : driver.btnY = daemon.pressed hidBtnY
  lb : driver.btnLb = daemon.pressed hidBtnLb
  rb : driver.btnRb = daemon.pressed hidBtnRb
  menu : driver.btnMenu = daemon.pressed hidBtnMenu
  view : driver.btnView = daemon.pressed hidBtnView
  ls : driver.btnLs = daemon.pressed hidBtnLs
  rs : driver.btnRs = daemon.pressed hidBtnRs
  hat : driver.hat = daemon.hat
  leftX : driver.leftX = daemon.lx
  leftY : driver.leftY = daemon.ly
  rightX : driver.rightX = daemon.rx
  rightY : driver.rightY = daemon.ry
  triggerLeft : driver.triggerLeft = daemon.lt
  triggerRight : driver.triggerRight = daemon.rt

/-! ## One bit at a time -/

/-- The bit fields of the first two bytes are the bits of the button word. -/
theorem bitField_load16 (payload : List UInt8) {k : Nat} (hk : k < 8) :
    bitField (byteAt payload 0) k = bitAt (load16 payload) k ∧
      bitField (byteAt payload 1) k = bitAt (load16 payload) (8 + k) := by
  have hlow := (byteAt payload 0).toNat_lt
  have hhigh := (byteAt payload 1).toNat_lt
  have hword : (load16 payload).toNat =
      2 ^ 8 * (byteAt payload 1).toNat + (byteAt payload 0).toNat := by
    rw [load16, UInt16.toNat_ofNat']
    omega
  constructor
  · rw [bitAt, hword, Nat.testBit_two_pow_mul_add _ hlow, if_pos hk]
    rfl
  · rw [bitAt, hword, Nat.testBit_two_pow_mul_add _ hlow, if_neg (by omega),
      Nat.add_sub_cancel_left]
    rfl

/-- The daemon's buttons, one bit above the driver's. -/
theorem gipToHid_pressed (g : GipInput) {flag : UInt16} (hflag : flag.toNat < 16) :
    (XoneDarwin.gipToHid g false).pressed ((1 : UInt16) <<< flag) =
      bitAt (XoneDarwin.gipToHid g false).buttons flag.toNat := by
  rw [HidReport.pressed, Bool.eq_iff_iff, decide_eq_true_eq]
  exact Machine.and_bit_ne_zero hflag _

/-- The daemon's hat is the driver's function of the four bits above the driver's. -/
theorem hatOf_bitAt (buttons : UInt16) :
    XoneDarwin.hatOf buttons =
      hatOf (bitAt buttons 8) (bitAt buttons 9) (bitAt buttons 10) (bitAt buttons 11) := by
  have hmask {bit : UInt16} (hbit : bit.toNat < 16) :
      buttons &&& ((1 : UInt16) <<< bit) ≠ 0 ↔ bitAt buttons bit.toNat = true :=
    Machine.and_bit_ne_zero hbit buttons
  have hup := hmask (by decide : (8 : UInt16).toNat < 16)
  have hdown := hmask (by decide : (9 : UInt16).toNat < 16)
  have hleft := hmask (by decide : (10 : UInt16).toNat < 16)
  have hright := hmask (by decide : (11 : UInt16).toNat < 16)
  simp only [XoneDarwin.hatOf, hup, hdown, hleft, hright, hatOf]
  simp [and_assoc]

/-! ## Where the shift does not show -/

/-- The D-pad names no direction: nothing is pressed, or two opposite buttons are. -/
def NoDirection (up down left right : Bool) : Prop :=
  up = true ∧ down = true ∨ left = true ∧ right = true ∨
    up = false ∧ down = false ∧ left = false ∧ right = false

instance (up down left right : Bool) : Decidable (NoDirection up down left right) :=
  inferInstanceAs (Decidable (_ ∨ _))

/-- Two hats one bit apart are equal only if neither names a direction. -/
theorem hatOf_shift_iff (b7 b8 b9 b10 b11 : Bool) :
    hatOf b7 b8 b9 b10 = hatOf b8 b9 b10 b11 ↔
      NoDirection b7 b8 b9 b10 ∧ NoDirection b8 b9 b10 b11 := by
  revert b7 b8 b9 b10 b11
  decide

/-- The button word reads the same one bit further up, as far as both decoders look: the bits 1 to
7 are equal, the bits 11 to 15 are equal, and neither reading finds a D-pad direction. -/
structure ShiftInvariant (buttons : UInt16) : Prop where
  low : ∀ k, 1 ≤ k → k < 7 → bitAt buttons (k + 1) = bitAt buttons k
  high : ∀ k, 11 ≤ k → k < 15 → bitAt buttons (k + 1) = bitAt buttons k
  driverDpad : NoDirection (bitAt buttons 7) (bitAt buttons 8) (bitAt buttons 9) (bitAt buttons 10)
  daemonDpad : NoDirection (bitAt buttons 8) (bitAt buttons 9) (bitAt buttons 10)
    (bitAt buttons 11)

/-! ## Which bit a button shows -/

section

variable (payload : List UInt8)

/-- The buttons of the driver's report. -/
theorem driver_buttons :
    (gipToHid (.load payload)).btnA = bitAt (load16 payload) 3 ∧
      (gipToHid (.load payload)).btnB = bitAt (load16 payload) 4 ∧
      (gipToHid (.load payload)).btnX = bitAt (load16 payload) 5 ∧
      (gipToHid (.load payload)).btnY = bitAt (load16 payload) 6 ∧
      (gipToHid (.load payload)).btnLb = bitAt (load16 payload) 11 ∧
      (gipToHid (.load payload)).btnRb = bitAt (load16 payload) 12 ∧
      (gipToHid (.load payload)).btnMenu = bitAt (load16 payload) 1 ∧
      (gipToHid (.load payload)).btnView = bitAt (load16 payload) 2 ∧
      (gipToHid (.load payload)).btnLs = bitAt (load16 payload) 13 ∧
      (gipToHid (.load payload)).btnRs = bitAt (load16 payload) 14 := by
  have hlow {k : Nat} (hk : k < 8) := (bitField_load16 payload hk).1
  have hhigh {k : Nat} (hk : k < 8) := (bitField_load16 payload hk).2
  exact ⟨hlow (by decide), hlow (by decide), hlow (by decide), hlow (by decide), hhigh (by decide),
    hhigh (by decide), hlow (by decide), hlow (by decide), hhigh (by decide), hhigh (by decide)⟩

/-- The same buttons of the daemon's report. -/
theorem daemon_buttons :
    (XoneDarwin.gipToHid (.load payload) false).pressed hidBtnA = bitAt (load16 payload) 4 ∧
      (XoneDarwin.gipToHid (.load payload) false).pressed hidBtnB = bitAt (load16 payload) 5 ∧
      (XoneDarwin.gipToHid (.load payload) false).pressed hidBtnX = bitAt (load16 payload) 6 ∧
      (XoneDarwin.gipToHid (.load payload) false).pressed hidBtnY = bitAt (load16 payload) 7 ∧
      (XoneDarwin.gipToHid (.load payload) false).pressed hidBtnLb = bitAt (load16 payload) 12 ∧
      (XoneDarwin.gipToHid (.load payload) false).pressed hidBtnRb = bitAt (load16 payload) 13 ∧
      (XoneDarwin.gipToHid (.load payload) false).pressed hidBtnMenu = bitAt (load16 payload) 2 ∧
      (XoneDarwin.gipToHid (.load payload) false).pressed hidBtnView = bitAt (load16 payload) 3 ∧
      (XoneDarwin.gipToHid (.load payload) false).pressed hidBtnLs = bitAt (load16 payload) 14 ∧
      (XoneDarwin.gipToHid (.load payload) false).pressed hidBtnRs = bitAt (load16 payload) 15 := by
  refine ⟨?_, ?_, ?_, ?_, ?_, ?_, ?_, ?_, ?_, ?_⟩
  all_goals
    rw [gipToHid_pressed _ (by decide), gipToHid_bitAt]
    simp [GipInput.load]

/-- The driver's hat. -/
theorem driver_hat : (gipToHid (.load payload)).hat =
    hatOf (bitAt (load16 payload) 7) (bitAt (load16 payload) 8) (bitAt (load16 payload) 9)
      (bitAt (load16 payload) 10) := by
  have hlow := (bitField_load16 payload (by decide : 7 < 8)).1
  have hhigh {k : Nat} (hk : k < 8) := (bitField_load16 payload hk).2
  simp only [gipToHid, GipInputReport.load, hlow, hhigh (by decide : 0 < 8),
    hhigh (by decide : 1 < 8), hhigh (by decide : 2 < 8)]

end

/-- Driver and daemon decode a payload alike, of whatever length, exactly if its button word is the
same one bit further up where they look. -/
theorem decoders_agree_iff (payload : List UInt8) :
    (gipToHid (.load payload)).Agrees (XoneDarwin.gipToHid (.load payload) false) ↔
      ShiftInvariant (load16 payload) := by
  obtain ⟨da, db, dx, dy, dlb, drb, dmenu, dview, dls, drs⟩ := driver_buttons payload
  obtain ⟨ha, hb, hx, hy, hlb, hrb, hmenu, hview, hls, hrs⟩ := daemon_buttons payload
  have hhat : (XoneDarwin.gipToHid (.load payload) false).hat = _ := hatOf_bitAt (load16 payload)
  rw [XboxHidReport.agrees_iff, da, db, dx, dy, dlb, drb, dmenu, dview, dls, drs, ha, hb, hx, hy,
    hlb, hrb, hmenu, hview, hls, hrs, driver_hat, hhat]
  constructor
  · rintro ⟨a, b, x, y, lb, rb, menu, view, ls, rs, hat, -⟩
    obtain ⟨hdriver, hdaemon⟩ := (hatOf_shift_iff _ _ _ _ _).mp hat
    refine ⟨fun k hlow hhigh => ?_, fun k hlow hhigh => ?_, hdriver, hdaemon⟩
    · match k, hlow, hhigh with
      | 1, _, _ => exact menu.symm
      | 2, _, _ => exact view.symm
      | 3, _, _ => exact a.symm
      | 4, _, _ => exact b.symm
      | 5, _, _ => exact x.symm
      | 6, _, _ => exact y.symm
    · match k, hlow, hhigh with
      | 11, _, _ => exact lb.symm
      | 12, _, _ => exact rb.symm
      | 13, _, _ => exact ls.symm
      | 14, _, _ => exact rs.symm
  · intro hshift
    have low {k : Nat} (hpos : 1 ≤ k) (hk : k < 7) := (hshift.low k hpos hk).symm
    have high {k : Nat} (hpos : 11 ≤ k) (hk : k < 15) := (hshift.high k hpos hk).symm
    have hat := (hatOf_shift_iff _ _ _ _ _).mpr ⟨hshift.driverDpad, hshift.daemonDpad⟩
    exact ⟨low (by decide) (by decide), low (by decide) (by decide), low (by decide) (by decide),
      low (by decide) (by decide), high (by decide) (by decide), high (by decide) (by decide),
      low (by decide) (by decide), low (by decide) (by decide), high (by decide) (by decide),
      high (by decide) (by decide), hat, rfl, rfl, rfl, rfl, rfl, rfl⟩

/-- The A button alone: the driver reports B. -/
theorem button_a_is_b :
    ¬(gipToHid (.load (0x10 :: List.replicate 17 0))).Agrees
      (XoneDarwin.gipToHid (.load (0x10 :: List.replicate 17 0)) false) := by
  intro hagrees
  exact absurd hagrees.a (by decide)

end DriverKit

end XoneDarwin
