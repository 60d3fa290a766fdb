import Mathlib.Tactic.IntervalCases
import XoneDarwin.Mt76.Radio

/-!
# Crystal calibration

`mt76InitRegisters` adds a signed offset to a base trim, both from EFUSE, and writes the
sum into a seven-bit field of `XO_CTRL5`. The sum is taken modulo 256 and the field
modulo 128.
-/

namespace XoneDarwin

/-! ## The trim that is meant -/

/-- What a read of the fuses gives of one byte. -/
def fuseByte (readable : Bool) (byte : UInt8) : Option UInt8 :=
  if readable then some byte else none

/-- A base trim, if it is there: `0x00` and `0xff` are blank fuses. -/
def programmed (byte : Option UInt8) : Option UInt8 :=
  byte.filter fun b => b ≠ 0x00 && b ≠ 0xff

/-- The base trim in use, as the field has it. -/
def baseTrim (primary secondary : Option UInt8) : Int :=
  ((((programmed primary).or (programmed secondary)).getD 0x14) &&& 0x7f).toNat

/-- The offset, a sign and a magnitude; none if the fuse is blank or was not read. -/
def trimOffset (byte : Option UInt8) : Int :=
  match byte with
  | none => 0
  | some b => if b = 0xff then 0 else if b.toNat < 0x80 then b.toNat else 0x80 - b.toNat

/-- The trim of a dongle with fuses `rom`, of which the two words can be read or not. -/
def exactTrim (rom : Nat → UInt8) (trim2 trim1 : Bool) : Int :=
  baseTrim (fuseByte trim2 (rom 0x9f)) (fuseByte trim1 (rom 0x3a)) +
    trimOffset (fuseByte trim2 (rom 0x9e))

/-- The field value closest to it. -/
def nearestTrim (trim : Int) : Int :=
  max 0 (min 127 trim)

/-! ## The trim that is written -/

/-- The latest value written to `XO_CTRL5`. -/
def xo5Written? (log : UsbLog) : Option UInt32 :=
  log.findSome? fun
    | .ctrlWrite addr val _ _ => if addr = mtXoCtrl5 then some val else none
    | _ => none

/-- The trim field, bits 14:8. -/
def trimField (xo5 : UInt32) : Nat :=
  ((xo5 >>> 8) &&& 0x7f).toNat

section

variable (dongle : Dongle)

/-- The histories of a read of one trim word. -/
def DuringTrim (addr : UInt8) (start log : UsbLog) : Prop :=
  start <:+ log ∧ log <:+ (mt76EfuseRead dongle addr 4 start).2.2

/-- A read of a trim word succeeds or fails as a whole, reported or not. -/
def TrimReads (rom : Nat → UInt8) (readable : Bool) (addr : UInt8) (start : UsbLog) : Prop :=
  if readable then dongle.ReadsEfuse rom (DuringTrim dongle addr start)
  else dongle.FailsEfuse (DuringTrim dongle addr start) ∨
    dongle.DropsEfuse (DuringTrim dongle addr start)

/-- Where `mt76InitRegisters` has come to when it reads the second trim word, the first one
and `XO_CTRL5`. -/
def beforeTrim2 (log : UsbLog) : UsbLog :=
  mt76Writes dongle initRegisterWrites log

def beforeTrim1 (log : UsbLog) : UsbLog :=
  (mt76EfuseRead dongle mtEeXtalTrim2 4 (beforeTrim2 dongle log)).2.2

def beforeXo5 (log : UsbLog) : UsbLog :=
  (xtalTrim dongle (beforeTrim2 dongle log)).2

/-- What the three reads meet: fuses `rom`, and `prior` in the register. -/
structure CrystalReads (rom : Nat → UInt8) (prior : UInt32) (trim2 trim1 xo5 : Bool)
    (log : UsbLog) : Prop where
  second : TrimReads dongle rom trim2 mtEeXtalTrim2 (beforeTrim2 dongle log)
  first : programmed (fuseByte trim2 (rom 0x9f)) = none →
    TrimReads dongle rom trim1 mtEeXtalTrim1 (beforeTrim1 dongle log)
  register : dongle.ctrlRead (beforeXo5 dongle log) mtXoCtrl5 mtVendMultiRead =
    if xo5 then some prior else none

/-- The field gets the value closest to the trim and the rest of the register stays. -/
def Calibrates (prior : UInt32) (trim : Int) (log : UsbLog) : Prop :=
  ∃ written, xo5Written? (mt76InitRegisters dongle log) = some written ∧
    (trimField written : Int) = nearestTrim trim ∧
    written &&& ~~~(0x7f00 : UInt32) = prior &&& ~~~(0x7f00 : UInt32)

end

/-! ## Reads -/

section

variable {dongle : Dongle} {rom : Nat → UInt8}

/-- What blank fuses read as. -/
def IsBlank (b : UInt8) : Prop :=
  b = 0x00 ∨ b = 0xff

/-- A word that cannot be read is blank: the array is filled with ones, and a failed transfer
gives zeros. -/
theorem trimWord_read {readable : Bool} {addr : UInt8} (haddr : (addr &&& 0x0c).toNat + 4 ≤ 16)
    {start : UsbLog} (hreads : TrimReads dongle rom readable addr start) :
    ∃ blank, IsBlank blank ∧
      (mt76EfuseRead dongle addr 4 start).2.1 = (List.range 4).map fun k =>
        (fuseByte readable (rom (addr.toNat - addr.toNat % 4 + k))).getD blank := by
  cases readable with
  | false =>
      have hcases : dongle.FailsEfuse (DuringTrim dongle addr start) ∨
        dongle.DropsEfuse (DuringTrim dongle addr start) := hreads
      rcases hcases with hfails | hdrops
      · exact ⟨0xff, Or.inr rfl, (mt76EfuseRead_timeout dongle fun kicked hstart hend =>
          hfails kicked ⟨hstart, hend⟩).2⟩
      · exact ⟨0x00, Or.inl rfl,
          (mt76EfuseRead_drops dongle hdrops haddr fun middle hstart hend => ⟨hstart, hend⟩).2⟩
  | true =>
      have hworks : dongle.ReadsEfuse rom (DuringTrim dongle addr start) := hreads
      exact ⟨0xff, Or.inr rfl,
        (mt76EfuseRead_block dongle hworks haddr fun middle hstart hend => ⟨hstart, hend⟩).2⟩

theorem load16_high (low high : UInt8) : (load16 [low, high] >>> 8).toUInt8 = high := by
  have hlow := low.toNat_lt
  have hhigh := high.toNat_lt
  apply UInt8.toNat_inj.mp
  simp only [load16, byteAt_cons_zero, byteAt_cons_succ, UInt16.toNat_toUInt8,
    UInt16.toNat_shiftRight, UInt16.toNat_ofNat', UInt16.reduceToNat, Nat.shiftRight_eq_div_pow,
    Nat.reduceMod, Nat.reducePow]
  omega

theorem load16_low (low high : UInt8) : load16 [low, high] &&& 0xff = low.toUInt16 := by
  have hlow := low.toNat_lt
  have hhigh := high.toNat_lt
  have hmask (n : Nat) : n &&& 0xff = n % 0x100 := Nat.and_two_pow_sub_one_eq_mod n 8
  apply UInt16.toNat_inj.mp
  simp only [load16, byteAt_cons_zero, byteAt_cons_succ, UInt16.toNat_and, UInt16.toNat_ofNat',
    UInt16.reduceToNat, hmask, UInt8.toNat_toUInt16]
  omega

theorem xtalOffset_load16 (low high : UInt8) :
    xtalOffset (load16 [low, high]) = trimOffset (some low) := by
  have hpart (mask : UInt16) (hmask : 0xff &&& mask = mask) :
      load16 [low, high] &&& mask = low.toUInt16 &&& mask := by
    rw [← load16_low low high, UInt16.and_assoc, hmask]
  have hbyte : ∀ n : Fin 256, (if UInt16.ofNat n = 0xff then (0 : Int)
      else if UInt16.ofNat n &&& 0x80 ≠ 0 then -((UInt16.ofNat n &&& 0x7f).toNat : Int)
      else (UInt16.ofNat n &&& 0x7f).toNat) =
        if n.val = 0xff then 0 else if n.val < 0x80 then (n.val : Int) else 0x80 - n.val := by
    decide +kernel
  have hlow := hbyte ⟨low.toNat, low.toNat_lt⟩
  have hblank : low = 0xff ↔ low.toNat = 0xff := UInt8.toNat_inj.symm
  rw [UInt16.ofNat_uInt8ToNat] at hlow
  simp only [xtalOffset, load16_low, hpart 0x80 (by decide), hpart 0x7f (by decide), trimOffset,
    hblank]
  exact hlow

/-- A byte that was not read looks like a blank one. -/
theorem programmed_eq {blank : UInt8} (hblank : IsBlank blank) (byte : Option UInt8) :
    programmed byte =
      if byte.getD blank = 0x00 ∨ byte.getD blank = 0xff then none
      else some (byte.getD blank) := by
  cases byte with
  | none => exact (if_pos hblank).symm
  | some b =>
      rw [programmed, Option.filter_some, Option.getD_some]
      by_cases hbyte : b = 0x00 ∨ b = 0xff
      · rw [if_pos hbyte]
        rcases hbyte with rfl | rfl <;> rfl
      · obtain ⟨hzero, hones⟩ := not_or.mp hbyte
        simp [hzero, hones]

theorem trimOffset_getD {blank : UInt8} (hblank : IsBlank blank) (byte : Option UInt8) :
    trimOffset (some (byte.getD blank)) = trimOffset byte := by
  cases byte with
  | none => rcases hblank with rfl | rfl <;> rfl
  | some b => rfl

/-- The code's trim is the exact one, modulo 256. -/
theorem xtalTrim_val {prior : UInt32} {trim2 trim1 xo5 : Bool} {log : UsbLog}
    (hreads : CrystalReads dongle rom prior trim2 trim1 xo5 log) :
    (xtalTrim dongle (beforeTrim2 dongle log)).1 = UInt8.ofInt (exactTrim rom trim2 trim1) := by
  obtain ⟨blank, hblank, hword⟩ := trimWord_read (by decide) hreads.second
  have hsecond : (mt76EfuseRead dongle mtEeXtalTrim2 4 (beforeTrim2 dongle log)).2.1.drop 2 =
      [(fuseByte trim2 (rom 0x9e)).getD blank, (fuseByte trim2 (rom 0x9f)).getD blank] := by
    rw [hword]
    rfl
  -- the first trim word is only read where the second one has no base trim
  have hfirst (hnone : programmed (fuseByte trim2 (rom 0x9f)) = none) :
      ∃ blank, IsBlank blank ∧ byteAt (mt76EfuseRead dongle mtEeXtalTrim1 4
        (mt76EfuseRead dongle mtEeXtalTrim2 4 (beforeTrim2 dongle log)).2.2).2.1 2 =
        (fuseByte trim1 (rom 0x3a)).getD blank := by
    obtain ⟨blank, hblank, hread⟩ := trimWord_read (by decide) (hreads.first hnone)
    rw [beforeTrim1] at hread
    rw [hread]
    exact ⟨blank, hblank, rfl⟩
  have hprimary := programmed_eq hblank (fuseByte trim2 (rom 0x9f))
  simp only [xtalTrim, hsecond, load16_high, xtalOffset_load16, trimOffset_getD hblank]
  rw [exactTrim, baseTrim]
  split at hprimary
  next hbyte =>
    obtain ⟨blank, hblank, hread⟩ := hfirst hprimary
    rw [if_pos hbyte, hread, hprimary, Option.none_or, programmed_eq hblank]
    split <;> rfl
  next hbyte =>
    rw [if_neg hbyte, hprimary]
    rfl

/-! ## The field -/

/-- The value `mt76InitRegisters` writes for what it read from the register and the trim. -/
def mergeTrim (xo5 : UInt32) (trim : UInt8) : UInt32 :=
  (xo5 &&& ~~~(0x7f00 : UInt32)) ||| ((trim.toUInt32 <<< 8) &&& 0x7f00)

theorem trimField_mergeTrim (xo5 : UInt32) (trim : UInt8) :
    trimField (mergeTrim xo5 trim) = trim.toNat % 128 := by
  have hfield : (mergeTrim xo5 trim >>> 8) &&& 0x7f = trim.toUInt32 &&& 0x7f := by
    apply UInt32.toBitVec_inj.mp
    apply BitVec.eq_of_getLsbD_eq
    intro i hi
    simp only [mergeTrim, UInt32.toBitVec_and, UInt32.toBitVec_shiftRight, UInt32.toBitVec_or,
      UInt32.toBitVec_not, UInt32.toBitVec_shiftLeft]
    interval_cases i <;> simp
  have hmask : trim.toNat &&& 0x7f = trim.toNat % 128 := Nat.and_two_pow_sub_one_eq_mod _ 7
  rw [trimField, hfield, UInt32.toNat_and, UInt8.toNat_toUInt32]
  exact hmask

theorem rest_mergeTrim (xo5 : UInt32) (trim : UInt8) :
    mergeTrim xo5 trim &&& ~~~(0x7f00 : UInt32) = xo5 &&& ~~~(0x7f00 : UInt32) := by
  apply UInt32.toBitVec_inj.mp
  apply BitVec.eq_of_getLsbD_eq
  intro i hi
  simp only [mergeTrim, UInt32.toBitVec_and, UInt32.toBitVec_or, UInt32.toBitVec_not,
    UInt32.toBitVec_shiftLeft]
  interval_cases i <;> simp

variable (dongle) in
theorem xo5Written_init (log : UsbLog) :
    xo5Written? (mt76InitRegisters dongle log) =
      some (mergeTrim ((dongle.ctrlRead (beforeXo5 dongle log) mtXoCtrl5 mtVendMultiRead).getD 0)
        (xtalTrim dongle (beforeTrim2 dongle log)).1) := rfl

/-! ## The sum -/

theorem exactTrim_bounds (rom : Nat → UInt8) (trim2 trim1 : Bool) :
    -127 ≤ exactTrim rom trim2 trim1 ∧ exactTrim rom trim2 trim1 ≤ 254 := by
  have hbase (b : UInt8) : (b &&& 0x7f).toNat ≤ 127 := by
    rw [UInt8.toNat_and]
    exact Nat.and_le_right
  have hoffset (byte : Option UInt8) : -127 ≤ trimOffset byte ∧ trimOffset byte ≤ 127 := by
    cases byte with
    | none => decide
    | some b =>
        have hb := b.toNat_lt
        rw [trimOffset]
        split_ifs <;> omega
  have hsum := hoffset (fuseByte trim2 (rom 0x9e))
  have hfield := hbase
    (((programmed (fuseByte trim2 (rom 0x9f))).or (programmed (fuseByte trim1 (rom 0x3a)))).getD 0x14)
  rw [exactTrim, baseTrim]
  omega

theorem trim_mod (trim : Int) : ((UInt8.ofInt trim).toNat % 128 : Nat) = trim % 128 := by
  have hbyte : (UInt8.ofInt trim).toNat = (trim % 256).toNat % 256 := rfl
  rw [hbyte]
  omega

/-- The crystal is calibrated just if the sum fits the field and the register could be read. -/
theorem calibrates_iff {prior : UInt32} {trim2 trim1 xo5 : Bool} {log : UsbLog}
    (hreads : CrystalReads dongle rom prior trim2 trim1 xo5 log) :
    Calibrates dongle prior (exactTrim rom trim2 trim1) log ↔
      (0 ≤ exactTrim rom trim2 trim1 ∧ exactTrim rom trim2 trim1 ≤ 127) ∧
        (xo5 = true ∨ prior &&& ~~~(0x7f00 : UInt32) = 0) := by
  have hbounds := exactTrim_bounds rom trim2 trim1
  have hwritten := xo5Written_init dongle log
  rw [xtalTrim_val hreads, hreads.register] at hwritten
  have hfield : ((exactTrim rom trim2 trim1) % 128 = nearestTrim (exactTrim rom trim2 trim1)) ↔
      0 ≤ exactTrim rom trim2 trim1 ∧ exactTrim rom trim2 trim1 ≤ 127 := by
    rw [nearestTrim]
    omega
  have hrest : ((if xo5 then some prior else none).getD 0 &&& ~~~(0x7f00 : UInt32) =
      prior &&& ~~~(0x7f00 : UInt32)) ↔ xo5 = true ∨ prior &&& ~~~(0x7f00 : UInt32) = 0 := by
    cases xo5 with
    | true => simp
    | false => simp [eq_comm]
  rw [← hfield, ← hrest]
  constructor
  · rintro ⟨written, hread, htrim, hothers⟩
    rw [hwritten] at hread
    cases hread
    rw [trimField_mergeTrim, trim_mod] at htrim
    rw [rest_mergeTrim] at hothers
    exact ⟨htrim, hothers⟩
  · rintro ⟨htrim, hothers⟩
    refine ⟨_, hwritten, ?_, ?_⟩
    · rw [trimField_mergeTrim, trim_mod, htrim]
    · rw [rest_mergeTrim, hothers]

end

/-! ## Fuses at the end of the range -/

theorem romDongle_crystalReads (rom : Nat → UInt8) (log : UsbLog) :
    CrystalReads (romDongle rom) rom 0 true true true log where
  second := romDongle_readsEfuse rom _
  first _ := romDongle_readsEfuse rom _
  register := rfl

/-- Base trim 127 and offset 1. -/
def topRom (addr : Nat) : UInt8 :=
  if addr = 0x9f then 0x7f else if addr = 0x9e then 0x01 else 0x00

theorem calibrates_iff_top :
    Calibrates (romDongle topRom) 0 (exactTrim topRom true true) [] ↔
      (0 ≤ exactTrim topRom true true ∧ exactTrim topRom true true ≤ 127) ∧
        (true = true ∨ (0 : UInt32) &&& ~~~(0x7f00 : UInt32) = 0) :=
  calibrates_iff (romDongle_crystalReads topRom [])

/-- The sum 128 becomes 0. -/
theorem topRom_wraps :
    exactTrim topRom true true = 128 ∧
      xo5Written? (mt76InitRegisters (romDongle topRom) []) = some 0 ∧
      ¬Calibrates (romDongle topRom) 0 (exactTrim topRom true true) [] := by
  have hwritten : xo5Written? (mt76InitRegisters (romDongle topRom) []) = some 0 := by
    decide +kernel
  refine ⟨by decide +kernel, hwritten, ?_⟩
  rintro ⟨written, hread, htrim, -⟩
  rw [hwritten] at hread
  cases hread
  revert htrim
  decide +kernel

end XoneDarwin
