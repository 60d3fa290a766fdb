import XoneDarwin.Bridge.Guide
import XoneDarwin.Daemon.Reports
import XoneDarwin.Machine.HidDescriptor

/-!
# What a host reads

The gamepads are created with `kHIDDescriptor`, or with `kHIDDescriptorFallback` where the
host refuses it. Reports are the packed bytes of `xbox_hid_report_t`; a host reads them
through the descriptor the gamepad was created with, and finds every control. The centred hat
is its null state, and a trigger above 1023 is no value at all.
-/

namespace XoneDarwin

open Machine (bitAt run)
open Machine.Hid

/-! ## Descriptors and reports -/

def kHidDescriptor : List UInt8 :=
  [0x05, 0x01, 0x09, 0x05, 0xa1, 0x01,
    0x05, 0x09, 0x19, 0x01, 0x29, 0x0d, 0x15, 0x00, 0x25, 0x01, 0x75, 0x01, 0x95, 0x0d, 0x81, 0x02,
    0x75, 0x03, 0x95, 0x01, 0x81, 0x03,
    0x05, 0x01, 0x09, 0x39, 0x15, 0x00, 0x25, 0x07, 0x35, 0x00, 0x46, 0x3b, 0x01, 0x65, 0x14,
    0x75, 0x04, 0x95, 0x01, 0x81, 0x42, 0x65, 0x00, 0x75, 0x04, 0x95, 0x01, 0x81, 0x03,
    0x09, 0x30, 0x09, 0x31, 0x09, 0x33, 0x09, 0x34,
    0x16, 0x00, 0x80, 0x26, 0xff, 0x7f, 0x75, 0x10, 0x95, 0x04, 0x81, 0x02,
    0x09, 0x32, 0x09, 0x35, 0x15, 0x00, 0x26, 0xff, 0x03, 0x75, 0x10, 0x95, 0x02, 0x81, 0x02, 0xc0]

def kHidDescriptorFallback : List UInt8 :=
  [0x05, 0x01, 0x09, 0x05, 0xa1, 0x01,
    0x05, 0x09, 0x19, 0x01, 0x29, 0x10, 0x15, 0x00, 0x25, 0x01, 0x75, 0x01, 0x95, 0x10, 0x81, 0x02,
    0x05, 0x01, 0x09, 0x39, 0x15, 0x00, 0x25, 0x07, 0x35, 0x00, 0x46, 0x3b, 0x01, 0x65, 0x14,
    0x75, 0x04, 0x95, 0x01, 0x81, 0x42, 0x65, 0x00, 0x75, 0x04, 0x95, 0x01, 0x81, 0x03,
    0x09, 0x30, 0x09, 0x31, 0x09, 0x33, 0x09, 0x34,
    0x16, 0x00, 0x80, 0x26, 0xff, 0x7f, 0x75, 0x10, 0x95, 0x04, 0x81, 0x02,
    0x09, 0x32, 0x09, 0x35, 0x15, 0x00, 0x26, 0xff, 0x03, 0x75, 0x10, 0x95, 0x02, 0x81, 0x02, 0xc0]

def kProbeDesc : List UInt8 :=
  [0x05, 0x01, 0x09, 0x06, 0xa1, 0x01,
    0x05, 0x07, 0x19, 0xe0, 0x29, 0xe7, 0x15, 0x00, 0x25, 0x01, 0x75, 0x01, 0x95, 0x08, 0x81, 0x02,
    0x95, 0x01, 0x75, 0x08, 0x81, 0x03,
    0x95, 0x06, 0x75, 0x08, 0x15, 0x00, 0x25, 0x65, 0x05, 0x07, 0x19, 0x00, 0x29, 0x65, 0x81, 0x00,
    0xc0]

/-- The bytes of a descriptor. -/
def HidDescriptor.bytes : HidDescriptor → List UInt8
  | .primary => kHidDescriptor
  | .fallback => kHidDescriptorFallback
  | .probe => kProbeDesc

/-- The packed struct. -/
def HidReport.bytes (report : HidReport) : List UInt8 :=
  store16 report.buttons ++ (report.hat :: (store16 report.lx.toUInt16 ++
    (store16 report.ly.toUInt16 ++ (store16 report.rx.toUInt16 ++ (store16 report.ry.toUInt16 ++
    (store16 report.lt ++ store16 report.rt))))))

/-! ## Layouts -/

/-- The first buttons, one bit each. -/
def buttonFields (count : Nat) : List Field :=
  (List.range count).map fun k => ⟨9, k + 1, 0, 1, false, false, k, 1⟩

/-- The hat switch. -/
def hatField : Field :=
  ⟨1, 0x39, 0, 7, false, true, 16, 4⟩

/-- One of the sticks' axes. -/
def stickField (usage offset : Nat) (relative : Bool) : Field :=
  ⟨1, usage, -32768, 32767, relative, false, offset, 16⟩

/-- The triggers. -/
def triggerFields : List Field :=
  [⟨1, 0x32, 0, 1023, false, false, 88, 16⟩, ⟨1, 0x35, 0, 1023, false, false, 104, 16⟩]

/-- The hat switch, the sticks and the triggers. -/
def axisFields (relative : Bool) : List Field :=
  hatField :: ([stickField 0x30 24 relative, stickField 0x31 40 relative,
    stickField 0x33 56 relative, stickField 0x34 72 relative] ++ triggerFields)

/-- A button is on or off, and a report has it. -/
theorem buttonFields_spec {count : Nat} {field : Field} (hfield : field ∈ buttonFields count) :
    field.relative = false ∧ field.nullState = false ∧ field.Full := by
  obtain ⟨k, -, rfl⟩ := List.mem_map.mp hfield
  exact ⟨rfl, rfl, rfl, Int.le_refl 2⟩

/-- A stick takes any value. -/
theorem stickField_full (usage offset : Nat) (relative : Bool) :
    (stickField usage offset relative).Full := by
  have hlow : (-32768 : Int) ≤ -((2 ^ 16 : Nat) / 2 : Int) := by decide
  have hhigh : (((2 ^ 16 : Nat) + 1) / 2 : Int) ≤ 32767 + 1 := by decide
  exact ⟨hlow, hhigh⟩

theorem triggerFields_spec {field : Field} (hfield : field ∈ triggerFields) :
    field.relative = false ∧ field.nullState = false := by
  revert field
  decide

theorem axisFields_cases {relative : Bool} {field : Field} (hfield : field ∈ axisFields relative) :
    field = hatField ∨ (∃ usage offset, field = stickField usage offset relative) ∨
      field ∈ triggerFields := by
  rw [axisFields, List.mem_cons, List.mem_append] at hfield
  refine hfield.imp_right (Or.imp_left fun hstick => ?_)
  simp only [List.mem_cons, List.not_mem_nil, or_false] at hstick
  rcases hstick with h | h | h | h <;> exact ⟨_, _, h⟩

theorem layout_primary : layout kHidDescriptor = buttonFields 13 ++ axisFields false := by
  decide +kernel

theorem layout_fallback :
    layout kHidDescriptorFallback = buttonFields 16 ++ axisFields false := by
  decide +kernel

/-! ## Values -/

theorem littleEndian_store16 (x : UInt16) : littleEndian (store16 x) = x.toNat := by
  have hx := x.toNat_lt
  simp [littleEndian, store16, Nat.ofDigits_cons]
  omega

/-- A word of a report. -/
theorem bitsAt_store16 (front : List UInt8) (x : UInt16) (back : List UInt8) :
    bitsAt (front ++ (store16 x ++ back)) (8 * front.length) 16 = x.toNat := by
  have hback := bitsAt_back front (store16 x ++ back) 0 16
  rw [Nat.add_zero, bitsAt_front (store16 x) back (Nat.le_refl 16)] at hback
  rw [hback, bitsAt, littleEndian_store16, Nat.pow_zero, Nat.div_one]
  exact Nat.mod_eq_of_lt x.toNat_lt

/-- A signed word. -/
theorem bmod_toUInt16 (x : Int16) : (x.toUInt16.toNat : Int).bmod (2 ^ 16) = x.toInt :=
  (BitVec.toInt_eq_toNat_bmod x.toBitVec).symm

/-- A stick is always in range. -/
theorem read_stick {report : List UInt8} {usage offset : Nat} {relative : Bool} {x : Int16}
    (hbits : bitsAt report offset 16 = x.toUInt16.toNat) :
    (stickField usage offset relative).read report = some x.toInt := by
  have hraw : (stickField usage offset relative).raw report = x.toInt := by
    have hsigned : (-32768 : Int) < 0 := by decide
    simp only [Field.raw, stickField, hsigned, if_true, hbits, bmod_toUInt16]
  rw [Field.read, hraw]
  exact within_of_le x.le_toInt (Int.le_of_lt_add_one x.toInt_lt)

/-- One of the sixteen buttons. -/
theorem bitsAt_button (report : HidReport) {k : Nat} (hk : k < 16) :
    bitsAt report.bytes k 1 = (bitAt report.buttons k).toNat := by
  rw [HidReport.bytes, bitsAt_front (store16 report.buttons) _ (by simpa using by omega), bitsAt,
    littleEndian_store16, bitAt, Nat.toNat_testBit, Nat.pow_one]

/-- The buttons as the host reads them. -/
def HidReport.buttonControls (report : HidReport) (count : Nat) : List Control :=
  (List.range count).map fun k => ⟨9, k + 1, some (bitAt report.buttons k).toNat⟩

/-- The hat switch, the sticks and the triggers as the host reads them. -/
def HidReport.axisControls (report : HidReport) : List Control :=
  [⟨1, 0x39, within 0 7 report.hat.toNat⟩, ⟨1, 0x30, some report.lx.toInt⟩,
    ⟨1, 0x31, some report.ly.toInt⟩, ⟨1, 0x33, some report.rx.toInt⟩,
    ⟨1, 0x34, some report.ry.toInt⟩, ⟨1, 0x32, within 0 1023 report.lt.toNat⟩,
    ⟨1, 0x35, within 0 1023 report.rt.toNat⟩]

/-- Triggers are read up to 1023. -/
theorem trigger_iff {x : UInt16} : x ≤ 1023 ↔ (within 0 1023 x.toNat).isSome = true := by
  rw [within_isSome, and_iff_right (Int.natCast_nonneg _)]
  exact Int.ofNat_le.symm

/-- A trigger in range can be told from any other value, -/
theorem within_trigger {x y : UInt16} (hx : x ≤ 1023)
    (hxy : within 0 1023 x.toNat = within 0 1023 y.toNat) : x = y := by
  have hle : x.toNat ≤ 1023 := hx
  rw [within_of_le (Int.natCast_nonneg _) (by omega), eq_comm, within_eq_some] at hxy
  exact UInt16.toNat_inj.mp (Int.ofNat_inj.mp hxy.1.symm)

/-- and a hat without a value is centred. -/
theorem within_hat {x y : UInt8} (hx : x.toNat ≤ 8) (hy : y.toNat ≤ 8)
    (hxy : within 0 7 x.toNat = within 0 7 y.toNat) : x = y := by
  apply UInt8.toNat_inj.mp
  rw [within, within] at hxy
  split_ifs at hxy
  · exact Int.ofNat_inj.mp (Option.some.inj hxy)
  · omega

theorem within_bit (bit : Bool) : within 0 1 bit.toNat = some (bit.toNat : Int) := by
  cases bit <;> rfl

section

variable {report : HidReport}

theorem map_buttonFields {count : Nat} (hcount : count ≤ 16) :
    (buttonFields count).map (fun field => Control.mk field.usagePage field.usage
      (field.read report.bytes)) = report.buttonControls count := by
  rw [buttonFields, List.map_map]
  apply List.map_congr_left
  intro k hk
  have hlt : k < 16 := (List.mem_range.mp hk).trans_le hcount
  simp only [Function.comp_apply, Field.read, Field.raw, Int.lt_irrefl, if_false]
  rw [bitsAt_button report hlt, within_bit]

theorem map_triggerFields (report : HidReport) :
    triggerFields.map (Field.read · report.bytes) =
      [within 0 1023 report.lt.toNat, within 0 1023 report.rt.toNat] := by
  have hlt : bitsAt report.bytes 88 16 = report.lt.toNat :=
    bitsAt_store16 (report.bytes.take 11) _ _
  have hrt : bitsAt report.bytes 104 16 = report.rt.toNat :=
    bitsAt_store16 (report.bytes.take 13) _ []
  simp only [triggerFields, List.map_cons, List.map_nil, Field.read, Field.raw, Int.lt_irrefl,
    if_false, hlt, hrt]

/-- Four bits of the hat byte are read. -/
theorem map_axisFields (hfits : report.hat.toNat < 16) :
    (axisFields false).map (fun field => Control.mk field.usagePage field.usage
      (field.read report.bytes)) = report.axisControls := by
  have hhat : bitsAt report.bytes 16 4 = report.hat.toNat := by
    have hback := bitsAt_back (store16 report.buttons) (report.hat :: (report.bytes.drop 3)) 0 4
    have hfront := bitsAt_front [report.hat] (report.bytes.drop 3) (by decide : 0 + 4 ≤ 8 * 1)
    refine (hback.trans hfront).trans ?_
    rw [bitsAt, Nat.pow_zero, Nat.div_one]
    exact Nat.mod_eq_of_lt hfits
  have hlx : bitsAt report.bytes 24 16 = report.lx.toUInt16.toNat :=
    bitsAt_store16 (report.bytes.take 3) _ _
  have hly : bitsAt report.bytes 40 16 = report.ly.toUInt16.toNat :=
    bitsAt_store16 (report.bytes.take 5) _ _
  have hrx : bitsAt report.bytes 56 16 = report.rx.toUInt16.toNat :=
    bitsAt_store16 (report.bytes.take 7) _ _
  have hry : bitsAt report.bytes 72 16 = report.ry.toUInt16.toNat :=
    bitsAt_store16 (report.bytes.take 9) _ _
  have hread : hatField.read report.bytes = within 0 7 report.hat.toNat := by
    simp only [Field.read, Field.raw, hatField, Int.lt_irrefl, if_false, hhat]
  have htriggers := map_triggerFields report
  simp only [triggerFields, List.map_cons, List.map_nil, List.cons.injEq, and_true] at htriggers
  simp only [axisFields, triggerFields, List.map_cons, List.map_nil, List.cons_append,
    List.nil_append, hread, read_stick hlx, read_stick hly, read_stick hrx, read_stick hry,
    htriggers, HidReport.axisControls]
  rfl

/-- Through the primary descriptor a host reads 13 buttons and every axis, -/
theorem controls_primary (hfits : report.hat.toNat < 16) :
    controls kHidDescriptor report.bytes = report.buttonControls 13 ++ report.axisControls := by
  rw [controls, layout_primary, List.map_append, map_buttonFields (by decide), map_axisFields hfits]

/-- through the fallback descriptor three buttons more. -/
theorem controls_fallback (hfits : report.hat.toNat < 16) :
    controls kHidDescriptorFallback report.bytes =
      report.buttonControls 16 ++ report.axisControls := by
  rw [controls, layout_fallback, List.map_append, map_buttonFields (by decide), map_axisFields hfits]

/-- The fields are absolute: wherever the host was before, a report with its triggers in range puts
it where it says. -/
theorem track_report (hrange : report.lt ≤ 1023 ∧ report.rt ≤ 1023) {field : Field}
    (hfield : field ∈ layout kHidDescriptor ++ layout kHidDescriptorFallback)
    (position : Option Int) : field.track position report.bytes = field.read report.bytes := by
  have hread (habsolute : field.relative = false)
      (hsome : (field.read report.bytes).isSome = true) :
      field.track position report.bytes = field.read report.bytes := by
    obtain ⟨value, hvalue⟩ := Option.isSome_iff_exists.mp hsome
    rw [Field.track_some hvalue, habsolute, if_neg Bool.false_ne_true, hvalue]
  have hbutton {count : Nat} (hbutton : field ∈ buttonFields count) :=
    hread (buttonFields_spec hbutton).1 ((buttonFields_spec hbutton).2.2.read_isSome _)
  have haxis (haxis : field ∈ axisFields false) :
      field.track position report.bytes = field.read report.bytes := by
    rcases axisFields_cases haxis with rfl | ⟨usage, offset, rfl⟩ | htrigger
    · exact Field.track_null rfl rfl position report.bytes
    · exact hread rfl ((stickField_full usage offset false).read_isSome _)
    · refine hread (triggerFields_spec htrigger).1 ?_
      have hmem := List.mem_map_of_mem htrigger (f := (Field.read · report.bytes))
      rw [map_triggerFields, List.mem_cons, List.mem_singleton] at hmem
      rcases hmem with hvalue | hvalue
      · exact hvalue ▸ trigger_iff.mp hrange.1
      · exact hvalue ▸ trigger_iff.mp hrange.2
  rw [layout_primary, layout_fallback] at hfield
  rcases List.mem_append.mp hfield with hprimary | hfallback
  · exact (List.mem_append.mp hprimary).elim hbutton haxis
  · exact (List.mem_append.mp hfallback).elim hbutton haxis

end

/-! ## Posted reports -/

/-- The buttons and the hat are ones that the primary descriptor declares. -/
structure HidReport.Declared (report : HidReport) : Prop where
  buttons : ∀ k, 13 ≤ k → bitAt report.buttons k = false
  hat : report.hat.toNat ≤ 8

namespace HidReport.Declared

variable {report other : HidReport}

theorem withHat (hreport : report.Declared) : { report with hat := 8 }.Declared :=
  ⟨hreport.buttons, Nat.le_refl 8⟩

theorem withGuide (hreport : report.Declared) (pressed : Bool) :
    (report.withGuide pressed).Declared where
  buttons := by
    intro k hk
    rw [bitAt_withGuide, if_neg (by omega)]
    exact hreport.buttons k hk
  hat := hreport.hat

theorem gipToHid (g : GipInput) (guide : Bool) : (gipToHid g guide).Declared where
  buttons := by
    intro k hk
    have hbelow (j : Nat) (hj : j < 13) : decide (j = k) = false := decide_eq_false (by omega)
    simp (disch := decide) only [gipToHid_bitAt, hbelow, Bool.and_false, Bool.or_false]
  hat := hatOf_le g.buttons

/-- Through the primary descriptor a host tells such reports apart, if their triggers are in
range. -/
theorem eq_of_controls (hreport : report.Declared) (hother : other.Declared)
    (hrange : report.lt ≤ 1023 ∧ report.rt ≤ 1023)
    (hsame : controls kHidDescriptor report.bytes = controls kHidDescriptor other.bytes) :
    report = other := by
  have hlarge {hat : UInt8} (hhat : hat.toNat ≤ 8) : hat.toNat < 16 := hhat.trans_lt (by decide)
  rw [controls_primary (hlarge hreport.hat), controls_primary (hlarge hother.hat)] at hsame
  obtain ⟨hbuttons, haxes⟩ := List.append_inj hsame (by simp [buttonControls])
  have hword : report.buttons = other.buttons := by
    apply Machine.bitAt_ext
    intro k _
    by_cases hk : k < 13
    · have hcontrol := List.map_eq_map_iff.mp hbuttons k (List.mem_range.mpr hk)
      have hbit := Int.ofNat_inj.mp (Option.some.inj (Control.mk.inj hcontrol).2.2)
      revert hbit
      cases bitAt report.buttons k <;> cases bitAt other.buttons k <;> decide
    · rw [hreport.buttons k (by omega), hother.buttons k (by omega)]
  simp only [axisControls, List.cons.injEq, Control.mk.injEq, true_and, and_true,
    Option.some.injEq, Int16.toInt_inj] at haxes
  obtain ⟨hhat, hlx, hly, hrx, hry, hlt, hrt⟩ := haxes
  replace hlt := within_trigger hrange.1 hlt
  replace hrt := within_trigger hrange.2 hrt
  replace hhat := within_hat hreport.hat hother.hat hhat
  cases report
  cases other
  simp only [HidReport.mk.injEq]
  exact ⟨hword, hhat, hlx, hly, hrx, hry, hlt, hrt⟩

end HidReport.Declared

/-- The slots hold declared reports, and only declared reports were posted. -/
structure Pads.Declared (pads : Pads) : Prop where
  slots : ∀ s, (pads.slots s).lastReport.Declared
  posted : ∀ report, .report report ∈ pads.hid → report.Declared

namespace Pads.Declared

variable {pads after : Pads} (hpads : pads.Declared)

include hpads

/-- One slot is written, and at most its report is posted. -/
theorem setSlot (s : Fin maxSlots) (slot : Slot) (hslot : slot.lastReport.Declared)
    (hslots : after.slots = (pads.setSlot s slot).slots)
    (hposted : ∀ report, .report report ∈ after.hid →
      .report report ∈ pads.hid ∨ report = slot.lastReport) : after.Declared where
  slots := by
    intro t
    rw [hslots]
    by_cases ht : t = s
    · subst ht
      simpa [Pads.setSlot] using hslot
    · simpa [Pads.setSlot, ht] using hpads.slots t
  posted := by
    intro report hreport
    rcases hposted report hreport with hbefore | rfl
    · exact hpads.posted report hbefore
    · exact hslot

/-- A slot is written, its report is posted, and an event is sent. -/
theorem post (eventUdp : Bool) (message : List Char) (s : Fin maxSlots) (slot : Slot)
    (hslot : slot.lastReport.Declared) :
    (eventUdpSend eventUdp message (postHidReport s (pads.setSlot s slot))).Declared := by
  refine hpads.setSlot s slot hslot (post_slots eventUdp message s slot) ?_
  intro report hreport
  rw [eventUdpSend_hid] at hreport
  simp only [postHidReport, Pads.setSlot, Function.update_self] at hreport
  split at hreport
  · rcases List.mem_cons.mp hreport with hnew | hbefore
    · exact Or.inr (HidIo.report.inj hnew)
    · exact Or.inl hbefore
  · exact Or.inl hreport

theorem handle (host : Host) (eventUdp : Bool) (call : Fin maxSlots × PadEvent) :
    (pads.handle host eventUdp call).Declared := by
  obtain ⟨s, event⟩ := call
  cases event with
  | connect =>
      simp only [Pads.handle, onConnect, slotIdx?_ofNat]
      split
      · exact hpads
      · refine hpads.setSlot s { pads.slots s with
          active := true
          clientId := UInt8.ofNat s
          lastReport := { (pads.slots s).lastReport with hat := 8 }
          hidDevice := (createVirtualGamepad host (UInt8.ofNat s) pads).1 }
          (hpads.slots s).withHat ?_ ?_
        · rw [eventUdpSend_slots]
          simp only [Pads.setSlot, createVirtualGamepad_slots]
        · intro report hreport
          rw [eventUdpSend_hid] at hreport
          exact Or.inl ((createVirtualGamepad_report host pads _ report).mp hreport)
  | disconnect =>
      simp only [Pads.handle, onDisconnect, slotIdx?_ofNat]
      split
      · refine hpads.setSlot s {} ⟨fun k _ => Machine.bitAt_zero k, Nat.zero_le 8⟩ ?_ ?_
        · rw [eventUdpSend_slots]
          simp only [Pads.setSlot]
          split <;> rfl
        · intro report hreport
          rw [eventUdpSend_hid] at hreport
          simp only [Pads.setSlot] at hreport
          split at hreport
          · exact Or.inl (by simpa using hreport)
          · exact Or.inl hreport
      · exact hpads
  | input g =>
      simp only [Pads.handle, reportInput]
      split
      · exact hpads.post eventUdp _ s _ (.gipToHid g _)
      · exact hpads
  | guide pressed =>
      simp only [Pads.handle, onGuide, slotIdx?_ofNat]
      exact hpads.post eventUdp _ s _ ((hpads.slots s).withGuide pressed)

end Pads.Declared

/-! ## Runs -/

section

variable (world : World)

theorem boots_declared {boot : Daemon} (hboot : Boots world boot) : boot.pads.Declared where
  slots := by
    intro s
    rw [boots_slots world hboot]
    exact ⟨fun k _ => Machine.bitAt_zero k, Nat.zero_le 8⟩
  posted := by
    intro report hreport
    have hconforms := (boots_settled world hboot).2 report hreport
    exact ⟨hconforms.buttons, hconforms.hat.elim (fun hle => hle.trans (by decide)) fun hnull => by
      rw [hnull]
      decide⟩

theorem run_declared {boot : Daemon} (hboot : Boots world boot) (steps : List Step) :
    (run (Daemon.step world) boot steps).pads.Declared := by
  refine (Machine.run_invariant
    (fun daemon : Daemon => daemon.table.WF ∧ daemon.pads.Declared) ?_
    ⟨boots_wf world hboot, boots_declared world hboot⟩ steps).2
  intro daemon step hinv
  refine ⟨step_wf world hinv.1 step, ?_⟩
  rw [step_pads world hinv.1 step]
  exact Machine.run_invariant Pads.Declared (fun _ call hpads => hpads.handle _ _ call) hinv.2 _

/-- Every report posted in a run has the length that both descriptors lay out. A host reads every
control from it, the same values through both, the three buttons more of the fallback never down;
and it tells a report with its triggers in range from any other posted report. -/
theorem posted_reports_decode {boot : Daemon} (hboot : Boots world boot) (steps : List Step)
    {report : HidReport}
    (hposted : .report report ∈ (run (Daemon.step world) boot steps).pads.hid) :
    8 * report.bytes.length = reportBits kHidDescriptor ∧
      8 * report.bytes.length = reportBits kHidDescriptorFallback ∧
      controls kHidDescriptor report.bytes = report.buttonControls 13 ++ report.axisControls ∧
      controls kHidDescriptorFallback report.bytes =
        report.buttonControls 13 ++
          ([⟨9, 14, some 0⟩, ⟨9, 15, some 0⟩, ⟨9, 16, some 0⟩] ++ report.axisControls) ∧
      (report.lt ≤ 1023 ∧ report.rt ≤ 1023 →
        ∀ other, .report other ∈ (run (Daemon.step world) boot steps).pads.hid →
          controls kHidDescriptor report.bytes = controls kHidDescriptor other.bytes →
          report = other) := by
  have hpads := run_declared world hboot steps
  have hreport := hpads.posted report hposted
  have hfits : report.hat.toNat < 16 := hreport.hat.trans_lt (by decide)
  have hprimary : reportBits kHidDescriptor = 8 * 15 := by decide +kernel
  have hfallback : reportBits kHidDescriptorFallback = 8 * 15 := by decide +kernel
  refine ⟨hprimary.symm, hfallback.symm, controls_primary hfits, ?_, fun hrange other hother =>
    hreport.eq_of_controls (hpads.posted other hother) hrange⟩
  rw [controls_fallback hfits, ← List.append_assoc]
  congr 1
  have hclear (k : Nat) (hk : 13 ≤ k) := hreport.buttons k hk
  simp [HidReport.buttonControls, List.range_succ, hclear]

end

theorem posted_reports_decode_neutral :
    8 * ({ hat := 8 } : HidReport).bytes.length = reportBits kHidDescriptor ∧
      8 * ({ hat := 8 } : HidReport).bytes.length = reportBits kHidDescriptorFallback ∧
      controls kHidDescriptor ({ hat := 8 } : HidReport).bytes =
        ({ hat := 8 } : HidReport).buttonControls 13 ++ ({ hat := 8 } : HidReport).axisControls ∧
      controls kHidDescriptorFallback ({ hat := 8 } : HidReport).bytes =
        ({ hat := 8 } : HidReport).buttonControls 13 ++
          ([⟨9, 14, some 0⟩, ⟨9, 15, some 0⟩, ⟨9, 16, some 0⟩] ++
            ({ hat := 8 } : HidReport).axisControls) ∧
      (({ hat := 8 } : HidReport).lt ≤ 1023 ∧ ({ hat := 8 } : HidReport).rt ≤ 1023 →
        ∀ other, .report other ∈
            (run (Daemon.step (romWorld plainRom)) plainBoot [addedStep, inputStep]).pads.hid →
          controls kHidDescriptor ({ hat := 8 } : HidReport).bytes =
            controls kHidDescriptor other.bytes →
          { hat := 8 } = other) :=
  posted_reports_decode (romWorld plainRom) plainBoot_boots [addedStep, inputStep]
    (by decide +kernel)

end XoneDarwin
