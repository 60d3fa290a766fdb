import XoneDarwin.Daemon.Descriptor
import XoneDarwin.DriverKit.Calls

/-!
# What a host reads from the driver's gamepads

`kXboxHIDReportDescriptor` declares the bits of `XboxHIDReport` one by one, as the
daemon's descriptor does for the daemon's report, but its sticks are relative: a host adds
their values up.
-/

namespace XoneDarwin.DriverKit

open Machine (Always run)
open Machine.Hid

/-! ## Descriptor and report -/

def kXboxHidReportDescriptor : List UInt8 :=
  [0x05, 0x01, 0x09, 0x05, 0xa1, 0x01,
    0x05, 0x09, 0x19, 0x01, 0x29, 0x0b, 0x15, 0x00, 0x25, 0x01, 0x75, 0x01, 0x95, 0x0b, 0x81, 0x02,
    0x75, 0x05, 0x95, 0x01, 0x81, 0x03,
    0x05, 0x01, 0x09, 0x39, 0x15, 0x00, 0x25, 0x07, 0x35, 0x00, 0x46, 0x3b, 0x01, 0x65, 0x14,
    0x75, 0x04, 0x95, 0x01, 0x81, 0x42, 0x65, 0x00, 0x75, 0x04, 0x95, 0x01, 0x81, 0x03,
    0x09, 0x30, 0x09, 0x31, 0x09, 0x33, 0x09, 0x34,
    0x16, 0x00, 0x80, 0x26, 0xff, 0x7f, 0x75, 0x10, 0x95, 0x04, 0x81, 0x06,
    0x09, 0x32, 0x09, 0x35, 0x15, 0x00, 0x26, 0xff, 0x03, 0x75, 0x10, 0x95, 0x02, 0x81, 0x02, 0xc0]

/-- One-bit fields packed into a byte. -/
def packBits (bits : List Bool) : UInt8 :=
  UInt8.ofNat (Nat.ofDigits 2 (bits.map Bool.toNat))

namespace XboxHidReport

/-- The packed struct; its padding is zero. -/
def bytes (report : XboxHidReport) : List UInt8 :=
  packBits [report.btnA, report.btnB, report.btnX, report.btnY, report.btnLb, report.btnRb,
      report.btnMenu, report.btnView] ::
    packBits [report.btnLs, report.btnRs, report.btnGuide] :: (report.hat &&& 0x0f) ::
    (store16 report.leftX.toUInt16 ++ (store16 report.leftY.toUInt16 ++
      (store16 report.rightX.toUInt16 ++ (store16 report.rightY.toUInt16 ++
      (store16 report.triggerLeft ++ store16 report.triggerRight)))))

/-- The eleven buttons, in the order of the usages. -/
def buttons (report : XboxHidReport) : List Bool :=
  [report.btnA, report.btnB, report.btnX, report.btnY, report.btnLb, report.btnRb, report.btnMenu,
    report.btnView, report.btnLs, report.btnRs, report.btnGuide]

/-- What the report shows: the centred hat and a trigger above 1023 are no values. -/
def controls (report : XboxHidReport) : List Control :=
  report.buttons.mapIdx (fun k pressed => ⟨9, k + 1, some pressed.toNat⟩) ++
    [⟨1, 0x39, within 0 7 report.hat.toNat⟩, ⟨1, 0x30, some report.leftX.toInt⟩,
      ⟨1, 0x31, some report.leftY.toInt⟩, ⟨1, 0x33, some report.rightX.toInt⟩,
      ⟨1, 0x34, some report.rightY.toInt⟩,
      ⟨1, 0x32, within 0 1023 report.triggerLeft.toNat⟩,
      ⟨1, 0x35, within 0 1023 report.triggerRight.toNat⟩]

/-- Both triggers are within 0 to 1023. -/
def InRange (report : XboxHidReport) : Prop :=
  report.triggerLeft ≤ 1023 ∧ report.triggerRight ≤ 1023

end XboxHidReport

/-- The sticks. -/
def stickFields : List Field :=
  [stickField 0x30 24 true, stickField 0x31 40 true, stickField 0x33 56 true,
    stickField 0x34 72 true]

theorem layout_driver :
    layout kXboxHidReportDescriptor = buttonFields 11 ++ axisFields true := by
  decide +kernel

/-! ## Values -/

theorem ofDigits_bit (bits : List Bool) (k : Nat) :
    Nat.ofDigits 2 (bits.map Bool.toNat) / 2 ^ k % 2 = (bits.getD k false).toNat := by
  induction bits generalizing k with
  | nil => simp
  | cons bit rest ih =>
      have hbit := bit.toNat_lt
      rw [List.map_cons, Nat.ofDigits_cons]
      cases k with
      | zero =>
          rw [Nat.pow_zero, Nat.div_one, List.getD_cons_zero]
          omega
      | succ k =>
          rw [Nat.pow_succ', ← Nat.div_div_eq_div_mul, List.getD_cons_succ, ← ih]
          congr 2
          omega

/-- The bits of a first byte, -/
theorem packBits_first (bits : List Bool) (hlength : bits.length ≤ 8) (rest : List UInt8) {k : Nat}
    (hk : k < 8) : bitsAt (packBits bits :: rest) k 1 = (bits.getD k false).toNat := by
  have hfront := bitsAt_front [packBits bits] rest (by omega : k + 1 ≤ 8 * 1)
  have hlt : Nat.ofDigits 2 (bits.map Bool.toNat) < 2 ^ 8 := by
    refine (Nat.ofDigits_lt_base_pow_length (by decide : 1 < 2) ?_).trans_le
      (Nat.pow_le_pow_right (by decide) (by simpa using hlength))
    intro digit hdigit
    obtain ⟨bit, -, rfl⟩ := List.mem_map.mp hdigit
    exact bit.toNat_lt
  have hbyte : littleEndian [packBits bits] = Nat.ofDigits 2 (bits.map Bool.toNat) := by
    rw [packBits, littleEndian, List.map_singleton, Nat.ofDigits_singleton, UInt8.toNat_ofNat']
    exact Nat.mod_eq_of_lt hlt
  rw [← ofDigits_bit, ← hbyte]
  exact hfront

/-- and those of a second one. -/
theorem packBits_second (first : UInt8) (bits : List Bool) (hlength : bits.length ≤ 8)
    (rest : List UInt8) {k : Nat} (hk : k < 8) :
    bitsAt (first :: packBits bits :: rest) (8 + k) 1 = (bits.getD k false).toNat :=
  (bitsAt_back [first] (packBits bits :: rest) k 1).trans (packBits_first bits hlength rest hk)

section

variable (report : XboxHidReport)

theorem read_buttons :
    (buttonFields 11).map (fun field => Control.mk field.usagePage field.usage
      (field.read report.bytes)) =
      report.buttons.mapIdx fun k pressed => ⟨9, k + 1, some pressed.toNat⟩ := by
  have hlow {k : Nat} (hk : k < 8) := packBits_first [report.btnA, report.btnB, report.btnX,
    report.btnY, report.btnLb, report.btnRb, report.btnMenu, report.btnView] (by simp)
    (report.bytes.drop 1) hk
  have hhigh {k : Nat} (hk : k < 8) := packBits_second (byteAt report.bytes 0)
    [report.btnLs, report.btnRs, report.btnGuide] (by simp) (report.bytes.drop 2) hk
  have hread (k : Nat) (hk : k < 11) :
      bitsAt report.bytes k 1 = (report.buttons.getD k false).toNat := by
    match k, hk with
    | 0, _ => exact hlow (by decide)
    | 1, _ => exact hlow (by decide)
    | 2, _ => exact hlow (by decide)
    | 3, _ => exact hlow (by decide)
    | 4, _ => exact hlow (by decide)
    | 5, _ => exact hlow (by decide)
    | 6, _ => exact hlow (by decide)
    | 7, _ => exact hlow (by decide)
    | 8, _ => exact hhigh (by decide : 0 < 8)
    | 9, _ => exact hhigh (by decide : 1 < 8)
    | 10, _ => exact hhigh (by decide : 2 < 8)
  rw [buttonFields, List.map_map]
  apply List.ext_getElem
  · simp [XboxHidReport.buttons]
  · intro k hk _
    have hlt : k < 11 := by simpa using hk
    have hbutton : k < report.buttons.length := hlt
    have hraw : within 0 1 ((bitsAt report.bytes k 1 : Nat) : Int) =
        some ((report.buttons[k].toNat : Nat) : Int) := by
      rw [hread k hlt, List.getD_eq_getElem _ _ hbutton, within_bit]
    simp [Field.read, Field.raw, hraw]

theorem read_sticks :
    stickFields.map (Field.read · report.bytes) =
      [some report.leftX.toInt, some report.leftY.toInt, some report.rightX.toInt,
        some report.rightY.toInt] := by
  have hlx : bitsAt report.bytes 24 16 = report.leftX.toUInt16.toNat :=
    bitsAt_store16 (report.bytes.take 3) _ _
  have hly : bitsAt report.bytes 40 16 = report.leftY.toUInt16.toNat :=
    bitsAt_store16 (report.bytes.take 5) _ _
  have hrx : bitsAt report.bytes 56 16 = report.rightX.toUInt16.toNat :=
    bitsAt_store16 (report.bytes.take 7) _ _
  have hry : bitsAt report.bytes 72 16 = report.rightY.toUInt16.toNat :=
    bitsAt_store16 (report.bytes.take 9) _ _
  simp only [stickFields, List.map_cons, List.map_nil, read_stick hlx, read_stick hly,
    read_stick hrx, read_stick hry]

/-- The triggers. -/
theorem read_triggers :
    triggerFields.map (Field.read · report.bytes) =
      [within 0 1023 report.triggerLeft.toNat, within 0 1023 report.triggerRight.toNat] := by
  have hlt : bitsAt report.bytes 88 16 = report.triggerLeft.toNat :=
    bitsAt_store16 (report.bytes.take 11) _ _
  have hrt : bitsAt report.bytes 104 16 = report.triggerRight.toNat :=
    bitsAt_store16 (report.bytes.take 13) _ []
  simp only [triggerFields, List.map_cons, List.map_nil, Field.read, Field.raw, Int.lt_irrefl,
    if_false, hlt, hrt]

variable {report}

/-- A host reads every control of a report. -/
theorem controls_driver (hfits : report.hat.toNat < 16) :
    Machine.Hid.controls kXboxHidReportDescriptor report.bytes = report.controls := by
  have hhat : bitsAt report.bytes 16 4 = report.hat.toNat := by
    have hback := bitsAt_back (report.bytes.take 2) (report.bytes.drop 2) 0 4
    have hfront := bitsAt_front [report.hat &&& 0x0f] (report.bytes.drop 3)
      (by decide : 0 + 4 ≤ 8 * 1)
    refine (hback.trans hfront).trans ?_
    have hmask : littleEndian [report.hat &&& 0x0f] = report.hat.toNat % 16 := by
      rw [littleEndian, List.map_singleton, Nat.ofDigits_singleton, UInt8.toNat_and]
      exact Nat.and_two_pow_sub_one_eq_mod report.hat.toNat 4
    rw [bitsAt, Nat.pow_zero, Nat.div_one, hmask, Nat.mod_eq_of_lt hfits]
    exact Nat.mod_eq_of_lt hfits
  have hread : hatField.read report.bytes = within 0 7 report.hat.toNat := by
    simp only [Field.read, Field.raw, hatField, Int.lt_irrefl, if_false, hhat]
  have hsticks := read_sticks report
  have htriggers := read_triggers report
  simp only [stickFields, triggerFields, List.map_cons, List.map_nil, List.cons.injEq,
    and_true] at hsticks htriggers
  obtain ⟨hlx, hly, hrx, hry⟩ := hsticks
  obtain ⟨hlt, hrt⟩ := htriggers
  rw [Machine.Hid.controls, layout_driver, List.map_append, read_buttons]
  simp only [axisFields, triggerFields, List.map_cons, List.cons_append, List.nil_append,
    List.map_nil, hread, hlx, hly, hrx, hry, hlt, hrt, XboxHidReport.controls]
  rfl

/-- A host tells a report with its triggers in range from others. -/
theorem eq_of_controls {other : XboxHidReport} (hdeclared : report.Declared)
    (hother : other.Declared) (hrange : report.InRange)
    (hsame : report.controls = other.controls) : report = other := by
  obtain ⟨hbuttons, haxes⟩ := List.append_inj hsame (by simp [XboxHidReport.buttons])
  have hbit {a b : Bool} (hab : (some (a.toNat : Int)) = some (b.toNat : Int)) : a = b := by
    revert hab
    cases a <;> cases b <;> decide
  simp only [XboxHidReport.buttons, List.mapIdx_cons, List.mapIdx_nil, List.cons.injEq,
    Control.mk.injEq, true_and, and_true] at hbuttons
  simp only [List.cons.injEq, Control.mk.injEq, true_and, and_true, Option.some.injEq,
    Int16.toInt_inj] at haxes
  obtain ⟨ha, hb, hx, hy, hlb, hrb, hmenu, hview, hls, hrs, hguide⟩ := hbuttons
  obtain ⟨hhat, hlx, hly, hrx, hry, hlt, hrt⟩ := haxes
  replace hlt := within_trigger hrange.1 hlt
  replace hrt := within_trigger hrange.2 hrt
  replace hhat := within_hat hdeclared hother hhat
  cases report
  cases other
  simp only [XboxHidReport.mk.injEq]
  exact ⟨hbit ha, hbit hb, hbit hx, hbit hy, hbit hlb, hbit hrb, hbit hmenu, hbit hview, hbit hls,
    hbit hrs, hbit hguide, hhat, hlx, hly, hrx, hry, hlt, hrt⟩

end

/-- The sticks are centred. -/
def XboxHidReport.SticksCentred (report : XboxHidReport) : Prop :=
  report.leftX = 0 ∧ report.leftY = 0 ∧ report.rightX = 0 ∧ report.rightY = 0

theorem XboxHidReport.sticksCentred_iff (report : XboxHidReport) :
    report.SticksCentred ↔ ∀ field ∈ stickFields, field.read report.bytes = some 0 := by
  have hzero (x : Int16) : x = 0 ↔ x.toInt = 0 := by
    rw [← Int16.toInt_inj]
    rfl
  have hmap : (∀ field ∈ stickFields, field.read report.bytes = some 0) ↔
      ∀ value ∈ stickFields.map (Field.read · report.bytes), value = some 0 := by
    rw [List.forall_mem_map]
  rw [hmap, read_sticks]
  simp [SticksCentred, hzero]

/-- The triggers are in range just if the host reads them. -/
theorem XboxHidReport.inRange_iff (report : XboxHidReport) :
    report.InRange ↔ ∀ field ∈ triggerFields, (field.read report.bytes).isSome = true := by
  have hmap : (∀ field ∈ triggerFields, (field.read report.bytes).isSome = true) ↔
      ∀ value ∈ triggerFields.map (Field.read · report.bytes), value.isSome = true := by
    rw [List.forall_mem_map]
  rw [hmap, read_triggers, InRange, trigger_iff, trigger_iff]
  simp

/-! ## Posted reports -/

/-- The reports that were posted, newest first. -/
def posts (io : List DriverIo) : List XboxHidReport :=
  io.filterMap fun call =>
    match call with
    | .post _ report => some report
    | _ => none

/-- The reports posted to the gamepad that a slot has at present, newest first. -/
def gamepadPosts (i : Fin maxControllers) : List DriverIo → List XboxHidReport
  | [] => []
  | .post clientId report :: older =>
      if controller? clientId = some i then report :: gamepadPosts i older else gamepadPosts i older
  | .start clientId :: older =>
      if controller? clientId = some i then [] else gamepadPosts i older
  | _ :: older => gamepadPosts i older

namespace Driver

/-- All posts are declared reports. -/
def Declared (driver : Driver) : Prop :=
  ∀ report ∈ posts driver.io, report.Declared

theorem Declared.silent {before after : Driver} (hbefore : before.Declared)
    (hposts : posts after.io = posts before.io) : after.Declared := by
  intro report hreport
  rw [hposts] at hreport
  exact hbefore report hreport

theorem Declared.call {before after : Driver} (hcall : Call before after)
    (hbefore : before.Declared) : after.Declared := by
  cases hcall with
  | none hio _ => exact hbefore.silent (by rw [hio])
  | send packet hio _ => exact hbefore.silent (by rw [hio]; rfl)
  | start i _ hio _ => exact hbefore.silent (by rw [hio]; rfl)
  | stop i _ hio _ => exact hbefore.silent (by rw [hio]; rfl)
  | post i report _ hreport hio _ =>
      intro other hother
      rw [hio] at hother
      rcases List.mem_cons.mp hother with rfl | hearlier
      · exact hreport
      · exact hbefore other hearlier

/-- Every report the driver posts in a run has the length that its descriptor lays out, and a host
reads every control from it: it tells a report with its triggers in range from any other posted
report. -/
theorem driver_reports_decode (outside : Nat → ControllerSlot) (steps : List Step) :
    ∀ report ∈ posts (run (step outside) {} steps).io,
      8 * report.bytes.length = reportBits kXboxHidReportDescriptor ∧
        Machine.Hid.controls kXboxHidReportDescriptor report.bytes = report.controls ∧
        (report.InRange → ∀ other ∈ posts (run (step outside) {} steps).io,
          Machine.Hid.controls kXboxHidReportDescriptor report.bytes =
            Machine.Hid.controls kXboxHidReportDescriptor other.bytes → report = other) := by
  have hdeclared : (run (step outside) {} steps).Declared :=
    run_of_calls outside (fun _ _ => Declared.call) (fun _ hnone => absurd hnone List.not_mem_nil)
      steps
  have hfits {report : XboxHidReport} (hreport : report ∈ posts (run (step outside) {} steps).io) :
      report.hat.toNat < 16 := (hdeclared report hreport).trans_lt (by decide)
  have hlength : reportBits kXboxHidReportDescriptor = 8 * 15 := by decide +kernel
  intro report hreport
  refine ⟨hlength.symm, controls_driver (hfits hreport), fun hrange other hother hsame => ?_⟩
  rw [controls_driver (hfits hreport), controls_driver (hfits hother)] at hsame
  exact eq_of_controls (hdeclared report hreport) (hdeclared other hother) hrange hsame

theorem driver_reports_decode_held :
    8 * ({ btnA := true, hat := 8 } : XboxHidReport).bytes.length =
        reportBits kXboxHidReportDescriptor ∧
      Machine.Hid.controls kXboxHidReportDescriptor
          ({ btnA := true, hat := 8 } : XboxHidReport).bytes =
        ({ btnA := true, hat := 8 } : XboxHidReport).controls ∧
      (({ btnA := true, hat := 8 } : XboxHidReport).InRange →
        ∀ other ∈ posts (run (step fun _ => {}) {} heldA).io,
          Machine.Hid.controls kXboxHidReportDescriptor
              ({ btnA := true, hat := 8 } : XboxHidReport).bytes =
            Machine.Hid.controls kXboxHidReportDescriptor other.bytes →
          { btnA := true, hat := 8 } = other) :=
  driver_reports_decode (fun _ => {}) heldA _ (by decide)

/-! ## What the host shows -/

/-- Where a host is that has the gamepad of a slot. -/
def shown (i : Fin maxControllers) (field : Field) (driver : Driver) : Option Int :=
  field.shown ((gamepadPosts i driver.io).reverse.map XboxHidReport.bytes)

/-- The host is where the report posted last to the gamepad says, if there is one. -/
def HostRight (i : Fin maxControllers) (driver : Driver) : Prop :=
  ∀ report ∈ (gamepadPosts i driver.io).head?, ∀ field ∈ layout kXboxHidReportDescriptor,
    driver.shown i field = field.read report.bytes

/-- A report that a frame posts to the gamepad of a slot has its triggers in range, and the one
before it, if the gamepad has got any, has its sticks centred. -/
def Rests (i : Fin maxControllers) (driver : Driver) (input : Step) : Prop :=
  Posts i driver input →
    (PostsInput i driver input →
      (gipToHid (.load (input.frame.drop 4))).InRange) ∧
    ∀ last ∈ (gamepadPosts i driver.io).head?, last.SticksCentred

theorem gamepadPosts_post {i : Fin maxControllers} {clientId : UInt8}
    (hslot : controller? clientId = some i) (report : XboxHidReport) (io : List DriverIo) :
    gamepadPosts i (.post clientId report :: io) = report :: gamepadPosts i io := by
  rw [gamepadPosts, if_pos hslot]

/-- Without a report for the slot, it keeps its gamepad or gets a new one. -/
theorem Unposted.gamepad {i : Fin maxControllers} {before after : Driver}
    (hsilent : Unposted i before after) :
    gamepadPosts i after.io = gamepadPosts i before.io ∨ gamepadPosts i after.io = [] := by
  obtain ⟨calls, hio, hcalls⟩ := hsilent
  rw [hio]
  clear hio
  induction calls with
  | nil => exact Or.inl rfl
  | cons call rest ih =>
      have hrest := ih fun clientId report hslot hmem =>
        hcalls clientId report hslot (List.mem_cons_of_mem _ hmem)
      rw [List.cons_append]
      cases call with
      | createPacket | send | releasePacket | stop => exact hrest
      | start clientId =>
          rw [gamepadPosts]
          split
          · exact Or.inr rfl
          · exact hrest
      | post clientId report =>
          rw [gamepadPosts, if_neg]
          · exact hrest
          · exact fun hslot => hcalls clientId report hslot List.mem_cons_self

/-- A packet leaves the gamepads alone. -/
theorem gamepadPosts_calls (i : Fin maxControllers) (sending : SendOutcome) (packet : List UInt8)
    (io : List DriverIo) : gamepadPosts i (sending.calls packet ++ io) = gamepadPosts i io := by
  cases sending with
  | noPipe | noMemory | transfer => rfl

/-! ## One report -/

/-- The fields of the driver's layout. -/
theorem layout_fields {field : Field} (hfield : field ∈ layout kXboxHidReportDescriptor) :
    field ∈ buttonFields 11 ∨ field = hatField ∨ field ∈ stickFields ∨ field ∈ triggerFields := by
  rw [layout_driver, axisFields, List.mem_append, List.mem_cons, List.mem_append] at hfield
  exact hfield

theorem mem_layout {field : Field} (hfield : field ∈ stickFields ++ triggerFields) :
    field ∈ layout kXboxHidReportDescriptor := by
  rw [layout_driver, axisFields]
  exact List.mem_append_right _ (List.mem_cons_of_mem _ hfield)

theorem stickFields_spec {field : Field} (hfield : field ∈ stickFields) :
    field.relative = true ∧ field.nullState = false ∧ field.Full := by
  simp only [stickFields, List.mem_cons, List.not_mem_nil, or_false] at hfield
  rcases hfield with rfl | rfl | rfl | rfl <;> exact ⟨rfl, rfl, stickField_full ..⟩

/-- A report puts the host where it says just if its triggers are in range and the host had the
sticks in the middle. -/
theorem track_report_iff (reports : List (List UInt8)) (report : XboxHidReport) :
    (∀ field ∈ layout kXboxHidReportDescriptor,
        field.track (field.shown reports) report.bytes = field.read report.bytes) ↔
      report.InRange ∧ ∀ field ∈ stickFields, field.shown reports = some 0 := by
  have htrigger {field : Field} (hfield : field ∈ triggerFields) :
      field.track (field.shown reports) report.bytes = field.read report.bytes ↔
        (field.read report.bytes).isSome = true := by
    obtain ⟨habsolute, hnull⟩ := triggerFields_spec hfield
    exact Field.track_absolute_iff habsolute hnull (Field.shown_isSome hnull reports) report.bytes
  have hstick {field : Field} (hfield : field ∈ stickFields) :
      field.track (field.shown reports) report.bytes = field.read report.bytes ↔
        field.shown reports = some 0 := by
    obtain ⟨hrelative, hnull, hfull⟩ := stickFields_spec hfield
    obtain ⟨value, hread⟩ := Option.isSome_iff_exists.mp (hfull.read_isSome report.bytes)
    exact Field.track_relative_iff hrelative (Field.shown_isSome hnull reports) hread
  rw [report.inRange_iff]
  constructor
  · intro hright
    refine ⟨fun field hfield => ?_, fun field hfield => ?_⟩
    · exact (htrigger hfield).mp (hright field (mem_layout (List.mem_append_right _ hfield)))
    · exact (hstick hfield).mp (hright field (mem_layout (List.mem_append_left _ hfield)))
  · rintro ⟨hrange, hcentred⟩ field hfield
    -- only the sticks look at where the host was, and only the triggers can be out of range
    rcases layout_fields hfield with hbutton | rfl | hstick' | htrigger'
    · obtain ⟨habsolute, hnull, hfull⟩ := buttonFields_spec hbutton
      exact (Field.track_absolute_iff habsolute hnull (Field.shown_isSome hnull reports) _).mpr
        (hfull.read_isSome report.bytes)
    · exact Field.track_null rfl rfl _ _
    · exact (hstick hstick').mpr (hcentred field hstick')
    · exact (htrigger htrigger').mpr (hrange field htrigger')

section

variable {i : Fin maxControllers} {driver after : Driver}

/-- A report leaves the host right just if it rests on the one before it. -/
theorem HostRight.post_iff (hright : driver.HostRight i) {report : XboxHidReport}
    (hposts : gamepadPosts i after.io = report :: gamepadPosts i driver.io) :
    after.HostRight i ↔
      report.InRange ∧ ∀ last ∈ (gamepadPosts i driver.io).head?, last.SticksCentred := by
  have hshown (field : Field) :
      after.shown i field = field.track (driver.shown i field) report.bytes := by
    rw [shown, hposts, List.reverse_cons, List.map_append, List.map_singleton,
      Field.shown_concat]
    rfl
  have hbefore : (∀ field ∈ stickFields, driver.shown i field = some 0) ↔
      ∀ last ∈ (gamepadPosts i driver.io).head?, last.SticksCentred := by
    cases hreports : gamepadPosts i driver.io with
    | nil =>
        -- a new gamepad starts in the middle
        refine iff_of_true (fun field _ => ?_) (by simp)
        rw [shown, hreports]
        rfl
    | cons last older =>
        have hlast := hright last (by rw [hreports]; rfl)
        simp only [List.head?_cons, Option.mem_def, Option.some.injEq, forall_eq']
        rw [last.sticksCentred_iff]
        refine forall₂_congr fun field hfield => ?_
        rw [hlast field (mem_layout (List.mem_append_left _ hfield))]
  rw [← hbefore, HostRight, hposts]
  simp only [List.head?_cons, Option.mem_def, Option.some.injEq, forall_eq', hshown]
  exact track_report_iff _ report

/-- No report is wrong. -/
theorem hostRight_of_nil (hposts : gamepadPosts i driver.io = []) : driver.HostRight i := by
  intro report hreport
  rw [hposts] at hreport
  cases hreport

theorem HostRight.congr (hright : driver.HostRight i)
    (hposts : gamepadPosts i after.io = gamepadPosts i driver.io) : after.HostRight i := by
  intro report hreport field hfield
  rw [hposts] at hreport
  rw [shown, hposts]
  exact hright report hreport field hfield

/-- A frame leaves the host right just if it rests. -/
theorem hostRight_step_iff (outside : Nat → ControllerSlot) (hright : driver.HostRight i)
    (input : Step) : (driver.step outside input).HostRight i ↔ Rests i driver input := by
  cases step_posting outside driver i input with
  | input hinput clientId hslot hio =>
      have hposts := gamepadPosts_post hslot { gipToHid (.load (input.frame.drop 4)) with
        btnGuide := (driver.mSlots i).guidePressed } driver.io
      rw [← hio] at hposts
      rw [hright.post_iff hposts]
      constructor
      · exact fun hrests _ => ⟨fun _ => hrests.1, hrests.2⟩
      · exact fun hrests => ⟨(hrests (Or.inl hinput)).1 hinput, (hrests (Or.inl hinput)).2⟩
  | guide hguide hnoInput clientId hslot pressed packet hio =>
      have hposts := gamepadPosts_post hslot { neutralReport with btnGuide := pressed } driver.io
      rw [← gamepadPosts_calls i input.sending packet, ← hio] at hposts
      have hrange : ({ neutralReport with btnGuide := pressed } : XboxHidReport).InRange :=
        ⟨UInt16.zero_le, UInt16.zero_le⟩
      -- a guide report always has its triggers in range, but moves no stick back
      rw [hright.post_iff hposts, and_iff_right hrange]
      constructor
      · exact fun hcentred _ => ⟨fun hinput => absurd hinput hnoInput, hcentred⟩
      · exact fun hrests => (hrests (Or.inr hguide)).2
  | silent hnot hsilent =>
      refine iff_of_true ?_ fun hposts => absurd hposts hnot
      rcases hsilent.gamepad with hsame | hnone
      · exact hright.congr hsame
      · exact hostRight_of_nil hnone

end

/-- The daemon's fields are absolute: a report with its triggers in range puts a host where it says.
The driver's sticks are not: in every state of a run a host is where the report posted last to the
gamepad says just if no report is posted on one with a stick off its centre, and none with a trigger
out of range. -/
theorem driver_sticks_follow_iff (outside : Nat → ControllerSlot) (steps : List Step)
    (i : Fin maxControllers) :
    (∀ report : HidReport, report.lt ≤ 1023 ∧ report.rt ≤ 1023 →
        ∀ field ∈ layout kHidDescriptor ++ layout kHidDescriptorFallback, ∀ position,
          field.track position report.bytes = field.read report.bytes) ∧
      ((∀ before, before <+: steps → (run (step outside) {} before).HostRight i) ↔
        Always (step outside) (Rests i) {} steps) := by
  refine ⟨fun report hrange field hfield => track_report hrange hfield, ?_⟩
  refine Machine.forall_prefix_iff_always (HostRight i) (HostRight i) (fun _ hright => hright)
    ?_ ?_ (hostRight_of_nil rfl)
  · intro driver input _ hright hrests
    exact (hostRight_step_iff outside hright input).mpr hrests
  · intro driver input _ hright hlater
    exact (hostRight_step_iff outside hright input).mp hlater

end Driver

end XoneDarwin.DriverKit
