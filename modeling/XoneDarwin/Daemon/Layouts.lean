import XoneDarwin.Bridge.Wire
import XoneDarwin.Daemon.Reports

/-!
# The two layouts of an input payload

`on_input` guesses: first whether a payload is wrapped, then which of two layouts it has.
What a controller encodes is compared with what is delivered.
-/

namespace XoneDarwin

open Machine (bitAt)

/-! ## Encodings -/

attribute [ext] GipInput

/-- The four stick axes, as both layouts end. -/
def GipInput.sticks (g : GipInput) : List UInt8 :=
  store16 g.stickLx.toUInt16 ++ store16 g.stickLy.toUInt16 ++ store16 g.stickRx.toUInt16 ++
    store16 g.stickRy.toUInt16

/-- Layout A: `[buttons:2][lt:2][rt:2][lx:2][ly:2][rx:2][ry:2]`. -/
def GipInput.encode14 (g : GipInput) : List UInt8 :=
  store16 g.buttons ++ store16 g.triggerL ++ store16 g.triggerR ++ g.sticks

/-- Layout B: `[buttons:4][lt:2][rt:2][lx:2][ly:2][rx:2][ry:2]`, the upper buttons unused. -/
def GipInput.encode16 (g : GipInput) : List UInt8 :=
  store32 g.buttons.toUInt32 ++ store16 g.triggerL ++ store16 g.triggerR ++ g.sticks

/-- The wireless wrapper, `[00 00 00 00][20 00 seq 2c]`. -/
def inputWrapper (seq : UInt8) : List UInt8 :=
  [0x00, 0x00, 0x00, 0x00, 0x20, 0x00, seq, 0x2c]

theorem length_encode14 (g : GipInput) : g.encode14.length = 14 := rfl

theorem load16_store16 (x : UInt16) (rest : List UInt8) : load16 (store16 x ++ rest) = x := by
  have hx := x.toNat_lt
  apply UInt16.toNat_inj.mp
  simp [load16, store16]
  omega

/-- The low half of a word is its first two bytes. -/
theorem load32_toUInt16 (p : List UInt8) : (load32 p).toUInt16 = load16 p := by
  apply UInt16.toNat_inj.mp
  simp [load16, load32]

theorem drop_store16 (x : UInt16) (rest : List UInt8) (k : Nat) :
    (store16 x ++ rest).drop (k + 2) = rest.drop k := rfl

/-- Layout A gives back what was encoded, whatever follows. -/
theorem parseInput14_encode14 (g : GipInput) (extra : List UInt8) :
    parseInput14 (g.encode14 ++ extra) = g := by
  simp only [GipInput.encode14, GipInput.sticks, List.append_assoc, parseInput14,
    drop_store16 _ _ 0, drop_store16 _ _ 2, drop_store16 _ _ 4, drop_store16 _ _ 6,
    drop_store16 _ _ 8, drop_store16 _ _ 10, List.drop_zero, load16_store16,
    Int16.toInt16_toUInt16]

/-! ## Payloads read back as a given state -/

/-- A word at the front of a buffer. -/
theorem store16_prefix_iff {x : UInt16} {rest p : List UInt8} (hp : 2 ≤ p.length) :
    store16 x ++ rest <+: p ↔ load16 p = x ∧ rest <+: p.drop 2 := by
  obtain ⟨a, b, p, rfl⟩ : ∃ a b p', p = a :: b :: p' := by
    match p, hp with
    | a :: b :: p', _ => exact ⟨a, b, p', rfl⟩
  have hx := x.toNat_lt
  have ha := a.toNat_lt
  have hb := b.toNat_lt
  have hword : load16 (a :: b :: p) = x ↔
      UInt8.ofNat x.toNat = a ∧ UInt8.ofNat (x.toNat / 0x100) = b := by
    rw [← UInt16.toNat_inj, ← UInt8.toNat_inj, ← UInt8.toNat_inj]
    simp [load16]
    omega
  rw [hword]
  simp only [store16, List.cons_append, List.nil_append, List.cons_prefix_cons, List.drop_succ_cons,
    List.drop_zero, and_assoc]

theorem toInt16_eq_iff {x : UInt16} {axis : Int16} : x.toInt16 = axis ↔ x = axis.toUInt16 := by
  constructor
  · rintro rfl
    simp
  · rintro rfl
    simp

/-- Four axes at the front of a buffer. -/
theorem sticks_prefix_iff {g : GipInput} {p : List UInt8} (hp : 8 ≤ p.length) :
    g.sticks <+: p ↔ (load16 p).toInt16 = g.stickLx ∧ (load16 (p.drop 2)).toInt16 = g.stickLy ∧
      (load16 (p.drop 4)).toInt16 = g.stickRx ∧ (load16 (p.drop 6)).toInt16 = g.stickRy := by
  rw [GipInput.sticks, ← List.append_nil (store16 g.stickRy.toUInt16)]
  simp only [List.append_assoc, toInt16_eq_iff]
  rw [store16_prefix_iff (by omega), store16_prefix_iff (by simp; omega),
    store16_prefix_iff (by simp; omega), store16_prefix_iff (by simp; omega)]
  simp

/-- Layout A reads a state exactly from its encoding. -/
theorem parseInput14_eq_iff {g : GipInput} {p : List UInt8} (hp : 14 ≤ p.length) :
    parseInput14 p = g ↔ g.encode14 <+: p := by
  rw [GipInput.encode14]
  simp only [List.append_assoc]
  rw [store16_prefix_iff (by omega), store16_prefix_iff (by simp; omega),
    store16_prefix_iff (by simp; omega), sticks_prefix_iff (by simp; omega)]
  simp only [List.drop_drop]
  exact GipInput.ext_iff

/-! ## The buttons of layout B -/

theorem and_bit32_ne_zero {k : UInt32} (hk : k.toNat < 16) (x : UInt32) :
    x &&& ((1 : UInt32) <<< k) ≠ 0 ↔ bitAt x.toUInt16 k.toNat = true := by
  have hlt : 2 ^ k.toNat < 2 ^ 32 := Nat.pow_lt_pow_right (by decide) (by omega)
  have hbit : ((1 : UInt32) <<< k).toNat = 2 ^ k.toNat := by
    rw [UInt32.toNat_shiftLeft, Nat.mod_eq_of_lt (by omega : k.toNat < 32), Nat.shiftLeft_eq]
    exact (congrArg (· % 2 ^ 32) (Nat.one_mul _)).trans (Nat.mod_eq_of_lt hlt)
  have hlow : bitAt x.toUInt16 k.toNat = x.toNat.testBit k.toNat := by
    rw [bitAt, UInt32.toNat_toUInt16, Nat.testBit_mod_two_pow, decide_eq_true hk, Bool.true_and]
  rw [ne_eq, ← UInt32.toNat_inj, UInt32.toNat_and, hbit, Nat.and_two_pow, hlow]
  cases x.toNat.testBit k.toNat with
  | true => simp
  | false => simp

/-- Flags copied from a word are the bits of the word that have a flag. -/
theorem bitAt_foldl_flags (x : UInt32) {flags : List (UInt32 × UInt16)}
    (hflags : ∀ flag ∈ flags, flag.1.toNat < 16 ∧ flag.2 = (1 : UInt16) <<< flag.1.toUInt16)
    (init : UInt16) (k : Nat) :
    bitAt (flags.foldl (fun buttons flag =>
      if x &&& ((1 : UInt32) <<< flag.1) ≠ 0 then buttons ||| flag.2 else buttons) init) k =
      (bitAt init k ||
        (bitAt x.toUInt16 k && flags.any fun flag => decide (flag.1.toNat = k))) := by
  induction flags generalizing init with
  | nil => simp
  | cons flag flags ih =>
      obtain ⟨hsmall, hflag⟩ := hflags flag List.mem_cons_self
      have hindex : flag.1.toUInt16.toNat = flag.1.toNat := by
        rw [UInt32.toNat_toUInt16]
        exact Nat.mod_eq_of_lt (by omega)
      have hbit : bitAt flag.2 k = decide (flag.1.toNat = k) := by
        rw [hflag, Machine.bitAt_bit (by omega), hindex]
      rw [List.foldl_cons, ih fun later hlater => hflags later (List.mem_cons_of_mem _ hlater),
        List.any_cons]
      split
      next hset =>
        rw [Machine.bitAt_or, hbit]
        by_cases hk : flag.1.toNat = k
        · have hread := (and_bit32_ne_zero hsmall x).mp hset
          rw [hk] at hread
          simp [hk, hread]
        · simp [hk]
      next hclear =>
        by_cases hk : flag.1.toNat = k
        · have hread := Bool.eq_false_of_not_eq_true (mt (and_bit32_ne_zero hsmall x).mpr hclear)
          rw [hk] at hread
          simp [hread]
        · simp [hk]

/-- Layout B reads all buttons but the undocumented bit 1. -/
theorem parseInput16_buttons (p : List UInt8) :
    (parseInput16 p).buttons = load16 p &&& 0xfffd := by
  have hflags : ∀ flag ∈ buttons32Flags,
      flag.1.toNat < 16 ∧ flag.2 = (1 : UInt16) <<< flag.1.toUInt16 := by
    simp only [buttons32Flags, List.forall_mem_cons, List.not_mem_nil, false_imp_iff,
      implies_true, and_true]
    decide
  have hdocumented : ∀ k < 16,
      (buttons32Flags.any fun flag => decide (flag.1.toNat = k)) = bitAt 0xfffd k := by
    decide +kernel
  refine Machine.bitAt_ext fun k hk => ?_
  rw [parseInput16, bitAt_foldl_flags (load32 p) hflags, Machine.bitAt_zero, Bool.false_or,
    load32_toUInt16, hdocumented k hk, Machine.bitAt_and]

/-- Layout B reads a state exactly from an encoding with the same documented buttons. -/
theorem parseInput16_eq_iff {g : GipInput} {p : List UInt8} (hp : 16 ≤ p.length) :
    parseInput16 p = g ↔ load16 p &&& 0xfffd = g.buttons ∧
      store16 g.triggerL ++ store16 g.triggerR ++ g.sticks <+: p.drop 4 := by
  simp only [List.append_assoc]
  rw [store16_prefix_iff (by simp; omega), store16_prefix_iff (by simp; omega),
    sticks_prefix_iff (by simp; omega), ← parseInput16_buttons]
  simp only [List.drop_drop]
  exact GipInput.ext_iff

/-! ## What is delivered -/

/-- `on_input` delivers a state: the report is its translation and is posted if there is a gamepad,
and one event carries the seven values. -/
structure InputDelivered (s : Fin maxSlots) (g : GipInput) (before after : Pads) : Prop where
  report : (after.slots s).lastReport = gipToHid g (before.slots s).guidePressed
  posted : (before.slots s).hidDevice = true →
    after.hid = .report (gipToHid g (before.slots s).guidePressed) :: before.hid
  event : after.datagrams =
    ⟨inputEvent (UInt8.ofNat s) g ++ ['\n'], after.slots⟩ :: before.datagrams

/-- `on_input` of a whole payload while events are sent. -/
def inputOn (s : Fin maxSlots) (payload : List UInt8) (pads : Pads) : Pads :=
  onInput true (UInt8.ofNat s) payload (UInt8.ofNat payload.length) pads

/-- No two states have the same event. -/
theorem inputEvent_inj (s : Fin maxSlots) {g₁ g₂ : GipInput}
    (hsame : inputEvent (UInt8.ofNat s) g₁ = inputEvent (UInt8.ofNat s) g₂) : g₁ = g₂ := by
  rw [← parsedInput_inputEvent s g₁, hsame, parsedInput_inputEvent]

theorem reportInput_delivered (s : Fin maxSlots) (g : GipInput) (pads : Pads) :
    InputDelivered s g pads (reportInput true (UInt8.ofNat s) s g pads) := by
  obtain ⟨-, hne, hlength⟩ := inputEvent_sendable s g
  have hsent (state : Pads) : (eventUdpSend true (inputEvent (UInt8.ofNat s) g) state).datagrams =
      ⟨inputEvent (UInt8.ofNat s) g ++ ['\n'], state.slots⟩ :: state.datagrams := by
    rw [eventUdpSend, if_pos ⟨rfl, hne⟩, List.take_of_length_le hlength]
  constructor
  · rw [reportInput, post_slots]
    simp [Pads.setSlot]
  · intro hdevice
    simp [reportInput, postHidReport, Pads.setSlot, hdevice]
  · rw [reportInput, hsent, eventUdpSend_slots, postHidReport]
    split <;> rfl

/-- An active slot is delivered the state its payload is parsed as, and no other. -/
theorem delivered_iff {s : Fin maxSlots} {pads : Pads} (hactive : (pads.slots s).active = true)
    (g : GipInput) (payload : List UInt8) :
    InputDelivered s g pads (inputOn s payload pads) ↔
      parseInput payload (UInt8.ofNat payload.length) = some g := by
  simp only [inputOn, onInput, slotIdx?_ofNat, if_pos hactive]
  cases hparse : parseInput payload (UInt8.ofNat payload.length) with
  | none =>
      refine iff_of_false (fun hdelivered => ?_) (by simp)
      exact absurd hdelivered.event List.ne_cons_self
  | some g' =>
      constructor
      · intro hdelivered
        have hevent := (reportInput_delivered s g' pads).event.symm.trans hdelivered.event
        have htext := (Datagram.mk.inj (List.cons.inj hevent).1).1
        rw [inputEvent_inj s (List.append_cancel_right htext)]
      · intro hsame
        rw [Option.some.inj hsame]
        exact reportInput_delivered s g pads

/-! ## Which layout wins -/

/-- What `on_input` takes for a wrapped payload. -/
def LooksWrapped (payload : List UInt8) : Prop :=
  24 ≤ payload.length ∧ byteAt payload 4 = gipCmdInput ∧ 14 ≤ byteAt payload 7

/-- Lengths up to 255 compare as bytes. -/
theorem le_ofNat {n : Nat} (hn : n ≤ 255) {m : UInt8} : m ≤ UInt8.ofNat n ↔ m.toNat ≤ n := by
  rw [UInt8.le_iff_toNat_le, UInt8.toNat_ofNat', Nat.mod_eq_of_lt (by omega)]

theorem unwrapInput_wrapped {payload : List UInt8} (hlength : payload.length ≤ 255)
    (hwrapped : LooksWrapped payload) :
    unwrapInput payload (UInt8.ofNat payload.length) =
      (payload.drop 8, UInt8.ofNat (payload.length - 8)) := by
  obtain ⟨hlong, hcmd, hrest⟩ := hwrapped
  rw [UInt8.ofNat_sub (by omega)]
  exact if_pos ⟨(le_ofNat hlength).mpr hlong, hcmd, hrest⟩

theorem unwrapInput_bare {payload : List UInt8} (hlength : payload.length ≤ 255)
    (hbare : ¬LooksWrapped payload) :
    unwrapInput payload (UInt8.ofNat payload.length) =
      (payload, UInt8.ofNat payload.length) := by
  rw [unwrapInput, if_neg]
  rintro ⟨hlong, hcmd, hrest⟩
  exact hbare ⟨(le_ofNat hlength).mp hlong, hcmd, hrest⟩

/-- A state with realistic triggers comes out of layout A whenever layout A reads it, and out of
layout B only if layout A reads unrealistic triggers. -/
theorem parseInput_eq_some_iff {g : GipInput} (hg : g.TriggersOk) {payload p : List UInt8}
    {plen n : UInt8} (hunwrap : unwrapInput payload plen = (p, n)) (hn : 14 ≤ n) :
    parseInput payload plen = some g ↔
      parseInput14 p = g ∨ 16 ≤ n ∧ ¬(parseInput14 p).TriggersOk ∧ parseInput16 p = g := by
  rw [parseInput, hunwrap]
  dsimp only
  rw [if_neg (UInt8.not_lt.mpr hn)]
  by_cases hA : (parseInput14 p).TriggersOk
  · rw [if_neg (fun hB => hB.2.1 hA), Option.some.injEq]
    exact (or_iff_left fun hB => hB.2.1 hA).symm
  · have hother : parseInput14 p ≠ g := by
      rintro rfl
      exact hA hg
    by_cases hB : n ≥ 16 ∧ (parseInput16 p).TriggersOk
    · rw [if_pos ⟨hB.1, hA, hB.2⟩, Option.some.injEq, or_iff_right hother]
      exact ⟨fun hsame => ⟨hB.1, hA, hsame⟩, fun hsame => hsame.2.2⟩
    · rw [if_neg (fun hwins => hB ⟨hwins.1, hwins.2.2⟩), Option.some.injEq, or_iff_right hother]
      refine iff_of_false hother fun hsame => hB ⟨hsame.1, ?_⟩
      rw [hsame.2.2]
      exact hg

theorem GipInput.InRange.triggersOk {g : GipInput} (hg : g.InRange) : g.TriggersOk :=
  ⟨UInt16.le_trans hg.1 (by decide), UInt16.le_trans hg.2 (by decide)⟩

/-! ## Layout B -/

/-- A layout B state as layout A reads it: behind the buttons everything is one field late. -/
def GipInput.shifted (g : GipInput) : GipInput where
  buttons := g.buttons
  triggerL := 0
  triggerR := g.triggerL
  stickLx := g.triggerR.toInt16
  stickLy := g.stickLx
  stickRx := g.stickLy
  stickRy := g.stickRx

theorem store32_toUInt32 (x : UInt16) : store32 x.toUInt32 = store16 x ++ store16 0 := by
  have hx := x.toNat_lt
  have hlow : x.toNat / 0x10000 = 0 := Nat.div_eq_of_lt (by omega)
  have hhigh : x.toNat / 0x1000000 = 0 := Nat.div_eq_of_lt (by omega)
  simp [store32, store16, hlow, hhigh]

theorem encode16_eq (g : GipInput) :
    g.encode16 = g.shifted.encode14 ++ store16 g.stickRy.toUInt16 := by
  simp only [GipInput.encode16, GipInput.encode14, GipInput.sticks, GipInput.shifted,
    store32_toUInt32, List.append_assoc, UInt16.toUInt16_toInt16]

theorem shifted_eq_iff (g : GipInput) :
    g.shifted = g ↔ g.triggerL = 0 ∧ g.triggerR = 0 ∧ g.stickLx = 0 ∧ g.stickLy = 0 ∧
      g.stickRx = 0 ∧ g.stickRy = 0 := by
  constructor
  · intro hsame
    obtain ⟨-, hl, hr, hlx, hly, hrx, hry⟩ := GipInput.ext_iff.mp hsame
    have hleft : g.triggerL = 0 := hl.symm
    have hright : g.triggerR = 0 := hr.symm.trans hleft
    have hx : g.stickLx = 0 := by
      refine hlx.symm.trans ?_
      rw [GipInput.shifted, hright]
      rfl
    have hy : g.stickLy = 0 := hly.symm.trans hx
    have hx' : g.stickRx = 0 := hrx.symm.trans hy
    exact ⟨hleft, hright, hx, hy, hx', hry.symm.trans hx'⟩
  · rintro ⟨hl, hr, hlx, hly, hrx, hry⟩
    ext1
    · rfl
    · exact hl.symm
    · exact hl.trans hr.symm
    · rw [GipInput.shifted, hr, hlx]
      rfl
    · exact hlx.trans hly.symm
    · exact hly.trans hrx.symm
    · exact hrx.trans hry.symm

/-- Layout A always reads realistic triggers from a layout B payload, so it always wins; what it
delivers is the state only if nothing is pulled and nothing is tilted. -/
theorem layoutB_delivered_iff {s : Fin maxSlots} {pads : Pads}
    (hactive : (pads.slots s).active = true) {g : GipInput} (hg : g.InRange) :
    InputDelivered s g pads (inputOn s g.encode16 pads) ↔
      g.triggerL = 0 ∧ g.triggerR = 0 ∧ g.stickLx = 0 ∧ g.stickLy = 0 ∧ g.stickRx = 0 ∧
        g.stickRy = 0 := by
  have hlength : g.encode16.length = 16 := rfl
  have hbare : ¬LooksWrapped g.encode16 := fun hwrapped => by
    have hlong := hwrapped.1
    omega
  have hread : parseInput14 g.encode16 = g.shifted := by
    rw [encode16_eq, parseInput14_encode14]
  have hrealistic : (parseInput14 g.encode16).TriggersOk := by
    rw [hread]
    exact ⟨(by decide : (0 : UInt16) ≤ 4095), hg.triggersOk.1⟩
  rw [delivered_iff hactive, parseInput_eq_some_iff hg.triggersOk
    (unwrapInput_bare (by omega) hbare) (by rw [hlength]; decide), hread, ← shifted_eq_iff]
  exact or_iff_left fun hB => hB.2.1 (by rwa [hread] at hrealistic)

/-- A table with one controller on slot 0. -/
def onePad : Pads :=
  { slots := fun s => { active := decide (s = 0) } }

/-- One step of the left trigger arrives as the right trigger. -/
theorem layoutB_misread : ¬InputDelivered 0 { triggerL := 1 } onePad
    (inputOn 0 (GipInput.encode16 { triggerL := 1 }) onePad) := by
  rw [delivered_iff rfl]
  decide

theorem layoutB_centred : InputDelivered 0 { buttons := btnA } onePad
    (inputOn 0 (GipInput.encode16 { buttons := btnA }) onePad) :=
  (layoutB_delivered_iff rfl ⟨by decide, by decide⟩).mpr (by decide)

/-! ## Layout A -/

/-- The payload encodes the state once more eight bytes in: in layout A, or in layout B with a word
behind the buttons that layout A takes for an unrealistic trigger. -/
def GipInput.Repeated (g : GipInput) (payload : List UInt8) : Prop :=
  g.encode14 <+: payload.drop 8 ∨
    4095 < load16 (payload.drop 10) ∧ load16 (payload.drop 8) &&& 0xfffd = g.buttons ∧
      store16 g.triggerL ++ store16 g.triggerR ++ g.sticks <+: payload.drop 12

/-- Behind a wrapper only a repetition of the state is read as the state. -/
theorem repeated_iff {g : GipInput} (hg : g.TriggersOk) {payload : List UInt8}
    (hlong : 24 ≤ payload.length) :
    g.Repeated payload ↔ parseInput14 (payload.drop 8) = g ∨
      ¬(parseInput14 (payload.drop 8)).TriggersOk ∧ parseInput16 (payload.drop 8) = g := by
  have hrest : 16 ≤ (payload.drop 8).length := by
    rw [List.length_drop]
    omega
  rw [parseInput14_eq_iff (by omega), GipInput.Repeated]
  refine or_congr_right ?_
  have hwins : ¬(parseInput14 (payload.drop 8)).TriggersOk ∧ parseInput16 (payload.drop 8) = g ↔
      4095 < load16 (payload.drop 10) ∧ parseInput16 (payload.drop 8) = g := by
    -- the second trigger of layout A is the first of layout B
    have hright : (parseInput14 (payload.drop 8)).triggerR =
      (parseInput16 (payload.drop 8)).triggerL := rfl
    have hleft : (parseInput14 (payload.drop 8)).triggerL = load16 (payload.drop 10) := by
      simp only [parseInput14, List.drop_drop]
    refine and_congr_left fun hsame => ?_
    rw [GipInput.TriggersOk, hright, hsame, and_iff_left hg.1, hleft, UInt16.not_le]
  rw [hwins, parseInput16_eq_iff hrest, List.drop_drop]

/-- The state encoded in layout A with anything behind it: wrapped it always arrives; bare it
arrives unless it looks wrapped and does not happen to repeat itself behind the supposed wrapper. -/
theorem layoutA_delivered_iff {s : Fin maxSlots} {pads : Pads}
    (hactive : (pads.slots s).active = true) {g : GipInput} (hg : g.InRange)
    (extra : List UInt8) (seq : UInt8) :
    ((g.encode14 ++ extra).length ≤ 255 →
      (InputDelivered s g pads (inputOn s (g.encode14 ++ extra) pads) ↔
        (LooksWrapped (g.encode14 ++ extra) → g.Repeated (g.encode14 ++ extra)))) ∧
    (24 ≤ (inputWrapper seq ++ (g.encode14 ++ extra)).length →
      (inputWrapper seq ++ (g.encode14 ++ extra)).length ≤ 255 →
      InputDelivered s g pads (inputOn s (inputWrapper seq ++ (g.encode14 ++ extra)) pads)) := by
  constructor
  · intro hlength
    rw [delivered_iff hactive]
    by_cases hwrapped : LooksWrapped (g.encode14 ++ extra)
    · have hn : (16 : UInt8) ≤ UInt8.ofNat ((g.encode14 ++ extra).length - 8) :=
        (le_ofNat (by omega)).mpr (Nat.le_sub_of_add_le hwrapped.1)
      rw [parseInput_eq_some_iff hg.triggersOk (unwrapInput_wrapped hlength hwrapped)
        (UInt8.le_trans (by decide) hn), and_iff_right hn, imp_iff_right hwrapped,
        repeated_iff hg.triggersOk hwrapped.1]
    · have hn : (14 : UInt8) ≤ UInt8.ofNat (g.encode14 ++ extra).length :=
        (le_ofNat hlength).mpr (by
          rw [List.length_append, length_encode14]
          exact Nat.le_add_right 14 _)
      rw [parseInput_eq_some_iff hg.triggersOk (unwrapInput_bare hlength hwrapped) hn]
      exact iff_of_true (Or.inl (parseInput14_encode14 g extra)) fun hnot => absurd hnot hwrapped
  · intro hlong hlength
    have hwrapped : LooksWrapped (inputWrapper seq ++ (g.encode14 ++ extra)) :=
      ⟨hlong, rfl, (by decide : (14 : UInt8) ≤ 0x2c)⟩
    have hn : (14 : UInt8) ≤
        UInt8.ofNat ((inputWrapper seq ++ (g.encode14 ++ extra)).length - 8) :=
      (le_ofNat (by omega)).mpr ((by decide : 14 ≤ 24 - 8).trans (Nat.sub_le_sub_right hlong 8))
    rw [delivered_iff hactive, parseInput_eq_some_iff hg.triggersOk
      (unwrapInput_wrapped hlength hwrapped) hn]
    exact Or.inl (parseInput14_encode14 g extra)

/-- A right trigger of 32 with the left stick tilted looks like a wrapper. -/
theorem layoutA_misread : ¬InputDelivered 0 { triggerR := 0x20, stickLx := 0x0e00 } onePad
    (inputOn 0 (GipInput.encode14 { triggerR := 0x20, stickLx := 0x0e00 } ++
      List.replicate 10 0) onePad) := by
  rw [delivered_iff rfl]
  decide

theorem layoutA_wrapped : InputDelivered 0 { triggerR := 0x20, stickLx := 0x0e00 } onePad
    (inputOn 0 (inputWrapper 7 ++ (GipInput.encode14 { triggerR := 0x20, stickLx := 0x0e00 } ++
      List.replicate 2 0)) onePad) :=
  (layoutA_delivered_iff rfl ⟨by decide, by decide⟩ (List.replicate 2 0) 7).2 (by decide)
    (by decide)

end XoneDarwin
