import Mathlib.Data.Int.ConditionallyCompleteOrder
import XoneDarwin.Injector.Triggers
import XoneDarwin.Machine.Checked
import XoneDarwin.Machine.Response

/-!
# Sticks of the injector

What is shown of a stick is its distance from the first input, turned around for the
vertical axes, behind a dead zone, a gain and a limit.
-/

namespace XoneDarwin

open CString Machine

/-! ## Settings -/

/-- The variables that `udp_thread` turns into settings. -/
structure InjectorEnvironment where
  stickGain : Option (List Char) := none
  stickDeadzone : Option (List Char) := none
  swapLr : Option (List Char) := none
  swapSticks : Option (List Char) := none
  axisLayout : Option (List Char) := none

/-- The settings `udp_thread` makes of its environment. -/
def udpThreadSettings (env : InjectorEnvironment) : InjectorSettings :=
  let defaults : InjectorSettings := {}
  -- a variable that is set to nothing counts as not set
  let given (value : Option (List Char)) := value.filter fun text => !text.isEmpty
  { stickGain :=
      match given env.stickGain with
      | some text => if atoi text > 0 ∧ atoi text ≤ 64 then atoi text else defaults.stickGain
      | none => defaults.stickGain
    stickDeadzone :=
      match given env.stickDeadzone with
      | some text =>
          if atoi text ≥ 0 ∧ atoi text ≤ 12000 then atoi text else defaults.stickDeadzone
      | none => defaults.stickDeadzone
    swapLr :=
      match given env.swapLr with
      | some text => text ≠ "0".toList
      | none => defaults.swapLr
    swapSticks :=
      match given env.swapSticks with
      | some text => text ≠ "0".toList
      | none => defaults.swapSticks
    xoneAxisLayout :=
      match given env.axisLayout with
      | some text => text ≠ "sdl".toList
      | none => defaults.xoneAxisLayout }

/-- The gain and the dead zone pass the checks of `udp_thread`. -/
structure InjectorSettings.Admitted (settings : InjectorSettings) : Prop where
  gain : 1 ≤ settings.stickGain ∧ settings.stickGain ≤ 64
  deadzone : 0 ≤ settings.stickDeadzone ∧ settings.stickDeadzone ≤ 12000

theorem udpThreadSettings_admitted (env : InjectorEnvironment) :
    (udpThreadSettings env).Admitted where
  gain := by
    unfold udpThreadSettings
    dsimp only
    split
    · split <;> omega
    · omega
  deadzone := by
    unfold udpThreadSettings
    dsimp only
    split
    · split <;> omega
    · omega

/-! ## Sticks -/

inductive Stick
  | lx
  | ly
  | rx
  | ry
  deriving DecidableEq

namespace Stick

/-- The key of its field. -/
def key : Stick → String
  | .lx => "lx"
  | .ly => "ly"
  | .rx => "rx"
  | .ry => "ry"

def number : Stick → InputNumbers → Int
  | .lx, numbers => numbers.lx
  | .ly, numbers => numbers.ly
  | .rx, numbers => numbers.rx
  | .ry, numbers => numbers.ry

def base : Stick → InjectorSlot → Int
  | .lx, s => s.baseLx
  | .ly, s => s.baseLy
  | .rx, s => s.baseRx
  | .ry, s => s.baseRy

/-- Its distance from the base. -/
def calibrated : Stick → InjectorSlot → Int
  | .lx, s => s.lx
  | .ly, s => s.ly
  | .rx, s => s.rx
  | .ry, s => s.ry

def vertical : Stick → Bool
  | .lx | .rx => false
  | .ly | .ry => true

/-- The axis it is shown on. -/
def axis (settings : InjectorSettings) : Stick → Nat
  | .lx => if settings.swapSticks then if settings.xoneAxisLayout then 3 else 2 else 0
  | .ly => if settings.swapSticks then if settings.xoneAxisLayout then 4 else 3 else 1
  | .rx => if settings.swapSticks then 0 else if settings.xoneAxisLayout then 3 else 2
  | .ry => if settings.swapSticks then 1 else if settings.xoneAxisLayout then 4 else 3

/-- The direction in which SDL counts. -/
def oriented (stick : Stick) (v : Int) : Int :=
  if stick.vertical then -v else v

end Stick

namespace Injector

/-- `scale_stick_axis` in its own types. -/
def scaleStickAxisChecked (settings : InjectorSettings) (v : Int) : Option Int := do
  let low ← SignedType.int.check (-settings.stickDeadzone)
  if v > low ∧ v < settings.stickDeadzone then
    some 0
  else
    let x ← SignedType.long.check (v * settings.stickGain)
    let x := if x > 32767 then 32767 else x
    let x := if x < -32768 then -32768 else x
    SignedType.int16.check x

/-- The argument of `scale_stick_axis` in `apply_slot_state_locked`. -/
def orientedChecked (stick : Stick) (c : Int) : Option Int :=
  if stick.vertical then SignedType.int.check (-c) else some c

/-- What `on_input` and `apply_slot_state_locked` make of a stick, in their own types. -/
def stickChecked (settings : InjectorSettings) (stick : Stick) (raw base : Int) : Option Int := do
  let c ← SignedType.int.check (raw - base)
  let v ← orientedChecked stick c
  scaleStickAxisChecked settings v

/-- The value the axis of a stick has after an input. -/
def stickValue (i : Fin maxSlots) (stick : Stick) (numbers : InputNumbers)
    (injector : Injector) : Option Int :=
  (injector.slots i).joy.bind fun joy =>
    axisValue joy (stick.axis injector.settings) (injector.applyInput i numbers).calls

/-- What a value written for a stick has to satisfy. -/
structure SafeStick (settings : InjectorSettings) (stick : Stick) (raw base value : Int) :
    Prop where
  /-- nothing overflows on the way to it -/
  checked : stickChecked settings stick raw base = some value
  range : -32768 ≤ value ∧ value ≤ 32767
  rest : -settings.stickDeadzone < raw - base → raw - base < settings.stickDeadzone → value = 0
  nonneg : 0 ≤ stick.oriented (raw - base) → 0 ≤ value
  nonpos : stick.oriented (raw - base) ≤ 0 → value ≤ 0

/-! ## The response -/

theorem scaleStickAxis_eq (settings : InjectorSettings) (v : Int) :
    scaleStickAxis settings v =
      limit (-32768) 32767 (deadZone settings.stickDeadzone v * settings.stickGain) := by
  unfold scaleStickAxis deadZone
  split
  · rw [zero_mul]
    rfl
  · unfold limit
    dsimp only
    split_ifs <;> omega

theorem isResponse_scaleStickAxis {settings : InjectorSettings} (hadmitted : settings.Admitted) :
    IsResponse (scaleStickAxis settings) := by
  have hgain : 0 ≤ settings.stickGain := Int.le_trans (by decide) hadmitted.gain.1
  have hlimit : IsResponse (limit (-32768 : Int) 32767) := isResponse_limit (by decide) (by decide)
  rw [funext (scaleStickAxis_eq settings)]
  exact hlimit.comp ((isResponse_gain hgain).comp (isResponse_deadZone settings.stickDeadzone))

theorem scaleStickAxis_range (settings : InjectorSettings) (v : Int) :
    -32768 ≤ scaleStickAxis settings v ∧ scaleStickAxis settings v ≤ 32767 := by
  rw [scaleStickAxis_eq]
  exact ⟨le_limit .., limit_le (by decide) _⟩

/-- The product of an `int` with the gain fits a `long`. -/
theorem scaleStickAxisChecked_eq {settings : InjectorSettings} (hadmitted : settings.Admitted)
    {v : Int} (hv : SignedType.int.Holds v) :
    scaleStickAxisChecked settings v = some (scaleStickAxis settings v) := by
  obtain ⟨hlow, hhigh⟩ := hv
  simp only [SignedType.int] at hlow hhigh
  obtain ⟨hgain, hgain'⟩ := hadmitted.gain
  obtain ⟨hzone, hzone'⟩ := hadmitted.deadzone
  have hnegated : SignedType.int.Holds (-settings.stickDeadzone) := by
    constructor <;> simp only [SignedType.int] <;> omega
  have hproduct : SignedType.long.Holds (v * settings.stickGain) := by
    have habove : v * settings.stickGain ≤ 0x7fffffff * settings.stickGain :=
      Int.mul_le_mul_of_nonneg_right hhigh (by omega)
    have hbelow : -0x80000000 * settings.stickGain ≤ v * settings.stickGain :=
      Int.mul_le_mul_of_nonneg_right hlow (by omega)
    constructor <;> simp only [SignedType.long] <;> omega
  have hresult := scaleStickAxis_range settings v
  unfold scaleStickAxisChecked
  unfold scaleStickAxis at hresult ⊢
  simp only [SignedType.check_eq hnegated, SignedType.check_eq hproduct, Option.bind_eq_bind,
    Option.bind_some]
  split
  next => rfl
  next hinside =>
    rw [if_neg hinside] at hresult
    exact SignedType.check_eq hresult

/-- Of 16-bit values, with the extremes of both. -/
theorem stickChecked_eq {settings : InjectorSettings} (hadmitted : settings.Admitted)
    (stick : Stick) {raw base : Int} (hraw : SignedType.int16.Holds raw)
    (hbase : SignedType.int16.Holds base) :
    stickChecked settings stick raw base =
      some (scaleStickAxis settings (stick.oriented (raw - base))) := by
  obtain ⟨hrawLow, hrawHigh⟩ := hraw
  obtain ⟨hbaseLow, hbaseHigh⟩ := hbase
  simp only [SignedType.int16] at hrawLow hrawHigh hbaseLow hbaseHigh
  have hdistance : SignedType.int.Holds (raw - base) := by
    constructor <;> simp only [SignedType.int] <;> omega
  have hnegated : SignedType.int.Holds (-(raw - base)) := by
    constructor <;> simp only [SignedType.int] <;> omega
  have horiented : orientedChecked stick (raw - base) = some (stick.oriented (raw - base)) := by
    rw [orientedChecked, SignedType.check_eq hnegated, Stick.oriented]
    split <;> rfl
  rw [stickChecked, SignedType.check_eq hdistance, Option.bind_eq_bind, Option.bind_some,
    horiented, Option.bind_some]
  refine scaleStickAxisChecked_eq hadmitted ?_
  unfold Stick.oriented
  split
  · exact hnegated
  · exact hdistance

theorem safeStick {settings : InjectorSettings} (hadmitted : settings.Admitted)
    (stick : Stick) {raw base : Int} (hraw : SignedType.int16.Holds raw)
    (hbase : SignedType.int16.Holds base) :
    SafeStick settings stick raw base
      (scaleStickAxis settings (stick.oriented (raw - base))) where
  checked := stickChecked_eq hadmitted stick hraw hbase
  range := scaleStickAxis_range settings _
  rest := by
    intro hlow hhigh
    refine if_pos ?_
    unfold Stick.oriented
    split <;> omega
  nonneg := (isResponse_scaleStickAxis hadmitted).nonneg
  nonpos := (isResponse_scaleStickAxis hadmitted).nonpos

/-! ## What a stick is shown as -/

theorem withNumbers_stickBase (s : InjectorSlot) (numbers : InputNumbers) (stick : Stick) :
    stick.base (withNumbers s numbers) =
      if s.calibrated then stick.base s else stick.number numbers := by
  unfold withNumbers
  cases stick <;> cases s.calibrated <;> rfl

theorem withNumbers_stick (s : InjectorSlot) (numbers : InputNumbers) (stick : Stick) :
    stick.calibrated (withNumbers s numbers) =
      stick.number numbers - stick.base (withNumbers s numbers) := by
  cases stick <;> rfl

theorem inputNumbers_stick (buttons : Int) (line : List Char) (stick : Stick) :
    stick.number (inputNumbers buttons line) = (jsonGetInt line stick.key).getD 0 := by
  cases stick <;> rfl

/-- The axes that `apply_slot_state_locked` sets include the stick's. -/
theorem axisValue_stick (settings : InjectorSettings) (joy : Nat) (s : InjectorSlot)
    (stick : Stick) :
    axisValue joy (stick.axis settings)
        ((slotAxes settings s).map fun value => SdlCall.axis joy value.1 value.2).reverse =
      some (scaleStickAxis settings (stick.oriented (stick.calibrated s))) := by
  cases hswap : settings.swapSticks <;> cases hlayout : settings.xoneAxisLayout <;>
    cases stick <;>
    simp [slotAxes, Stick.axis, Stick.calibrated, Stick.oriented, Stick.vertical, axisValue,
      hswap, hlayout]

section

variable {injector : Injector} {i : Fin maxSlots}

theorem applyInput_stickValue (hsound : injector.desk.Sound)
    (hactive : (injector.slots i).active = true) (numbers : InputNumbers) (stick : Stick) :
    injector.stickValue i stick numbers =
      some (scaleStickAxis injector.settings (stick.oriented
        (stick.number numbers - stick.base (withNumbers (injector.slots i) numbers)))) := by
  obtain ⟨hstill, hid, hsame, hjoy⟩ := withNumbers_held hsound hactive numbers
  obtain ⟨joy, hjoy⟩ := Option.isSome_iff_exists.mp hjoy
  rw [stickValue, hjoy, Option.bind_some, applyInput, if_pos hactive, applySlotState_eq,
    setSlot_same, ← withNumbers_stick]
  · exact axisValue_slotCalls (axisValue_stick injector.settings joy _ stick)
  · rwa [setSlot_same]
  · rwa [setSlot_same]
  · rw [setSlot_same, hsame, hjoy]

/-! ## Which bases there are -/

/-- The bases that slots have are values of 16 bits. -/
def Based (injector : Injector) : Prop :=
  ∀ i, (injector.slots i).calibrated = true →
    ∀ stick : Stick, SignedType.int16.Holds (stick.base (injector.slots i))

/-- The line reads as values of 16 bits for the sticks. -/
def SaysSticks (line : List Char) : Prop :=
  ∀ stick : Stick, SignedType.int16.Holds ((jsonGetInt line stick.key).getD 0)

variable (host : SdlHost)

theorem Based.input (hbased : injector.Based) {line : List Char} (hline : SaysSticks line) :
    (injector.onInput host line).Based := by
  rcases onInput_cases host injector line with hsame | ⟨j, buttons, hinput⟩
  · rwa [hsame]
  have hready := injector.ensureSdlReady_slots host
  rw [hinput]
  intro i
  split
  · have hconnected := (injector.ensureSdlReady host).2.attachSlot_slot host j i
    rw [hready] at hconnected
    generalize (injector.ensureSdlReady host).2.attachSlot host j = connected at hconnected ⊢
    -- connecting gives no base
    have hkept : (connected.slots i).calibrated = true → ∀ stick : Stick,
        SignedType.int16.Holds (stick.base (connected.slots i)) := by
      rcases hconnected with hsame | ⟨-, -, hfresh⟩
      · rw [hsame]
        exact hbased i
      · exact fun hcalibrated => absurd (hfresh.symm.trans hcalibrated) Bool.false_ne_true
    rw [applyInput_slot]
    split
    · intro _ stick
      rw [withNumbers_stickBase]
      split
      next hcalibrated => exact hkept hcalibrated stick
      next => exact inputNumbers_stick buttons line stick ▸ hline stick
    · exact hkept
  · rw [hready]
    exact hbased i

theorem Based.step (hbased : injector.Based) {event : Event} (hline : SaysSticks event.line) :
    (injector.step event).Based := by
  rcases injector.step_cases event with ⟨slot, j, hslot, -, hstep⟩ | ⟨-, hsame | ⟨slot, hstep⟩ |
    hstep⟩
  · rw [hstep]
    intro i hcalibrated
    rw [onDisconnected_slot hslot] at hcalibrated ⊢
    split at hcalibrated
    next => cases hcalibrated
    next hother =>
      rw [if_neg hother]
      exact hbased i hcalibrated
  · rwa [hsame]
  · rw [hstep]
    intro i hcalibrated
    cases hslot : bridgeSlot? slot with
    | none =>
        have hsame : injector.onConnected event.host slot = injector := by rw [onConnected, hslot]
        rw [hsame] at hcalibrated ⊢
        exact hbased i hcalibrated
    | some j =>
        rw [onConnected_slot event.host hslot] at hcalibrated ⊢
        rcases ensured_slot event.host injector j i with hsame | ⟨-, -, hfresh⟩
        · rw [hsame] at hcalibrated ⊢
          exact hbased i hcalibrated
        · exact absurd (hfresh.symm.trans hcalibrated) Bool.false_ne_true
  · rw [hstep]
    exact hbased.input event.host hline

/-- Whatever lines with such values are received, the bases are such values, too. -/
theorem run_based (settings : InjectorSettings) (others : Nat) {events : List Event}
    (hevents : ∀ event ∈ events, SaysSticks event.line) :
    (run step (start settings others) events).Based :=
  run_invariant_of_always Based (fun _ _ hbased hline => hbased.step hline)
    (fun _ hcalibrated => absurd hcalibrated Bool.false_ne_true) (always_inputs_iff.mpr hevents)

end

/-- Whatever the admitted settings, the base of the stick and the 16-bit value that is received:
the value that SDL gets is computed without overflow, is one of 16 bits, is 0 inside the dead zone
and is not on the wrong side; and from the same base, more to the right is not shown less to the
right, and further up is not shown further down. -/
theorem stick_transform {injector : Injector} {i : Fin maxSlots} {stick : Stick}
    (hsound : injector.desk.Sound) (hadmitted : injector.settings.Admitted)
    (hactive : (injector.slots i).active = true)
    (hbase : (injector.slots i).calibrated = true →
      SignedType.int16.Holds (stick.base (injector.slots i))) :
    (∀ numbers, SignedType.int16.Holds (stick.number numbers) →
      ∃ value, injector.stickValue i stick numbers = some value ∧
        SafeStick injector.settings stick (stick.number numbers)
          (stick.base (withNumbers (injector.slots i) numbers)) value) ∧
      ((injector.slots i).calibrated = true → ∀ numbers₁ numbers₂ value₁ value₂,
        injector.stickValue i stick numbers₁ = some value₁ →
        injector.stickValue i stick numbers₂ = some value₂ →
        stick.number numbers₁ ≤ stick.number numbers₂ →
        if stick.vertical then value₂ ≤ value₁ else value₁ ≤ value₂) := by
  constructor
  · intro numbers hraw
    refine ⟨_, applyInput_stickValue hsound hactive numbers stick,
      safeStick hadmitted stick hraw ?_⟩
    rw [withNumbers_stickBase]
    split
    next hcalibrated => exact hbase hcalibrated
    next => exact hraw
  · intro hcalibrated numbers₁ numbers₂ value₁ value₂ hvalue₁ hvalue₂ hle
    rw [applyInput_stickValue hsound hactive, withNumbers_stickBase, if_pos hcalibrated,
      Option.some_inj] at hvalue₁ hvalue₂
    have hmono := (isResponse_scaleStickAxis hadmitted).mono
    rw [← hvalue₁, ← hvalue₂]
    cases hvertical : stick.vertical <;>
      simp only [Stick.oriented, hvertical, Bool.false_eq_true, reduceIte]
    · exact hmono (by omega)
    · exact hmono (by omega)

/-- A slot whose left stick was all the way down at its first input, with the largest gain. -/
def heldStick : Injector :=
  run step (start (udpThreadSettings { stickGain := some "64".toList }) 0)
    [⟨.working true, connectedEvent 0⟩, ⟨.working true, inputEvent 0 { stickLy := -32768 }⟩]

/-- All the way up, the distance is 65535. -/
theorem stick_transform_extreme :
    ∃ value, heldStick.stickValue 0 .ly (eventNumbers { stickLy := 32767 }) = some value ∧
      SafeStick heldStick.settings .ly 32767
        (Stick.ly.base (withNumbers (heldStick.slots 0) (eventNumbers { stickLy := 32767 })))
        value := by
  have hsound : heldStick.Sound :=
    run_invariant Sound (fun _ event hsound => hsound.step event) (start_sound _ 0) _
  exact (@stick_transform heldStick 0 .ly hsound.desk
    ⟨by decide +kernel, by decide +kernel⟩ (by decide +kernel) (by decide +kernel)).1
      (eventNumbers { stickLy := 32767 }) (by decide +kernel)

end Injector

end XoneDarwin
