import XoneDarwin.Injector.Sticks

/-!
# The injector's arithmetic

The numbers of an input line are any values of `int`, and so are the bases they are
measured from. The handlers in their own types have no result once an operation
leaves its type.
-/

namespace XoneDarwin

open CString Machine

namespace Injector

/-! ## The handlers in their own types -/

/-- `if (c < 0) c = -c`. -/
def absChecked (c : Int) : Option Int :=
  if c < 0 then SignedType.int.check (-c) else some c

/-- `trigger_to_sdl_axis`. -/
def triggerToSdlAxisChecked (v : Int) : Option Int := do
  let low := if v < 0 then 0 else v
  let clamped := if low > 4095 then 4095 else low
  let scaled ← SignedType.int.check (clamped * 32767)
  SignedType.int16.check (scaled / 4095)

/-- What `on_input` makes of the numbers of a slot in use. -/
def withNumbersChecked (s : InjectorSlot) (numbers : InputNumbers) : Option InjectorSlot := do
  let c := if s.calibrated then s else
    { s with
      baseLt := numbers.lt
      baseRt := numbers.rt
      baseLx := numbers.lx
      baseLy := numbers.ly
      baseRx := numbers.rx
      baseRy := numbers.ry
      calibrated := true }
  let cLt ← SignedType.int.check (numbers.lt - c.baseLt)
  let cRt ← SignedType.int.check (numbers.rt - c.baseRt)
  let cLx ← SignedType.int.check (numbers.lx - c.baseLx)
  let cLy ← SignedType.int.check (numbers.ly - c.baseLy)
  let cRx ← SignedType.int.check (numbers.rx - c.baseRx)
  let cRy ← SignedType.int.check (numbers.ry - c.baseRy)
  let cLt ← absChecked cLt
  let cRt ← absChecked cRt
  some { c with
    buttons := numbers.buttons
    lt := if cLt > 4095 then 4095 else cLt
    rt := if cRt > 4095 then 4095 else cRt
    lx := cLx
    ly := cLy
    rx := cRx
    ry := cRy }

/-- The axes of `apply_slot_state_locked`. -/
def slotAxesChecked (settings : InjectorSettings) (s : InjectorSlot) :
    Option (List (Nat × Int)) := do
  let lx := if settings.swapSticks then s.rx else s.lx
  let ly := if settings.swapSticks then s.ry else s.ly
  let rx := if settings.swapSticks then s.lx else s.rx
  let ry := if settings.swapSticks then s.ly else s.ry
  let axLx ← scaleStickAxisChecked settings lx
  let turnedLy ← SignedType.int.check (-ly)
  let axLy ← scaleStickAxisChecked settings turnedLy
  let axRx ← scaleStickAxisChecked settings rx
  let turnedRy ← SignedType.int.check (-ry)
  let axRy ← scaleStickAxisChecked settings turnedRy
  let first ← triggerToSdlAxisChecked (if settings.swapLr then s.rt else s.lt)
  let second ← triggerToSdlAxisChecked (if settings.swapLr then s.lt else s.rt)
  some (if settings.xoneAxisLayout then
    [(0, axLx), (1, axLy), (2, first), (3, axRx), (4, axRy), (5, second)]
  else [(0, axLx), (1, axLy), (2, axRx), (3, axRy), (4, first), (5, second)])

/-- The calls of `apply_slot_state_locked` with these axes. -/
def showAxes (joy : Nat) (s : InjectorSlot) (axes : List (Nat × Int)) (injector : Injector) :
    Injector :=
  let calls := axes.map (fun value => .axis joy value.1 value.2) ++
    ((slotButtons injector.settings s).map (fun value => .button joy value.1 value.2) ++
      (.hat joy 0 (dpadToHat s.buttons) :: if injector.updateJoysticks then [.update] else []))
  { injector with calls := calls.reverse ++ injector.calls }

/-- `apply_slot_state_locked`. -/
def applySlotStateChecked (i : Fin maxSlots) (injector : Injector) : Option Injector :=
  let s := injector.slots i
  match s.joy with
  | none => some injector
  | some joy =>
      if s.active ∧ ¬s.instanceId < 0 then do
        let axes ← slotAxesChecked injector.settings s
        some (injector.showAxes joy s axes)
      else some injector

section

variable (host : SdlHost)

/-- `on_connected` behind its checks. -/
def attachSlotChecked (i : Fin maxSlots) (injector : Injector) : Option Injector :=
  if (injector.slots i).active then some injector
  else
    let attached := injector.sdlAttachVirtual host
    if attachOk attached.2.api attached.1 then
      match attached.2.sdlOpenJoystick host attached.1 with
      | none => some (attached.2.sdlDetachVirtual attached.1)
      | some joy =>
          applySlotStateChecked i (attached.2.setSlot i
            { active := true, instanceId := attached.1, joy := some joy })
    else some attached.2

/-- `on_connected`. -/
def onConnectedChecked (slot : Int) (injector : Injector) : Option Injector :=
  match bridgeSlot? slot with
  | none => some injector
  | some i =>
      let ensured := injector.ensureSdlReady host
      if ensured.1 then ensured.2.attachSlotChecked host i else some ensured.2

/-- `on_input` under the lock. -/
def applyInputChecked (i : Fin maxSlots) (numbers : InputNumbers) (injector : Injector) :
    Option Injector :=
  if (injector.slots i).active then do
    let slot ← withNumbersChecked (injector.slots i) numbers
    applySlotStateChecked i (injector.setSlot i slot)
  else some injector

/-- `on_input`. -/
def onInputChecked (line : List Char) (injector : Injector) : Option Injector :=
  match (jsonGetInt line "slot").bind bridgeSlot?, jsonGetInt line "buttons" with
  | some i, some buttons =>
      let ensured := injector.ensureSdlReady host
      if ensured.1 then do
        let connected ← (if (ensured.2.slots i).active then some ensured.2
          else ensured.2.onConnectedChecked host i.val)
        connected.applyInputChecked i (inputNumbers buttons line)
      else some ensured.2
  | _, _ => some injector

/-- `handle_line`. -/
def handleLineChecked (injector : Injector) (line : List Char) : Option Injector :=
  if jsonHasType line "connected" then
    match jsonGetInt line "slot" with
    | some slot => injector.onConnectedChecked host slot
    | none => some injector
  else if jsonHasType line "disconnected" then
    match jsonGetInt line "slot" with
    | some slot => some (injector.onDisconnected slot)
    | none => some injector
  else if jsonHasType line "input" then injector.onInputChecked host line
  else some injector

end

def stepChecked (injector : Injector) (event : Event) : Option Injector :=
  injector.handleLineChecked event.host event.line

/-! ## When they have a result -/

/-- The differences between the numbers and the bases of a slot fit, turned around where the
handlers turn them around. -/
structure Measurable (s : InjectorSlot) (numbers : InputNumbers) : Prop where
  trigger : ∀ trigger : Trigger, -0x7fffffff ≤ trigger.number numbers - trigger.base s ∧
    trigger.number numbers - trigger.base s ≤ 0x7fffffff
  stick : ∀ stick : Stick,
    (if stick.vertical then -0x7fffffff else -0x80000000) ≤ stick.number numbers - stick.base s ∧
      stick.number numbers - stick.base s ≤ 0x7fffffff

/-- If the line is an input of a slot that has its bases, the numbers can be measured from them. -/
def Fits (injector : Injector) (event : Event) : Prop :=
  jsonHasType event.line "connected" = false → jsonHasType event.line "disconnected" = false →
    jsonHasType event.line "input" = true → ∀ i buttons,
      (jsonGetInt event.line "slot").bind bridgeSlot? = some i →
      jsonGetInt event.line "buttons" = some buttons →
      (injector.slots i).calibrated = true →
      Measurable (injector.slots i) (inputNumbers buttons event.line)

/-! ## One function after the other -/

theorem absChecked_bind_eq_some {α : Type} {c : Int} {f : Int → Option α} {y : α} :
    (absChecked c).bind f = some y ↔
      (c < 0 → SignedType.int.Holds (-c)) ∧ f (if c < 0 then -c else c) = some y := by
  unfold absChecked
  split
  next hneg => rw [SignedType.check_bind_eq_some, forall_prop_of_true hneg]
  next hneg => exact (and_iff_right fun h => absurd h hneg).symm

/-- A trigger is limited before it is scaled. -/
theorem triggerToSdlAxisChecked_eq (v : Int) :
    triggerToSdlAxisChecked v = some (triggerToSdlAxis v) := by
  unfold triggerToSdlAxisChecked triggerToSdlAxis
  dsimp only
  generalize hlow : (if v < 0 then 0 else v) = low
  generalize hclamped : (if low > 4095 then 4095 else low) = clamped
  have hrange : 0 ≤ clamped ∧ clamped ≤ 4095 := by
    rw [← hclamped, ← hlow]
    split_ifs <;> omega
  rw [SignedType.check_eq, Option.bind_eq_bind, Option.bind_some, SignedType.check_eq]
  · constructor <;> simp only [SignedType.int16] <;> omega
  · constructor <;> simp only [SignedType.int] <;> omega

theorem forall_stick {P : Stick → Prop} : (∀ stick, P stick) ↔ P .lx ∧ P .ly ∧ P .rx ∧ P .ry :=
  ⟨fun h => ⟨h _, h _, h _, h _⟩, fun ⟨hlx, hly, hrx, hry⟩ stick => by cases stick <;> assumption⟩

theorem forall_trigger {P : Trigger → Prop} : (∀ trigger, P trigger) ↔ P .left ∧ P .right :=
  ⟨fun h => ⟨h _, h _⟩, fun ⟨hleft, hright⟩ trigger => by cases trigger <;> assumption⟩

theorem withNumbersChecked_eq_some_iff (s : InjectorSlot) (numbers : InputNumbers)
    (slot : InjectorSlot) :
    withNumbersChecked s numbers = some slot ↔
      (∀ trigger : Trigger,
        SignedType.int.Holds (trigger.number numbers - trigger.base (withNumbers s numbers))) ∧
      (∀ stick : Stick,
        SignedType.int.Holds (stick.number numbers - stick.base (withNumbers s numbers))) ∧
      (∀ trigger : Trigger,
        trigger.number numbers - trigger.base (withNumbers s numbers) < 0 →
          SignedType.int.Holds
            (-(trigger.number numbers - trigger.base (withNumbers s numbers)))) ∧
      slot = withNumbers s numbers := by
  rw [forall_stick, forall_trigger, forall_trigger, @eq_comm _ slot]
  simp only [withNumbersChecked, Option.bind_eq_bind, SignedType.check_bind_eq_some,
    absChecked_bind_eq_some, Option.some_inj, and_assoc]
  rfl

section

variable {settings : InjectorSettings} (hadmitted : settings.Admitted)

include hadmitted

theorem scaleStickAxisChecked_bind {α : Type} {v : Int} (hv : SignedType.int.Holds v)
    (f : Int → Option α) :
    (scaleStickAxisChecked settings v).bind f = f (scaleStickAxis settings v) := by
  rw [scaleStickAxisChecked_eq hadmitted hv, Option.bind_some]

/-- A vertical axis has to be turned around first. -/
theorem turned_bind_eq_some {α : Type} {v : Int} {f : Int → Option α} {y : α} :
    ((SignedType.int.check (-v)).bind fun turned =>
        (scaleStickAxisChecked settings turned).bind f) = some y ↔
      SignedType.int.Holds (-v) ∧ f (scaleStickAxis settings (-v)) = some y := by
  rw [SignedType.check_bind_eq_some]
  exact and_congr_right fun hv => by rw [scaleStickAxisChecked_bind hadmitted hv]

/-- Both vertical positions are turned around, the swapped ones, too. -/
theorem slotAxesChecked_eq_some_iff {s : InjectorSlot}
    (hsticks : ∀ stick : Stick, SignedType.int.Holds (stick.calibrated s))
    (axes : List (Nat × Int)) :
    slotAxesChecked settings s = some axes ↔
      SignedType.int.Holds (-s.ly) ∧ SignedType.int.Holds (-s.ry) ∧
        axes = slotAxes settings s := by
  have hlx : SignedType.int.Holds (if settings.swapSticks then s.rx else s.lx) := by
    split
    · exact hsticks .rx
    · exact hsticks .lx
  have hrx : SignedType.int.Holds (if settings.swapSticks then s.lx else s.rx) := by
    split
    · exact hsticks .lx
    · exact hsticks .rx
  simp only [slotAxesChecked, slotAxes, Option.bind_eq_bind,
    scaleStickAxisChecked_bind hadmitted hlx, scaleStickAxisChecked_bind hadmitted hrx,
    turned_bind_eq_some hadmitted, triggerToSdlAxisChecked_eq, Option.bind_some, Option.some_inj, @eq_comm _ axes]
  cases settings.swapSticks with
  | false => simp only [Bool.false_eq_true, reduceIte]
  | true =>
      simp only [reduceIte]
      exact and_left_comm

theorem applySlotStateChecked_eq_some_iff {injector : Injector} {i : Fin maxSlots}
    (hsettings : injector.settings = settings)
    (hsticks : ∀ stick : Stick, SignedType.int.Holds (stick.calibrated (injector.slots i)))
    (hactive : (injector.slots i).active = true) (hid : 0 ≤ (injector.slots i).instanceId)
    (hjoy : (injector.slots i).joy.isSome = true) (after : Injector) :
    injector.applySlotStateChecked i = some after ↔
      SignedType.int.Holds (-(injector.slots i).ly) ∧
        SignedType.int.Holds (-(injector.slots i).ry) ∧ after = injector.applySlotState i := by
  obtain ⟨joy, hjoy⟩ := Option.isSome_iff_exists.mp hjoy
  have hexact : injector.applySlotState i =
      injector.showAxes joy (injector.slots i) (slotAxes settings (injector.slots i)) := by
    rw [applySlotState_eq hactive hid hjoy, ← hsettings]
    rfl
  have hchecked : injector.applySlotStateChecked i =
      (slotAxesChecked settings (injector.slots i)).bind fun axes =>
        some (injector.showAxes joy (injector.slots i) axes) := by
    rw [applySlotStateChecked, hjoy, ← hsettings]
    exact if_pos ⟨hactive, Int.not_lt.mpr hid⟩
  rw [hchecked, hexact, Option.bind_eq_some_iff]
  simp only [slotAxesChecked_eq_some_iff hadmitted hsticks, Option.some_inj]
  constructor
  · rintro ⟨_, ⟨hly, hry, rfl⟩, rfl⟩
    exact ⟨hly, hry, rfl⟩
  · rintro ⟨hly, hry, rfl⟩
    exact ⟨_, ⟨hly, hry, rfl⟩, rfl⟩

end

/-! ## Measuring -/

/-- An input without a base to measure from is its own base. -/
theorem measurable_withNumbers (s : InjectorSlot) (numbers : InputNumbers) :
    Measurable (withNumbers s numbers) numbers ↔ (s.calibrated = true → Measurable s numbers) := by
  cases hcalibrated : s.calibrated with
  | false =>
      refine iff_of_true ⟨fun trigger => ?_, fun stick => ?_⟩
        fun h => absurd h Bool.false_ne_true
      · rw [withNumbers_base, hcalibrated, if_neg Bool.false_ne_true, Int.sub_self]
        decide
      · rw [withNumbers_stickBase, hcalibrated, if_neg Bool.false_ne_true, Int.sub_self]
        split <;> decide
  | true =>
      have hsame : ∀ trigger : Trigger, trigger.base (withNumbers s numbers) = trigger.base s :=
        fun trigger => by rw [withNumbers_base, hcalibrated, if_pos rfl]
      have hsame' : ∀ stick : Stick, stick.base (withNumbers s numbers) = stick.base s :=
        fun stick => by rw [withNumbers_stickBase, hcalibrated, if_pos rfl]
      rw [forall_prop_of_true rfl]
      constructor
      · rintro ⟨htrigger, hstick⟩
        simp only [hsame, hsame'] at htrigger hstick
        exact ⟨htrigger, hstick⟩
      · rintro ⟨htrigger, hstick⟩
        refine ⟨?_, ?_⟩
        · simpa only [hsame] using htrigger
        · simpa only [hsame'] using hstick

/-- Everything that is checked on the way of an input. -/
theorem measurable_iff (s : InjectorSlot) (numbers : InputNumbers) :
    Measurable s numbers ↔
      (∀ trigger : Trigger, SignedType.int.Holds (trigger.number numbers - trigger.base s)) ∧
      (∀ stick : Stick, SignedType.int.Holds (stick.number numbers - stick.base s)) ∧
      (∀ trigger : Trigger, trigger.number numbers - trigger.base s < 0 →
        SignedType.int.Holds (-(trigger.number numbers - trigger.base s))) ∧
      SignedType.int.Holds (-(numbers.ly - s.baseLy)) ∧
      SignedType.int.Holds (-(numbers.ry - s.baseRy)) := by
  simp only [SignedType.Holds, SignedType.int]
  constructor
  · rintro ⟨htrigger, hstick⟩
    obtain ⟨hlx, hly, hrx, hry⟩ := forall_stick.mp hstick
    simp only [Stick.vertical, Stick.number, Stick.base, Bool.false_eq_true, reduceIte]
      at hlx hly hrx hry
    refine ⟨fun trigger => ?_, fun stick => ?_, fun trigger _ => ?_, by omega, by omega⟩
    · have := htrigger trigger
      omega
    · cases stick <;> simp only [Stick.number, Stick.base] <;> omega
    · have := htrigger trigger
      omega
  · rintro ⟨htrigger, hstick, hturned, hly, hry⟩
    refine ⟨fun trigger => ?_, fun stick => ?_⟩
    · have := htrigger trigger
      have := hturned trigger
      omega
    · have := hstick stick
      cases stick <;>
        simp only [Stick.vertical, Stick.number, Stick.base, Bool.false_eq_true, reduceIte] at * <;>
        omega

section

variable {injector : Injector} (hadmitted : injector.settings.Admitted) {i : Fin maxSlots}

include hadmitted

theorem applyInputChecked_eq_some_iff (hsound : injector.desk.Sound)
    (hactive : (injector.slots i).active = true) (numbers : InputNumbers) (after : Injector) :
    injector.applyInputChecked i numbers = some after ↔
      ((injector.slots i).calibrated = true → Measurable (injector.slots i) numbers) ∧
        after = injector.applyInput i numbers := by
  obtain ⟨hstill, hid, hsame, hjoy⟩ := withNumbers_held hsound hactive numbers
  rw [applyInputChecked, if_pos hactive, applyInput, if_pos hactive, ← measurable_withNumbers,
    measurable_iff, Option.bind_eq_bind, Option.bind_eq_some_iff]
  simp only [withNumbersChecked_eq_some_iff]
  generalize hslot : withNumbers (injector.slots i) numbers = slot at *
  have hdifference (hsticks : ∀ stick : Stick,
      SignedType.int.Holds (stick.number numbers - stick.base slot)) (stick : Stick) :
      SignedType.int.Holds (stick.calibrated ((injector.setSlot i slot).slots i)) := by
    rw [setSlot_same, ← hslot, withNumbers_stick, hslot]
    exact hsticks stick
  have hly : slot.ly = numbers.ly - slot.baseLy := by rw [← hslot]; rfl
  have hry : slot.ry = numbers.ry - slot.baseRy := by rw [← hslot]; rfl
  have hsettings : (injector.setSlot i slot).settings = injector.settings := rfl
  have happly (hsticks : ∀ stick : Stick,
      SignedType.int.Holds (stick.number numbers - stick.base slot)) :=
    applySlotStateChecked_eq_some_iff hadmitted hsettings (hdifference hsticks)
      (by rwa [setSlot_same]) (by rwa [setSlot_same]) (by rw [setSlot_same, hsame]; exact hjoy)
      after
  simp only [setSlot_same, hly, hry] at happly
  constructor
  · rintro ⟨_, ⟨htriggers, hsticks, hturned, rfl⟩, hafter⟩
    obtain ⟨hdown, hdown', rfl⟩ := (happly hsticks).mp hafter
    exact ⟨⟨htriggers, hsticks, hturned, hdown, hdown'⟩, rfl⟩
  · rintro ⟨⟨htriggers, hsticks, hturned, hdown, hdown'⟩, rfl⟩
    exact ⟨_, ⟨htriggers, hsticks, hturned, rfl⟩, (happly hsticks).mpr ⟨hdown, hdown', rfl⟩⟩

end

/-! ## Settings stay -/

section

variable (host : SdlHost) (injector : Injector)

@[simp] theorem applySlotState_settings (i : Fin maxSlots) :
    (injector.applySlotState i).settings = injector.settings := by
  unfold applySlotState
  dsimp only
  split
  · rfl
  · split <;> rfl

@[simp] theorem ensureSdlReady_settings :
    (injector.ensureSdlReady host).2.settings = injector.settings := by
  unfold ensureSdlReady
  split
  · rfl
  · dsimp only
    split_ifs <;> rfl

@[simp] theorem sdlAttachVirtual_settings :
    (injector.sdlAttachVirtual host).2.settings = injector.settings := by
  unfold sdlAttachVirtual
  split
  · rfl
  · split_ifs
    · rfl
    · split <;> rfl

@[simp] theorem sdlDetachVirtual_settings (instanceId : Int) :
    (injector.sdlDetachVirtual instanceId).settings = injector.settings := by
  unfold sdlDetachVirtual
  split <;> rfl

@[simp] theorem setSlot_settings (i : Fin maxSlots) (slot : InjectorSlot) :
    (injector.setSlot i slot).settings = injector.settings := rfl

@[simp] theorem attachSlot_settings (i : Fin maxSlots) :
    (injector.attachSlot host i).settings = injector.settings := by
  unfold attachSlot
  dsimp only
  split_ifs
  · rfl
  · split <;> simp
  · simp

@[simp] theorem onConnected_settings (slot : Int) :
    (injector.onConnected host slot).settings = injector.settings := by
  unfold onConnected
  dsimp only
  split
  · rfl
  · split_ifs <;> simp

@[simp] theorem onDisconnected_settings (slot : Int) :
    (injector.onDisconnected slot).settings = injector.settings := by
  unfold onDisconnected
  dsimp only
  split
  · rfl
  · split_ifs
    · split <;> simp
    · split <;> simp
    · rfl

@[simp] theorem applyInput_settings (i : Fin maxSlots) (numbers : InputNumbers) :
    (injector.applyInput i numbers).settings = injector.settings := by
  unfold applyInput
  split_ifs <;> simp

theorem step_settings (event : Event) : (injector.step event).settings = injector.settings := by
  rcases injector.step_cases event with ⟨slot, -, -, -, hstep⟩ | ⟨-, hstep | ⟨slot, hstep⟩ | hstep⟩
  · rw [hstep, onDisconnected_settings]
  · rw [hstep]
  · rw [hstep, onConnected_settings]
  · rw [hstep]
    rcases onInput_cases event.host injector event.line with hsame | ⟨i, buttons, hinput⟩
    · rw [hsame]
    · rw [hinput]
      split_ifs <;> simp

end

/-! ## Whole lines -/

section

variable {host : SdlHost} {injector : Injector}

/-- In a fresh slot all positions are 0. -/
theorem applySlotStateChecked_fresh (hadmitted : injector.settings.Admitted) (i : Fin maxSlots)
    {jid : Int} (hid : 0 ≤ jid) (joy : Nat) :
    (injector.setSlot i { active := true, instanceId := jid, joy := some joy }).applySlotStateChecked
        i =
      some ((injector.setSlot i
        { active := true, instanceId := jid, joy := some joy }).applySlotState i) := by
  generalize hslot :
    ({ active := true, instanceId := jid, joy := some joy } : InjectorSlot) = slot
  have hzero (stick : Stick) : stick.calibrated slot = 0 := by
    rw [← hslot]
    cases stick <;> rfl
  have hturned : SignedType.int.Holds (-0) := by decide
  have hsettings : (injector.setSlot i slot).settings = injector.settings := rfl
  have hsticks (stick : Stick) :
      SignedType.int.Holds (stick.calibrated ((injector.setSlot i slot).slots i)) := by
    rw [setSlot_same, hzero]
    decide
  refine (applySlotStateChecked_eq_some_iff hadmitted hsettings hsticks ?_ ?_ ?_ _).mpr
    ⟨?_, ?_, rfl⟩
  · rw [setSlot_same, ← hslot]
  · rw [setSlot_same, ← hslot]
    exact hid
  · rw [setSlot_same, ← hslot]
    rfl
  · rw [setSlot_same, ← hslot]
    exact hturned
  · rw [setSlot_same, ← hslot]
    exact hturned

theorem attachSlotChecked_eq (hadmitted : injector.settings.Admitted) (i : Fin maxSlots) :
    injector.attachSlotChecked host i = some (injector.attachSlot host i) := by
  unfold attachSlotChecked attachSlot
  dsimp only
  split_ifs with hactive hok
  · rfl
  · cases (injector.sdlAttachVirtual host).2.sdlOpenJoystick host
        (injector.sdlAttachVirtual host).1 with
    | none => rfl
    | some joy =>
        have hid : 0 ≤ (injector.sdlAttachVirtual host).1 := by
          unfold attachOk at hok
          split at hok
          · exact Int.le_of_lt (of_decide_eq_true hok)
          · exact of_decide_eq_true hok
        exact applySlotStateChecked_fresh (by simpa using hadmitted) i hid joy
  · rfl

theorem onConnectedChecked_eq (hadmitted : injector.settings.Admitted) (slot : Int) :
    injector.onConnectedChecked host slot = some (injector.onConnected host slot) := by
  unfold onConnectedChecked onConnected
  cases bridgeSlot? slot with
  | none => rfl
  | some i =>
      dsimp only
      split
      · exact attachSlotChecked_eq (by simpa using hadmitted) i
      · rfl

variable (host) in
/-- What a slot measures from, it had before it was connected. -/
theorem attached_calibrated (hsound : injector.Sound) (i : Fin maxSlots) :
    ((injector.ensureSdlReady host).2.attachSlot host i).slots i = injector.slots i ∨
      (injector.slots i).calibrated = false ∧
        (((injector.ensureSdlReady host).2.attachSlot host i).slots i).calibrated = false := by
  rcases (injector.ensureSdlReady host).2.attachSlot_slot host i i with hsame | ⟨hidle, -, hfresh⟩
  · exact Or.inl (hsame.trans (congrFun (injector.ensureSdlReady_slots host) i))
  · rw [ensureSdlReady_slots] at hidle
    refine Or.inr ⟨Bool.eq_false_of_not_eq_true fun h => ?_, hfresh⟩
    exact absurd (hidle.symm.trans (hsound.based i h)) Bool.false_ne_true

theorem onInputChecked_eq_some_iff (hadmitted : injector.settings.Admitted)
    (hsound : injector.Sound) {line : List Char} {i : Fin maxSlots} {buttons : Int}
    (hslot : (jsonGetInt line "slot").bind bridgeSlot? = some i)
    (hbuttons : jsonGetInt line "buttons" = some buttons) (after : Injector) :
    injector.onInputChecked host line = some after ↔
      ((injector.slots i).calibrated = true →
          Measurable (injector.slots i) (inputNumbers buttons line)) ∧
        after = injector.onInput host line := by
  rw [onInputChecked, hslot, hbuttons, onInput_eq host hslot hbuttons]
  dsimp only
  split
  next hensured =>
    have hconnected : (if ((injector.ensureSdlReady host).2.slots i).active then
        some (injector.ensureSdlReady host).2
        else (injector.ensureSdlReady host).2.onConnectedChecked host i) =
          some ((injector.ensureSdlReady host).2.attachSlot host i) := by
      split
      next hactive => rw [attachSlot, if_pos hactive]
      next =>
        obtain ⟨_, hdesk, _, hfound⟩ := ensureSdlReady_desk host injector
        obtain ⟨api, hapi⟩ := Option.isSome_iff_exists.mp (hfound hensured)
        have hready : (injector.ensureSdlReady host).2.ensureSdlReady host =
            (true, (injector.ensureSdlReady host).2) :=
          ensureSdlReady_ready host ((congrArg Desk.api hdesk).trans hapi)
        rw [onConnectedChecked_eq (by simpa using hadmitted), onConnected_ensured, hready]
        exact congrArg Prod.fst hready
    have hsettings : ((injector.ensureSdlReady host).2.attachSlot host i).settings =
        injector.settings := by simp
    have hkept := attached_calibrated host hsound i
    have hdesk := attachSlot_sound (i := i) hsound hensured
    rw [hconnected, Option.bind_eq_bind, Option.bind_some]
    generalize (injector.ensureSdlReady host).2.attachSlot host i = connected at *
    cases hactive : (connected.slots i).active with
    | true =>
        rw [applyInputChecked_eq_some_iff (hsettings ▸ hadmitted) hdesk hactive]
        rcases hkept with hsame | ⟨hbefore, hafter⟩
        · rw [hsame]
        · simp only [hbefore, hafter, Bool.false_eq_true, false_implies]
    | false =>
        have hfresh : ¬(injector.slots i).calibrated = true := by
          rcases hkept with hsame | ⟨hbefore, -⟩
          · intro h
            rw [hsame, hsound.based i h] at hactive
            cases hactive
          · exact Bool.eq_false_iff.mp hbefore
        have hidle : ¬(connected.slots i).active = true := Bool.eq_false_iff.mp hactive
        rw [applyInputChecked, if_neg hidle, applyInput, if_neg hidle,
          and_iff_right fun h => absurd h hfresh]
        exact Option.some_inj.trans eq_comm
  next hensured =>
    have hfresh : ¬(injector.slots i).calibrated = true := by
      intro h
      obtain ⟨api, hapi⟩ :=
        Option.isSome_iff_exists.mp (hsound.desk.held i (hsound.based i h)).1
      exact hensured (congrArg Prod.fst (ensureSdlReady_ready host hapi))
    rw [and_iff_right fun h => absurd h hfresh]
    exact Option.some_inj.trans eq_comm

/-- A line has its exact effect if its numbers can be measured, and no other. -/
theorem stepChecked_eq_some_iff (hadmitted : injector.settings.Admitted)
    (hsound : injector.Sound) (event : Event) (after : Injector) :
    injector.stepChecked event = some after ↔
      injector.Fits event ∧ after = injector.step event := by
  have hignored {other : Injector} (hfits : injector.Fits event) :
      some other = some after ↔ injector.Fits event ∧ after = other := by
    rw [and_iff_right hfits]
    exact Option.some_inj.trans eq_comm
  unfold stepChecked handleLineChecked step handleLine
  split
  next hconnected =>
    have hfits : injector.Fits event := fun h => absurd (hconnected.symm.trans h) (by decide)
    cases jsonGetInt event.line "slot" with
    | none => exact hignored hfits
    | some slot =>
        dsimp only
        rw [onConnectedChecked_eq hadmitted]
        exact hignored hfits
  next hconnected =>
    split
    next hdisconnected =>
      have hfits : injector.Fits event := fun _ h => absurd (hdisconnected.symm.trans h) (by decide)
      cases jsonGetInt event.line "slot" with
      | none => exact hignored hfits
      | some slot => exact hignored hfits
    next hdisconnected =>
      split
      next hinput =>
        rw [Bool.not_eq_true] at hconnected hdisconnected
        cases hslot : (jsonGetInt event.line "slot").bind bridgeSlot? with
        | none =>
            have hfits : injector.Fits event := fun _ _ _ i _ h =>
              absurd (hslot.symm.trans h) (by simp)
            rw [onInputChecked, onInput, hslot]
            exact hignored hfits
        | some i =>
            cases hbuttons : jsonGetInt event.line "buttons" with
            | none =>
                have hfits : injector.Fits event := fun _ _ _ _ _ _ h =>
                  absurd (hbuttons.symm.trans h) (by simp)
                rw [onInputChecked, onInput, hslot, hbuttons]
                exact hignored hfits
            | some buttons =>
                rw [onInputChecked_eq_some_iff hadmitted hsound hslot hbuttons]
                refine and_congr_left' ⟨fun hmeasurable => ?_, fun hfits => ?_⟩
                · intro _ _ _ j other hj hother
                  cases hslot.symm.trans hj
                  cases hbuttons.symm.trans hother
                  exact hmeasurable
                · exact hfits hconnected hdisconnected hinput i buttons hslot hbuttons
      next hinput =>
        exact hignored fun _ _ h => absurd h hinput

end

/-- Whatever the environment and the lines received, with whatever numbers: no operation on them
leaves its type just if each input of a slot that has its bases can be measured from them. -/
theorem arithmetic_fits_iff (env : InjectorEnvironment) (others : Nat) (events : List Event) :
    (runChecked stepChecked (start (udpThreadSettings env) others) events).isSome = true ↔
      Always step Fits (start (udpThreadSettings env) others) events := by
  have hstart : (start (udpThreadSettings env) others).settings.Admitted ∧
      (start (udpThreadSettings env) others).Sound :=
    ⟨udpThreadSettings_admitted env, start_sound _ others⟩
  have hruns := runChecked_eq_some_iff
    (fun injector : Injector => injector.settings.Admitted ∧ injector.Sound)
    (fun injector event h => ⟨injector.step_settings event ▸ h.1, h.2.step event⟩)
    (fun injector event h => stepChecked_eq_some_iff h.1 h.2 event) hstart events
  rw [Option.isSome_iff_exists]
  constructor
  · rintro ⟨after, hafter⟩
    exact ((hruns after).mp hafter).1
  · exact fun halways => ⟨_, (hruns _).mpr ⟨halways, rfl⟩⟩

/-- A stick that is all the way to the right at its first input, and then a little to the left. -/
def wideStick : List Event :=
  [⟨.working true, "\x7b\"type\":\"input\",\"slot\":0,\"buttons\":0,\"lx\":2147483647\x7d".toList⟩,
    ⟨.working true, "\x7b\"type\":\"input\",\"slot\":0,\"buttons\":0,\"lx\":-2\x7d".toList⟩]

theorem wideStick_overflows :
    runChecked stepChecked (start (udpThreadSettings {}) 0) wideStick = none := by
  decide +kernel

end Injector

end XoneDarwin
