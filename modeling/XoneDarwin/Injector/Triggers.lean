import XoneDarwin.Injector.Desk

/-!
# Triggers of the injector

The first input of a slot is taken for its neutral position, and what is shown is the
distance from there. If a trigger was pulled then, releasing it is a distance, too.
-/

namespace XoneDarwin

open Machine (run)

/-! ## Triggers -/

inductive Trigger
  | left
  | right
  deriving DecidableEq

namespace Trigger

def raw : Trigger → GipInput → Nat
  | .left, g => g.triggerL.toNat
  | .right, g => g.triggerR.toNat

/-- The key of its field. -/
def key : Trigger → String
  | .left => "lt"
  | .right => "rt"

def number : Trigger → InputNumbers → Int
  | .left, numbers => numbers.lt
  | .right, numbers => numbers.rt

def base : Trigger → InjectorSlot → Int
  | .left, s => s.baseLt
  | .right, s => s.baseRt

def shown : Trigger → InjectorSlot → Int
  | .left, s => s.lt
  | .right, s => s.rt

/-- An input on which the trigger alone is pulled. -/
def pulled (value : UInt16) : Trigger → GipInput
  | .left => { triggerL := value }
  | .right => { triggerR := value }

/-- The axis it is shown on. -/
def axis (settings : InjectorSettings) : Trigger → Nat
  | .left => if settings.swapLr then 5 else if settings.xoneAxisLayout then 2 else 4
  | .right => if settings.swapLr then if settings.xoneAxisLayout then 2 else 4 else 5

end Trigger

/-- The value last given to an axis of a joystick. -/
def axisValue (joy axis : Nat) (calls : List SdlCall) : Option Int :=
  calls.findSome? fun call =>
    match call with
    | .axis otherJoy otherAxis value =>
        if otherJoy = joy ∧ otherAxis = axis then some value else none
    | _ => none

namespace Injector

/-- What a slot in use shows for a trigger. -/
def triggerValue (i : Fin maxSlots) (trigger : Trigger) (injector : Injector) : Option Int :=
  if (injector.slots i).active then
    (injector.slots i).joy.bind fun joy =>
      axisValue joy (trigger.axis injector.settings) injector.calls
  else none

/-- Whatever is received next: of two inputs for the slot that do not have its disconnect between
them, the one with the larger value of the trigger is not shown smaller, and a released trigger
is shown as 0. -/
def Follows (injector : Injector) (i : Fin maxSlots) (trigger : Trigger) : Prop :=
  ∀ (host₁ host₂ : SdlHost) (g₁ g₂ : GipInput) (between : List Event) (v₁ v₂ : Int),
    (∀ event ∈ between, ¬SaysDisconnected event.line i) →
    trigger.raw g₁ ≤ 1023 → trigger.raw g₂ ≤ 1023 →
    (injector.step ⟨host₁, inputEvent (UInt8.ofNat i) g₁⟩).triggerValue i trigger = some v₁ →
    ((run step (injector.step ⟨host₁, inputEvent (UInt8.ofNat i) g₁⟩) between).step
      ⟨host₂, inputEvent (UInt8.ofNat i) g₂⟩).triggerValue i trigger = some v₂ →
    (trigger.raw g₁ ≤ trigger.raw g₂ → v₁ ≤ v₂) ∧ (trigger.raw g₂ ≤ trigger.raw g₁ → v₂ ≤ v₁) ∧
      (trigger.raw g₁ = 0 → v₁ = 0) ∧ (trigger.raw g₂ = 0 → v₂ = 0)

/-- The first input since the slot was connected had the trigger released. -/
def FirstReleased (start : Injector) (history : List Event) (i : Fin maxSlots)
    (trigger : Trigger) : Prop :=
  ∃ before event after, history = before ++ event :: after ∧
    ((run step start before).slots i).calibrated = false ∧
    ((run step start (before ++ [event])).slots i).calibrated = true ∧
    (jsonGetInt event.line trigger.key).getD 0 = 0 ∧
    ∀ later ∈ after, ¬SaysDisconnected later.line i

/-! ## Output -/

theorem axisValue_append (joy axis : Nat) (newer older : List SdlCall) :
    axisValue joy axis (newer ++ older) =
      (axisValue joy axis newer).or (axisValue joy axis older) :=
  List.findSome?_append

/-- The axes that `apply_slot_state_locked` sets include the trigger's. -/
theorem axisValue_axes (settings : InjectorSettings) (joy : Nat) (s : InjectorSlot)
    (trigger : Trigger) :
    axisValue joy (trigger.axis settings)
        ((slotAxes settings s).map fun value => SdlCall.axis joy value.1 value.2).reverse =
      some (triggerToSdlAxis (trigger.shown s)) := by
  cases hswap : settings.swapLr <;> cases hlayout : settings.xoneAxisLayout <;> cases trigger <;>
    simp [slotAxes, Trigger.axis, Trigger.shown, axisValue, hswap, hlayout]

/-- Whatever comes behind the axes sets no axis. -/
theorem axisValue_slotCalls {injector : Injector} {joy axis : Nat} {s : InjectorSlot} {v : Int}
    (haxes : axisValue joy axis ((slotAxes injector.settings s).map
      fun value => SdlCall.axis joy value.1 value.2).reverse = some v) :
    axisValue joy axis ((injector.slotCalls joy s).reverse ++ injector.calls) = some v := by
  obtain ⟨rest, hcalls, hrest⟩ : ∃ rest : List SdlCall, injector.slotCalls joy s =
      ((slotAxes injector.settings s).map fun value => .axis joy value.1 value.2) ++ rest ∧
      axisValue joy axis rest.reverse = none := by
    refine ⟨_, rfl, List.findSome?_eq_none_iff.mpr fun call hcall => ?_⟩
    simp only [List.mem_reverse, List.mem_append, List.mem_map, List.mem_cons] at hcall
    rcases hcall with ⟨value, -, rfl⟩ | rfl | hupdate
    · rfl
    · rfl
    · split at hupdate
      · rw [List.mem_singleton.mp hupdate]
      · exact absurd hupdate List.not_mem_nil
  rw [hcalls, List.reverse_append, List.append_assoc, axisValue_append, hrest, Option.none_or,
    axisValue_append, haxes, Option.some_or]

/-! ## What a line does to a slot -/

/-- Only a slot in use has a base. -/
structure Sound (injector : Injector) : Prop where
  desk : injector.desk.Sound
  based : ∀ i, (injector.slots i).calibrated = true → (injector.slots i).active = true

/-- A slot keeps its base, if it has one. -/
structure KeepsBase (before after : InjectorSlot) : Prop where
  calibrated : after.calibrated = before.calibrated
  active : before.active = true → after.active = true
  base : before.calibrated = true → ∀ trigger : Trigger, trigger.base after = trigger.base before

theorem KeepsBase.refl (s : InjectorSlot) : KeepsBase s s := ⟨rfl, id, fun _ _ => rfl⟩

theorem withNumbers_base {s : InjectorSlot} (numbers : InputNumbers) (trigger : Trigger) :
    trigger.base (withNumbers s numbers) =
      if s.calibrated then trigger.base s else trigger.number numbers := by
  unfold withNumbers
  cases trigger <;> cases s.calibrated <;> rfl

theorem withNumbers_shown {s : InjectorSlot} (numbers : InputNumbers) (trigger : Trigger) :
    trigger.shown (withNumbers s numbers) =
      triggerOffset (trigger.number numbers) (trigger.base (withNumbers s numbers)) := by
  cases trigger <;> rfl

@[simp] theorem withNumbers_calibrated (s : InjectorSlot) (numbers : InputNumbers) :
    (withNumbers s numbers).calibrated = true := by
  unfold withNumbers
  cases hcalibrated : s.calibrated
  · rfl
  · exact hcalibrated

theorem withNumbers_active (s : InjectorSlot) (numbers : InputNumbers) :
    (withNumbers s numbers).active = s.active :=
  congrArg Grip.active (withNumbers_grip s numbers)

@[simp] theorem setSlot_same (i : Fin maxSlots) (slot : InjectorSlot) (injector : Injector) :
    (injector.setSlot i slot).slots i = slot :=
  Function.update_self ..

theorem setSlot_slots (i j : Fin maxSlots) (slot : InjectorSlot) (injector : Injector) :
    (injector.setSlot i slot).slots j = if j = i then slot else injector.slots j :=
  Function.update_apply ..

@[simp] theorem applySlotState_slots (i : Fin maxSlots) (injector : Injector) :
    (injector.applySlotState i).slots = injector.slots := by
  unfold applySlotState
  dsimp only
  split
  · rfl
  · split <;> rfl

section

variable (host : SdlHost) (injector : Injector)

theorem ensureSdlReady_slots : (injector.ensureSdlReady host).2.slots = injector.slots := by
  unfold ensureSdlReady
  split
  · rfl
  · dsimp only
    split_ifs <;> rfl

theorem sdlAttachVirtual_slots : (injector.sdlAttachVirtual host).2.slots = injector.slots := by
  unfold sdlAttachVirtual
  split
  · rfl
  · split_ifs
    · rfl
    · split <;> rfl

theorem sdlDetachVirtual_slots (instanceId : Int) :
    (injector.sdlDetachVirtual instanceId).slots = injector.slots := by
  unfold sdlDetachVirtual
  split <;> rfl

/-- Connecting starts a slot that was not in use without a base. -/
theorem attachSlot_slot (j i : Fin maxSlots) :
    (injector.attachSlot host j).slots i = injector.slots i ∨
      (injector.slots i).active = false ∧ ((injector.attachSlot host j).slots i).active = true ∧
        ((injector.attachSlot host j).slots i).calibrated = false := by
  unfold attachSlot
  cases hactive : (injector.slots j).active with
  | true => exact Or.inl rfl
  | false =>
      have hslots := injector.sdlAttachVirtual_slots host
      simp only [Bool.false_eq_true, reduceIte]
      split
      · split
        · rw [sdlDetachVirtual_slots, hslots]
          exact Or.inl rfl
        · rw [applySlotState_slots, setSlot_slots]
          by_cases hij : i = j
          · subst hij
            rw [if_pos rfl]
            exact Or.inr ⟨hactive, rfl, rfl⟩
          · rw [if_neg hij, hslots]
            exact Or.inl rfl
      · rw [hslots]
        exact Or.inl rfl

theorem ensured_slot (j i : Fin maxSlots) :
    (injector.onConnected host j).slots i = injector.slots i ∨
      (injector.slots i).active = false ∧ ((injector.onConnected host j).slots i).active = true ∧
        ((injector.onConnected host j).slots i).calibrated = false := by
  have hready := injector.ensureSdlReady_slots host
  rw [onConnected, Bridge.bridgeSlot?_val]
  dsimp only
  split
  · rcases (injector.ensureSdlReady host).2.attachSlot_slot host j i with hsame | hconnected
    · rw [hsame, hready]
      exact Or.inl rfl
    · rw [hready] at hconnected
      exact Or.inr hconnected
  · rw [hready]
    exact Or.inl rfl

variable {injector}

theorem keepsBase_of_connected (hsound : injector.Sound) {i : Fin maxSlots} {after : InjectorSlot}
    (hconnected : after = injector.slots i ∨
      (injector.slots i).active = false ∧ after.active = true ∧ after.calibrated = false) :
    KeepsBase (injector.slots i) after := by
  rcases hconnected with rfl | ⟨hidle, hactive, hfresh⟩
  · exact .refl _
  · have hbase : (injector.slots i).calibrated = false := by
      by_contra hcalibrated
      rw [Bool.not_eq_false] at hcalibrated
      exact Bool.false_ne_true (hidle.symm.trans (hsound.based i hcalibrated))
    refine ⟨hfresh.trans hbase.symm, fun _ => hactive, fun hcalibrated => ?_⟩
    exact absurd (hbase.symm.trans hcalibrated) Bool.false_ne_true

theorem onConnected_keepsBase (hsound : injector.Sound) (slot : Int) (i : Fin maxSlots) :
    KeepsBase (injector.slots i) ((injector.onConnected host slot).slots i) := by
  cases hslot : bridgeSlot? slot with
  | none =>
      rw [onConnected, hslot]
      exact .refl _
  | some j =>
      rw [onConnected_slot host hslot]
      exact keepsBase_of_connected hsound (ensured_slot host injector j i)

theorem applyInput_slot (j i : Fin maxSlots) (numbers : InputNumbers) :
    (injector.applyInput j numbers).slots i =
      if i = j ∧ (injector.slots i).active = true then withNumbers (injector.slots i) numbers
      else injector.slots i := by
  unfold applyInput
  by_cases hij : i = j
  · subst hij
    cases hactive : (injector.slots i).active with
    | true => simp
    | false => simp
  · split <;> simp [setSlot_slots, hij]

/-- The input of a slot without a base becomes its base. -/
theorem onInput_slot (hsound : injector.Sound) (line : List Char) (i : Fin maxSlots) :
    KeepsBase (injector.slots i) ((injector.onInput host line).slots i) ∨
      (injector.slots i).calibrated = false ∧
        ((injector.onInput host line).slots i).active = true ∧
        ((injector.onInput host line).slots i).calibrated = true ∧
        ∀ trigger : Trigger, trigger.base ((injector.onInput host line).slots i) =
          (jsonGetInt line trigger.key).getD 0 := by
  rcases onInput_cases host injector line with hsame | ⟨j, buttons, hinput⟩
  · rw [hsame]
    exact Or.inl (.refl _)
  have hready := injector.ensureSdlReady_slots host
  rw [hinput]
  split
  next hensured =>
    have hconnected := (injector.ensureSdlReady host).2.attachSlot_slot host j i
    rw [hready] at hconnected
    generalize (injector.ensureSdlReady host).2.attachSlot host j = connected at hconnected ⊢
    have hkeeps := keepsBase_of_connected hsound hconnected
    have hnumber (trigger : Trigger) : trigger.number (inputNumbers buttons line) =
        (jsonGetInt line trigger.key).getD 0 := by cases trigger <;> rfl
    rw [applyInput_slot]
    split
    next happlied =>
      obtain ⟨rfl, hactive⟩ := happlied
      cases hcalibrated : (connected.slots i).calibrated with
      | true =>
          refine Or.inl
            ⟨?_, fun _ => (withNumbers_active ..).trans hactive, fun hbase trigger => ?_⟩
          · rw [withNumbers_calibrated, ← hkeeps.calibrated, hcalibrated]
          · rw [withNumbers_base, hcalibrated, if_pos rfl, hkeeps.base hbase]
      | false =>
          refine Or.inr ⟨hkeeps.calibrated.symm.trans hcalibrated,
            (withNumbers_active ..).trans hactive, withNumbers_calibrated .., fun trigger => ?_⟩
          rw [withNumbers_base, hcalibrated, if_neg Bool.false_ne_true, hnumber]
    next => exact Or.inl hkeeps
  next =>
    rw [hready]
    exact Or.inl (.refl _)

theorem onDisconnected_slot {slot : Int} {j : Fin maxSlots} (hslot : bridgeSlot? slot = some j)
    (i : Fin maxSlots) : (injector.onDisconnected slot).slots i =
      if i = j ∧ (injector.slots j).active = true then {} else injector.slots i := by
  have hslots (calls : List SdlCall) : ((sdlDetachVirtual (injector.slots j).instanceId
      { injector with calls := calls }).setSlot j {}).slots i =
        if i = j then {} else injector.slots i := by
    rw [setSlot_slots, sdlDetachVirtual_slots]
  rw [onDisconnected, hslot]
  dsimp only
  cases (injector.slots j).active with
  | true =>
      simp only [and_true, reduceIte]
      split
      · split <;> exact hslots _
      · exact hslots _
  | false => simp

/-- The slot is cleared by its disconnect, it gets its base from an input, or it keeps it. -/
theorem slot_step (hsound : injector.Sound) (event : Event) (i : Fin maxSlots) :
    SaysDisconnected event.line i ∧ (injector.step event).slots i = {} ∨
      (SaysDisconnected event.line i → (injector.slots i).active = false) ∧
        KeepsBase (injector.slots i) ((injector.step event).slots i) ∨
      ¬SaysDisconnected event.line i ∧ (injector.slots i).calibrated = false ∧
        ((injector.step event).slots i).active = true ∧
        ((injector.step event).slots i).calibrated = true ∧
        ∀ trigger : Trigger, trigger.base ((injector.step event).slots i) =
          (jsonGetInt event.line trigger.key).getD 0 := by
  rcases injector.step_cases event with ⟨slot, j, hslot, hline, hstep⟩ | ⟨hnone, hother⟩
  · rw [hstep, onDisconnected_slot hslot]
    by_cases hcleared : i = j ∧ (injector.slots j).active = true
    · rw [if_pos hcleared, hcleared.1]
      exact Or.inl ⟨hline, rfl⟩
    · rw [if_neg hcleared]
      refine Or.inr (Or.inl ⟨fun hi => ?_, .refl _⟩)
      cases hline.2.2.symm.trans hi.2.2
      exact Bool.eq_false_of_not_eq_true fun hactive => hcleared ⟨rfl, hactive⟩
  · have hi : SaysDisconnected event.line i → (injector.slots i).active = false :=
      fun hline => absurd hline (hnone i)
    rcases hother with hstep | ⟨slot, hstep⟩ | hstep
    · rw [hstep]
      exact Or.inr (Or.inl ⟨hi, .refl _⟩)
    · rw [hstep]
      exact Or.inr (Or.inl ⟨hi, onConnected_keepsBase event.host hsound slot i⟩)
    · rw [hstep]
      rcases onInput_slot event.host hsound event.line i with hkeeps | hbased
      · exact Or.inr (Or.inl ⟨hi, hkeeps⟩)
      · exact Or.inr (Or.inr ⟨hnone i, hbased⟩)

end

/-! ## Invariant -/

theorem start_sound (settings : InjectorSettings) (others : Nat) :
    (start settings others).Sound where
  desk := ⟨⟨Nat.succ_pos _, fun _ hjoy => absurd hjoy List.not_mem_nil⟩,
    fun _ hi => absurd hi Bool.false_ne_true⟩
  based := fun _ hi => absurd hi Bool.false_ne_true

theorem Sound.step {injector : Injector} (hsound : injector.Sound) (event : Event) :
    (injector.step event).Sound where
  desk := by
    rcases step_desk hsound.desk.fresh event with ⟨j, -, -, hdesk⟩ | ⟨-, j, hconnects⟩
    · exact hdesk ▸ hsound.desk.detach j
    · exact hconnects.sound hsound.desk
  based := by
    intro i hcalibrated
    rcases slot_step hsound event i with ⟨-, hcleared⟩ | ⟨-, hkeeps⟩ | ⟨-, -, hactive, -⟩
    · rw [hcleared] at hcalibrated
      cases hcalibrated
    · exact hkeeps.active (hsound.based i (hkeeps.calibrated ▸ hcalibrated))
    · exact hactive

/-! ## The daemon's inputs -/

/-- The numbers the daemon prints. -/
def eventNumbers (g : GipInput) : InputNumbers :=
  ⟨g.buttons.toNat, g.triggerL.toNat, g.triggerR.toNat, g.stickLx.toInt, g.stickLy.toInt,
    g.stickRx.toInt, g.stickRy.toInt⟩

section

variable (host : SdlHost) (injector : Injector) (i : Fin maxSlots) (g : GipInput)

/-- An input event is handled as one, with the daemon's numbers. -/
theorem step_inputEvent : injector.step ⟨host, inputEvent (UInt8.ofNat i) g⟩ =
    if (injector.ensureSdlReady host).1 then
      ((injector.ensureSdlReady host).2.attachSlot host i).applyInput i (eventNumbers g)
    else (injector.ensureSdlReady host).2 := by
  obtain ⟨htype, hothers⟩ := inputEvent_types i g
  have hint {key : String} (hkey : key ∈ inputKeys) :
      jsonGetInt (inputEvent (UInt8.ofNat i) g) key = (inputFields i g).lookup key :=
    inputEvent_getInt i g hkey
  have hslot : (jsonGetInt (inputEvent (UInt8.ofNat i) g) "slot").bind bridgeSlot? = some i := by
    rw [hint (by decide)]
    exact Bridge.bridgeSlot?_val i
  have hline : injector.step ⟨host, inputEvent (UInt8.ofNat i) g⟩ =
      injector.onInput host (inputEvent (UInt8.ofNat i) g) := by
    rw [step, handleLine, if_neg, if_neg, if_pos]
    · exact htype
    · exact Bool.eq_false_iff.mp (hothers "disconnected" (by decide))
    · exact Bool.eq_false_iff.mp (hothers "connected" (by decide))
  have hnumbers : inputNumbers g.buttons.toNat (inputEvent (UInt8.ofNat i) g) =
      eventNumbers g := by
    simp only [inputNumbers, hint (by decide : "lt" ∈ inputKeys),
      hint (by decide : "rt" ∈ inputKeys), hint (by decide : "lx" ∈ inputKeys),
      hint (by decide : "ly" ∈ inputKeys), hint (by decide : "rx" ∈ inputKeys),
      hint (by decide : "ry" ∈ inputKeys)]
    rfl
  rw [hline, onInput_eq host hslot (hint (by decide : "buttons" ∈ inputKeys)), hnumbers]

variable {host injector i g}

theorem applySlotState_eq (hactive : (injector.slots i).active = true)
    (hid : 0 ≤ (injector.slots i).instanceId) {joy : Nat}
    (hjoy : (injector.slots i).joy = some joy) : injector.applySlotState i = { injector with
      calls := (injector.slotCalls joy (injector.slots i)).reverse ++ injector.calls } := by
  rw [applySlotState, hjoy]
  exact if_pos ⟨hactive, Int.not_lt.mpr hid⟩

/-- What a slot in use shows when its state is applied. -/
theorem applySlotState_triggerValue (hactive : (injector.slots i).active = true)
    (hid : 0 ≤ (injector.slots i).instanceId) (hjoy : (injector.slots i).joy.isSome = true)
    (trigger : Trigger) : (injector.applySlotState i).triggerValue i trigger =
      some (triggerToSdlAxis (trigger.shown (injector.slots i))) := by
  obtain ⟨joy, hjoy⟩ := Option.isSome_iff_exists.mp hjoy
  rw [triggerValue, applySlotState_eq hactive hid hjoy, if_pos hactive, hjoy]
  exact axisValue_slotCalls (axisValue_axes injector.settings joy _ trigger)

/-- What a slot in use has, it has with other numbers too. -/
theorem withNumbers_held (hsound : injector.desk.Sound)
    (hactive : (injector.slots i).active = true) (numbers : InputNumbers) :
    (withNumbers (injector.slots i) numbers).active = true ∧
      0 ≤ (withNumbers (injector.slots i) numbers).instanceId ∧
      (withNumbers (injector.slots i) numbers).joy = (injector.slots i).joy ∧
      (injector.slots i).joy.isSome = true := by
  obtain ⟨-, hid, hjoy⟩ := hsound.held i hactive
  have hgrip := withNumbers_grip (injector.slots i) numbers
  have hsameId : (withNumbers (injector.slots i) numbers).instanceId =
      (injector.slots i).instanceId := congrArg Grip.instanceId hgrip
  refine ⟨(withNumbers_active _ numbers).trans hactive, ?_, congrArg Grip.joy hgrip, hjoy⟩
  rwa [hsameId]

theorem applyInput_triggerValue (hsound : injector.desk.Sound)
    (hactive : (injector.slots i).active = true) (numbers : InputNumbers) (trigger : Trigger) :
    (injector.applyInput i numbers).triggerValue i trigger =
      some (triggerToSdlAxis (triggerOffset (trigger.number numbers)
        (trigger.base (withNumbers (injector.slots i) numbers)))) := by
  obtain ⟨hstill, hid, hsame, hjoy⟩ := withNumbers_held hsound hactive numbers
  rw [applyInput, if_pos hactive, applySlotState_triggerValue, setSlot_same, withNumbers_shown]
  · rwa [setSlot_same]
  · rwa [setSlot_same]
  · rwa [setSlot_same, hsame]

theorem attachSlot_sound (hsound : injector.Sound)
    (hensured : (injector.ensureSdlReady host).1 = true) :
    ((injector.ensureSdlReady host).2.attachSlot host i).desk.Sound := by
  rw [← onConnected_ensured host hensured]
  exact (ensured_connects host hsound.desk.fresh i).sound hsound.desk

/-- An input shows the distance of its trigger from the base the slot has then. -/
theorem inputEvent_value (hsound : injector.Sound) (trigger : Trigger) {v : Int}
    (hvalue : (injector.step ⟨host, inputEvent (UInt8.ofNat i) g⟩).triggerValue i trigger =
      some v) :
    v = triggerToSdlAxis (triggerOffset (trigger.raw g)
      (trigger.base ((injector.step ⟨host, inputEvent (UInt8.ofNat i) g⟩).slots i))) := by
  have hnumber : trigger.number (eventNumbers g) = trigger.raw g := by cases trigger <;> rfl
  have hidle {other : Injector} (hother : ¬(other.slots i).active = true) :
      ¬other.triggerValue i trigger = some v := by
    rw [triggerValue, if_neg hother]
    simp
  rw [step_inputEvent] at hvalue ⊢
  split at hvalue
  next hensured =>
    rw [if_pos hensured]
    have hconnected := attachSlot_sound (i := i) hsound hensured
    generalize (injector.ensureSdlReady host).2.attachSlot host i = connected at *
    cases hactive : (connected.slots i).active with
    | true =>
        rw [applyInput_triggerValue hconnected hactive, hnumber] at hvalue
        rw [applyInput_slot, if_pos ⟨rfl, hactive⟩]
        exact (Option.some.inj hvalue).symm
    | false =>
        rw [applyInput, if_neg (by simp [hactive])] at hvalue
        exact absurd hvalue (hidle (by simp [hactive]))
  next hensured =>
    refine absurd hvalue (hidle fun hactive => hensured ?_)
    rw [ensureSdlReady_slots] at hactive
    obtain ⟨api, hapi⟩ := Option.isSome_iff_exists.mp (hsound.desk.held i hactive).1
    rw [ensureSdlReady_ready host hapi]

end

/-! ## The trigger and its axis -/

theorem triggerToSdlAxis_mono {v w : Int} (hvw : v ≤ w) :
    triggerToSdlAxis v ≤ triggerToSdlAxis w := by
  unfold triggerToSdlAxis
  refine Int.ediv_le_ediv (by decide) ?_
  split_ifs <;> omega

/-- A trigger in the range of `int` whose base is 0. -/
theorem triggerOffset_zero (raw : Nat) : triggerOffset raw 0 = min (raw : Int) 4095 := by
  unfold triggerOffset
  dsimp only
  split_ifs <;> omega

/-- The slot has the base 0 for the trigger. -/
def Zeroed (injector : Injector) (i : Fin maxSlots) (trigger : Trigger) : Prop :=
  (injector.slots i).calibrated = true ∧ trigger.base (injector.slots i) = 0

section

variable {injector : Injector} {i : Fin maxSlots} {trigger : Trigger}

theorem Zeroed.step (hzeroed : injector.Zeroed i trigger) (hsound : injector.Sound)
    (event : Event) (hline : ¬SaysDisconnected event.line i) :
    (injector.step event).Zeroed i trigger := by
  obtain ⟨hcalibrated, hbase⟩ := hzeroed
  rcases slot_step hsound event i with ⟨hcleared, -⟩ | ⟨-, hkeeps⟩ | ⟨-, hfresh, -⟩
  · exact absurd hcleared hline
  · exact ⟨hkeeps.calibrated.trans hcalibrated, (hkeeps.base hcalibrated trigger).trans hbase⟩
  · exact absurd (hfresh.symm.trans hcalibrated) Bool.false_ne_true

theorem Zeroed.run (hzeroed : injector.Zeroed i trigger) (hsound : injector.Sound)
    {events : List Event} (hlines : ∀ event ∈ events, ¬SaysDisconnected event.line i) :
    (run Injector.step injector events).Zeroed i trigger ∧
      (run Injector.step injector events).Sound := by
  induction events generalizing injector with
  | nil => exact ⟨hzeroed, hsound⟩
  | cons event rest ih =>
      exact ih (hzeroed.step hsound event (hlines event List.mem_cons_self)) (hsound.step event)
        fun later hlater => hlines later (List.mem_cons_of_mem _ hlater)

theorem inputEvent_not_disconnected (i : Fin maxSlots) (g : GipInput) :
    ¬SaysDisconnected (inputEvent (UInt8.ofNat i) g) i := by
  intro hline
  have hother := (inputEvent_types i g).2 "disconnected" (by decide)
  exact Bool.false_ne_true (hother.symm.trans hline.2.1)

/-- A slot whose base is 0 shows its trigger as it is. -/
theorem Zeroed.value (hzeroed : injector.Zeroed i trigger) (hsound : injector.Sound)
    {host : SdlHost} {g : GipInput} {v : Int}
    (hvalue : (injector.step ⟨host, inputEvent (UInt8.ofNat i) g⟩).triggerValue i trigger =
      some v) : v = triggerToSdlAxis (min (trigger.raw g : Int) 4095) := by
  have hlater := hzeroed.step hsound ⟨host, inputEvent (UInt8.ofNat i) g⟩
    (inputEvent_not_disconnected i g)
  rw [inputEvent_value hsound trigger hvalue, hlater.2, triggerOffset_zero]

theorem Zeroed.follows (hzeroed : injector.Zeroed i trigger) (hsound : injector.Sound) :
    injector.Follows i trigger := by
  intro host₁ host₂ g₁ g₂ between v₁ v₂ hbetween _ _ hfirst hsecond
  have hstep := hzeroed.step hsound ⟨host₁, inputEvent (UInt8.ofNat i) g₁⟩
    (inputEvent_not_disconnected i g₁)
  obtain ⟨hlater, hsoundLater⟩ := hstep.run (hsound.step _) hbetween
  rw [hzeroed.value hsound hfirst, hlater.value hsoundLater hsecond]
  refine ⟨fun hle => triggerToSdlAxis_mono (by omega), fun hle => triggerToSdlAxis_mono (by omega),
    fun hzero => ?_, fun hzero => ?_⟩
  · rw [hzero]
    decide
  · rw [hzero]
    decide

end

/-! ## The other way round -/

section

variable {injector : Injector} {i : Fin maxSlots} {trigger : Trigger}

/-- Where everything succeeds an input is applied. -/
theorem inputEvent_applied (hsound : injector.Sound) (g : GipInput) (trigger : Trigger) :
    ((injector.step ⟨.working true, inputEvent (UInt8.ofNat i) g⟩).slots i).calibrated = true ∧
      ∃ v, (injector.step ⟨.working true, inputEvent (UInt8.ofNat i) g⟩).triggerValue i trigger =
        some v := by
  have hensured := injector.ensureSdlReady_working true
  have hactive := ensured_active (.working true) hsound.desk.fresh i hensured rfl rfl
  have hconnected := attachSlot_sound (i := i) hsound hensured
  rw [step_inputEvent, if_pos hensured]
  constructor
  · rw [applyInput_slot, if_pos ⟨rfl, hactive⟩, withNumbers_calibrated]
  · exact ⟨_, applyInput_triggerValue hconnected hactive _ trigger⟩

theorem shown_zero {base : Int} (hzero : triggerToSdlAxis (triggerOffset 0 base) = 0) :
    base = 0 := by
  unfold triggerToSdlAxis triggerOffset at hzero
  dsimp only at hzero
  split_ifs at hzero <;> omega

theorem Follows.zeroed (hfollows : injector.Follows i trigger) (hsound : injector.Sound) :
    injector.Zeroed i trigger := by
  have hraw (value : UInt16) : trigger.raw (trigger.pulled value) = value.toNat := by
    cases trigger <;> rfl
  have hnot (value : UInt16) := inputEvent_not_disconnected i (trigger.pulled value)
  -- the base after a first input with this value of the trigger, and a release after it
  have hreleased (value : UInt16) (hsmall : value.toNat ≤ 1023) :
      ((injector.step ⟨.working true, inputEvent (UInt8.ofNat i) (trigger.pulled value)⟩).slots
        i).calibrated = true ∧ trigger.base
      ((injector.step ⟨.working true, inputEvent (UInt8.ofNat i) (trigger.pulled value)⟩).slots i) =
        0 := by
    have hlater := hsound.step ⟨.working true, inputEvent (UInt8.ofNat i) (trigger.pulled value)⟩
    obtain ⟨hcalibrated, v₁, hfirst⟩ :=
      inputEvent_applied (i := i) hsound (trigger.pulled value) trigger
    obtain ⟨-, v₂, hsecond⟩ := inputEvent_applied (i := i) hlater (trigger.pulled 0) trigger
    obtain ⟨-, -, -, hzero⟩ := hfollows (.working true) (.working true) (trigger.pulled value)
      (trigger.pulled 0) [] v₁ v₂ (fun _ hmem => absurd hmem List.not_mem_nil)
      (by rw [hraw]; exact hsmall) (by rw [hraw]; decide) hfirst hsecond
    have hvalue := inputEvent_value hlater trigger hsecond
    rw [hzero (hraw 0), hraw] at hvalue
    refine ⟨hcalibrated, ?_⟩
    rcases slot_step hlater ⟨.working true, inputEvent (UInt8.ofNat i) (trigger.pulled 0)⟩ i with
      ⟨hline, -⟩ | ⟨-, hkeeps⟩ | ⟨-, hfresh, -⟩
    · exact absurd hline (hnot 0)
    · rw [← hkeeps.base hcalibrated]
      exact shown_zero hvalue.symm
    · exact absurd (hfresh.symm.trans hcalibrated) Bool.false_ne_true
  obtain ⟨hcalibrated, hbase⟩ := hreleased 1 (by decide)
  rcases slot_step hsound ⟨.working true, inputEvent (UInt8.ofNat i) (trigger.pulled 1)⟩ i with
    ⟨hline, -⟩ | ⟨-, hkeeps⟩ | ⟨-, -, -, -, hnumber⟩
  · exact absurd hline (hnot 1)
  · rw [hkeeps.calibrated] at hcalibrated
    exact ⟨hcalibrated, (hkeeps.base hcalibrated trigger).symm.trans hbase⟩
  · -- the first input of the slot has pulled the trigger
    have hkey : trigger.key ∈ inputKeys := by cases trigger <;> decide
    have hint : jsonGetInt (inputEvent (UInt8.ofNat i) (trigger.pulled 1)) trigger.key =
        some 1 := by
      refine (inputEvent_getInt i (trigger.pulled 1) hkey).trans ?_
      cases trigger <;> rfl
    rw [hnumber trigger, hint] at hbase
    cases hbase

/-- The base is the value of the first input. -/
theorem firstReleased_iff {start : Injector} (hsound : start.Sound)
    (hfresh : (start.slots i).calibrated = false) (history : List Event) :
    FirstReleased start history i trigger ↔ (run step start history).Zeroed i trigger := by
  have hreached (events : List Event) : (run step start events).Sound :=
    Machine.run_invariant Sound (fun _ event hsound => hsound.step event) hsound events
  constructor
  · rintro ⟨before, event, after, rfl, hnone, hsome, hnumber, hafter⟩
    rw [Machine.run_concat] at hsome
    rw [Machine.run_append, Machine.run_cons]
    refine (Zeroed.run ⟨hsome, ?_⟩ ((hreached before).step event) hafter).1
    rcases slot_step (hreached before) event i with ⟨-, hcleared⟩ | ⟨-, hkeeps⟩ |
      ⟨-, -, -, -, hbase⟩
    · rw [hcleared] at hsome
      cases hsome
    · rw [hkeeps.calibrated, hnone] at hsome
      cases hsome
    · exact (hbase trigger).trans hnumber
  · intro hzeroed
    induction history using List.reverseRecOn with
    | nil => exact absurd (hfresh.symm.trans hzeroed.1) Bool.false_ne_true
    | append_singleton history last ih =>
        obtain ⟨hcalibrated, hbase⟩ := hzeroed
        rw [Machine.run_concat] at hcalibrated hbase
        rcases slot_step (hreached history) last i with ⟨-, hcleared⟩ | ⟨hline, hkeeps⟩ |
          ⟨-, hnone, -, -, hnumber⟩
        · rw [hcleared] at hcalibrated
          cases hcalibrated
        · rw [hkeeps.calibrated] at hcalibrated
          rw [hkeeps.base hcalibrated] at hbase
          obtain ⟨before, event, after, rfl, hnone, hsome, hfirst, hafter⟩ :=
            ih ⟨hcalibrated, hbase⟩
          refine ⟨before, event, after ++ [last], by simp, hnone, hsome, hfirst, ?_⟩
          intro later hlater
          rcases List.mem_append.mp hlater with hmem | hmem
          · exact hafter later hmem
          · rw [List.mem_singleton.mp hmem]
            have hactive := (hreached _).based i hcalibrated
            exact fun hi => Bool.false_ne_true ((hline hi).symm.trans hactive)
        · refine ⟨history, last, [], rfl, hnone, ?_, ?_, fun _ hmem => ?_⟩
          · rw [Machine.run_concat]
            exact hcalibrated
          · rw [← hnumber trigger]
            exact hbase
          · exact absurd hmem List.not_mem_nil

end

/-- After a history the axis of a trigger follows the trigger, and a released trigger is shown as
0, if and only if the first input since the slot was connected had the trigger released. -/
theorem follows_iff_firstReleased (settings : InjectorSettings) (others : Nat)
    (history : List Event) (i : Fin maxSlots) (trigger : Trigger) :
    (run step (start settings others) history).Follows i trigger ↔
      FirstReleased (start settings others) history i trigger := by
  have hsound := Machine.run_invariant Sound (fun _ event hsound => hsound.step event)
    (start_sound settings others) history
  rw [firstReleased_iff (start_sound settings others) rfl]
  exact ⟨fun hfollows => hfollows.zeroed hsound, fun hzeroed => hzeroed.follows hsound⟩

/-- A controller whose left trigger is held at 5 when its first input arrives. -/
def heldTrigger : List Event :=
  [⟨.working true, connectedEvent 0⟩, ⟨.working true, inputEvent 0 { triggerL := 5 }⟩]

/-- It is released, and released it stays: the axis is at 40. -/
theorem released_trigger_is_shown :
    ¬(run step (start {} 0) heldTrigger).Follows 0 .left := by
  intro hfollows
  have hfirst : ((run step (start {} 0) heldTrigger).step
      ⟨.working true, inputEvent (UInt8.ofNat (0 : Fin maxSlots)) {}⟩).triggerValue 0 .left =
        some 40 := by decide +kernel
  have hsecond : (((run step (start {} 0) heldTrigger).step
      ⟨.working true, inputEvent (UInt8.ofNat (0 : Fin maxSlots)) {}⟩).step
      ⟨.working true, inputEvent (UInt8.ofNat (0 : Fin maxSlots)) {}⟩).triggerValue 0 .left =
        some 40 := by decide +kernel
  obtain ⟨-, -, hzero, -⟩ := hfollows (.working true) (.working true) {} {} [] 40 40
    (fun _ hmem => absurd hmem List.not_mem_nil) (by decide) (by decide) hfirst hsecond
  exact absurd (hzero rfl) (by decide)

end Injector

end XoneDarwin
