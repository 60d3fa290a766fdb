import XoneDarwin.Injector.Inject

/-!
# Joysticks of the slots in use

A slot remembers its joystick by the id that attaching returned. What one line does
to the joysticks comes down to connecting a slot or disconnecting it.
-/

namespace XoneDarwin

/-! ## Device lists -/

namespace Joysticks

variable {sdl : Joysticks}

/-- Instance ids count upwards from 1. -/
structure Fresh (sdl : Joysticks) : Prop where
  positive : 0 < sdl.nextInstance
  below : ∀ joy ∈ sdl.virtuals, joy < sdl.nextInstance

/-- The joystick that was just attached is found under its id, and detaching it again leaves
nothing behind. -/
theorem Fresh.attachVirtual (hfresh : sdl.Fresh) (api : SdlApi) :
    (sdl.attachVirtual api).2.joystick? api (sdl.attachVirtual api).1 = some sdl.nextInstance ∧
      (sdl.attachVirtual api).2.detachVirtual api (sdl.attachVirtual api).1 =
        { sdl with nextInstance := sdl.nextInstance + 1 } := by
  have hnew : sdl.nextInstance ∉ sdl.virtuals :=
    fun hmem => Nat.lt_irrefl _ (hfresh.below _ hmem)
  have hfound : (sdl.attachVirtual api).2.joystick? api (sdl.attachVirtual api).1 =
      some sdl.nextInstance := by
    cases api with
    | sdl2 => simp [Joysticks.attachVirtual, joystick?]
    | sdl3 =>
        have hnone : sdl.virtuals.find? (fun joy : Nat => joy = sdl.nextInstance) = none := by
          refine List.find?_eq_none.mpr fun joy hjoy heq => hnew ?_
          rwa [of_decide_eq_true heq] at hjoy
        simp [Joysticks.attachVirtual, joystick?, List.find?_append, hnone]
  refine ⟨hfound, ?_⟩
  rw [detachVirtual, hfound]
  cases api <;> simp [Joysticks.attachVirtual, List.erase_append_right _ hnew]

theorem Fresh.attached (hfresh : sdl.Fresh) (api : SdlApi) :
    (sdl.attachVirtual api).2.Fresh := by
  have hafter : (sdl.attachVirtual api).2 = { sdl with
      virtuals := sdl.virtuals ++ [sdl.nextInstance], nextInstance := sdl.nextInstance + 1 } := by
    cases api <;> rfl
  rw [hafter]
  refine ⟨Nat.succ_pos _, fun joy hjoy => Nat.lt_succ_of_le ?_⟩
  rcases List.mem_append.mp hjoy with hold | hnow
  · exact Nat.le_of_lt (hfresh.below joy hold)
  · exact Nat.le_of_eq (List.mem_singleton.mp hnow)

theorem Fresh.detached (hfresh : sdl.Fresh) (api : SdlApi) (id : Int) :
    (sdl.detachVirtual api id).Fresh := by
  unfold detachVirtual
  split
  · exact ⟨hfresh.positive, fun joy hjoy => hfresh.below joy (List.mem_of_mem_erase hjoy)⟩
  · exact hfresh

end Joysticks

/-! ## What a slot holds -/

/-- The fields of a slot that name its joystick. -/
structure Grip where
  active : Bool := false
  instanceId : Int := -1
  joy : Option Nat := none

def InjectorSlot.grip (s : InjectorSlot) : Grip := ⟨s.active, s.instanceId, s.joy⟩

/-- What the injector's joysticks depend on. -/
structure Desk where
  api : Option SdlApi
  grips : Fin maxSlots → Grip
  sdl : Joysticks

/-- The line is a disconnected event of the slot. -/
def SaysDisconnected (line : List Char) (i : Fin maxSlots) : Prop :=
  Injector.jsonHasType line "connected" = false ∧
    Injector.jsonHasType line "disconnected" = true ∧
    (Injector.jsonGetInt line "slot").bind bridgeSlot? = some i

namespace Desk

/-- What a connected event does. -/
inductive Connects (i : Fin maxSlots) (before : Desk) : Desk → Prop
  /-- Nothing is attached, though the API may have become ready. -/
  | kept {api : Option SdlApi} (hready : before.api.isSome = true → api = before.api) :
      Connects i before { before with api := api }
  /-- A joystick is attached that cannot be opened. -/
  | lapsed {api : SdlApi} (hready : before.api.isSome = true → some api = before.api) :
      Connects i before { before with
        api := some api
        sdl := { before.sdl with nextInstance := before.sdl.nextInstance + 1 } }
  | attached {api : SdlApi} (hready : before.api.isSome = true → some api = before.api)
      (hfree : (before.grips i).active = false) :
      Connects i before ⟨some api,
        Function.update before.grips i
          ⟨true, (before.sdl.attachVirtual api).1, some before.sdl.nextInstance⟩,
        (before.sdl.attachVirtual api).2⟩

/-- Making the API ready is part of connecting. -/
theorem Connects.of_ready {i : Fin maxSlots} {before after : Desk} {api : Option SdlApi}
    (hready : before.api.isSome = true → api = before.api) (hapi : api.isSome = true)
    (hconnects : { before with api := api }.Connects i after) : before.Connects i after := by
  cases hconnects with
  | kept hlater => exact .kept fun hsome => (hlater hapi).trans (hready hsome)
  | lapsed hlater => exact .lapsed fun hsome => (hlater hapi).trans (hready hsome)
  | attached hlater hfree => exact .attached (fun hsome => (hlater hapi).trans (hready hsome)) hfree

theorem Connects.active {i j : Fin maxSlots} {before after : Desk}
    (hconnects : before.Connects i after) (hj : (before.grips j).active = true) :
    (after.grips j).active = true := by
  cases hconnects with
  | kept => exact hj
  | lapsed => exact hj
  | attached =>
      dsimp only
      by_cases hji : j = i
      · rw [hji, Function.update_self]
      · rw [Function.update_of_ne hji]
        exact hj

theorem Connects.other {i j : Fin maxSlots} {before after : Desk}
    (hconnects : before.Connects i after) (hj : j ≠ i) : after.grips j = before.grips j := by
  cases hconnects with
  | kept => rfl
  | lapsed => rfl
  | attached => exact Function.update_of_ne hj ..

/-- What a disconnected event does to a slot in use. -/
def detach (i : Fin maxSlots) (desk : Desk) : Desk where
  api := desk.api
  grips := Function.update desk.grips i {}
  sdl :=
    match desk.api with
    | none => desk.sdl
    | some api => desk.sdl.detachVirtual api (desk.grips i).instanceId

@[simp] theorem detach_grips_self (i : Fin maxSlots) (desk : Desk) :
    (desk.detach i).grips i = {} :=
  Function.update_self ..

theorem detach_grips_of_ne {i j : Fin maxSlots} (hj : j ≠ i) (desk : Desk) :
    (desk.detach i).grips j = desk.grips j :=
  Function.update_of_ne hj ..

theorem ne_of_detach {i j : Fin maxSlots} {desk : Desk}
    (hj : ((desk.detach i).grips j).active = true) : j ≠ i := by
  rintro rfl
  rw [detach_grips_self] at hj
  cases hj

/-- Every slot in use has a joystick whose axes can be set. -/
structure Sound (desk : Desk) : Prop where
  fresh : desk.sdl.Fresh
  held : ∀ i, (desk.grips i).active = true → desk.api.isSome = true ∧
    0 ≤ (desk.grips i).instanceId ∧ (desk.grips i).joy.isSome = true

theorem Sound.detach {desk : Desk} (hsound : desk.Sound) (i : Fin maxSlots) :
    (desk.detach i).Sound where
  fresh := by
    unfold Desk.detach
    dsimp only
    split
    · exact hsound.fresh
    · exact hsound.fresh.detached _ _
  held := by
    intro j hj
    have hji := ne_of_detach hj
    rw [detach_grips_of_ne hji] at hj ⊢
    exact hsound.held j hj

theorem Connects.sound {i : Fin maxSlots} {before after : Desk} (hsound : before.Sound)
    (hconnects : before.Connects i after) : after.Sound := by
  cases hconnects with
  | kept hready =>
      refine ⟨hsound.fresh, fun j hj => ?_⟩
      obtain ⟨hapi, hgrip⟩ := hsound.held j hj
      exact ⟨(hready hapi).symm ▸ hapi, hgrip⟩
  | lapsed =>
      refine ⟨⟨Nat.succ_pos _, fun joy hjoy => ?_⟩, fun j hj => ⟨rfl, (hsound.held j hj).2⟩⟩
      exact Nat.lt_succ_of_lt (hsound.fresh.below joy hjoy)
  | @attached api =>
      refine ⟨hsound.fresh.attached api, fun j hj => ⟨rfl, ?_⟩⟩
      dsimp only at hj ⊢
      by_cases hji : j = i
      · rw [hji, Function.update_self]
        refine ⟨?_, rfl⟩
        cases api <;> exact Int.natCast_nonneg _
      · rw [Function.update_of_ne hji] at hj ⊢
        exact (hsound.held j hj).2

end Desk

namespace Injector

def desk (injector : Injector) : Desk :=
  ⟨injector.api, fun i => (injector.slots i).grip, injector.sdl⟩

@[simp] theorem desk_setSlot (i : Fin maxSlots) (slot : InjectorSlot) (injector : Injector) :
    (injector.setSlot i slot).desk =
      { injector.desk with grips := Function.update injector.desk.grips i slot.grip } := by
  have hgrips : (injector.setSlot i slot).desk.grips =
      Function.update injector.desk.grips i slot.grip := by
    funext j
    simp only [desk, setSlot, Function.update_apply]
    split <;> rfl
  exact congrArg (Desk.mk injector.api · injector.sdl) hgrips

@[simp] theorem desk_applySlotState (i : Fin maxSlots) (injector : Injector) :
    (injector.applySlotState i).desk = injector.desk := by
  unfold applySlotState
  dsimp only
  split
  · rfl
  · split <;> rfl

theorem desk_sdlDetachVirtual (instanceId : Int) (injector : Injector) :
    (injector.sdlDetachVirtual instanceId).desk = { injector.desk with
      sdl :=
        match injector.api with
        | none => injector.sdl
        | some api => injector.sdl.detachVirtual api instanceId } := by
  unfold sdlDetachVirtual
  cases hapi : injector.api <;> simp only [desk, hapi]

/-- The numbers of an input change no grip. -/
theorem withNumbers_grip (s : InjectorSlot) (numbers : InputNumbers) :
    (withNumbers s numbers).grip = s.grip := by
  unfold withNumbers
  cases s.calibrated <;> rfl

theorem desk_applyInput (i : Fin maxSlots) (numbers : InputNumbers) (injector : Injector) :
    (injector.applyInput i numbers).desk = injector.desk := by
  unfold applyInput
  split
  · have hgrip : (injector.slots i).grip = injector.desk.grips i := rfl
    rw [desk_applySlotState, desk_setSlot, withNumbers_grip, hgrip, Function.update_eq_self]
  · rfl

section

variable (host : SdlHost)

theorem ensureSdlReady_ready {injector : Injector} {api : SdlApi} (hapi : injector.api = some api) :
    injector.ensureSdlReady host = (true, injector) := by
  rw [ensureSdlReady, hapi]

/-- Only the API changes, and only once; it is there if the lookup says so. -/
theorem ensureSdlReady_desk (injector : Injector) :
    ∃ api, (injector.ensureSdlReady host).2.desk = { injector.desk with api := api } ∧
      (injector.api.isSome = true → api = injector.api) ∧
      ((injector.ensureSdlReady host).1 = true → api.isSome = true) := by
  cases hapi : injector.api with
  | some api =>
      rw [ensureSdlReady_ready host hapi]
      exact ⟨some api, congrArg (Desk.mk · _ _) hapi, fun _ => rfl, fun _ => rfl⟩
  | none =>
      unfold ensureSdlReady
      rw [hapi]
      dsimp only
      split_ifs
      · exact ⟨some .sdl2, rfl, fun hsome => absurd hsome (by decide), fun _ => rfl⟩
      · exact ⟨some .sdl3, rfl, fun hsome => absurd hsome (by decide), fun _ => rfl⟩
      · exact ⟨none, by rw [desk, desk, hapi], fun _ => rfl, fun hfound => absurd hfound (by simp)⟩

variable {injector : Injector}

/-- A joystick that can be attached stays if it can be opened, too. -/
theorem attachSlot_eq (hfresh : injector.sdl.Fresh) {api : SdlApi}
    (hapi : injector.api = some api) {i : Fin maxSlots} (hfree : (injector.slots i).active = false)
    (hattach : host.attach = true) : injector.attachSlot host i =
      if host.opens then
        applySlotState i (setSlot i
          { active := true
            instanceId := (injector.sdl.attachVirtual api).1
            joy := some injector.sdl.nextInstance }
          { injector with sdl := (injector.sdl.attachVirtual api).2 })
      else { injector with sdl :=
        { injector.sdl with nextInstance := injector.sdl.nextInstance + 1 } } := by
  have hcall : injector.sdlAttachVirtual host =
      ((injector.sdl.attachVirtual api).1,
        { injector with sdl := (injector.sdl.attachVirtual api).2 }) := by
    simp only [sdlAttachVirtual, hapi, hattach, reduceIte]
  have hok : attachOk (some api) (injector.sdl.attachVirtual api).1 = true := by
    have hpositive := hfresh.positive
    cases api with
    | sdl2 => simp [attachOk, Joysticks.attachVirtual]; omega
    | sdl3 => simpa [attachOk, Joysticks.attachVirtual] using hpositive
  obtain ⟨hfound, hdetached⟩ := hfresh.attachVirtual api
  rw [attachSlot, hfree, if_neg Bool.false_ne_true, hcall]
  cases hopens : host.opens with
  | false => simp [hapi, hok, sdlOpenJoystick, hopens, sdlDetachVirtual, hdetached]
  | true => simp [hapi, hok, sdlOpenJoystick, hopens, hfound]

/-- A ready injector connects a slot: the three outcomes. -/
theorem attachSlot_connects (hfresh : injector.sdl.Fresh) {api : SdlApi}
    (hapi : injector.api = some api) (i : Fin maxSlots) :
    injector.desk.Connects i (injector.attachSlot host i).desk := by
  have hkept : injector.desk.Connects i injector.desk := .kept fun _ => rfl
  have hready : injector.desk.api.isSome = true → some api = injector.desk.api :=
    fun _ => hapi.symm
  cases hactive : (injector.slots i).active with
  | true =>
      rw [attachSlot, if_pos hactive]
      exact hkept
  | false =>
      cases hattach : host.attach with
      | false =>
          have hsame : (injector.sdlAttachVirtual host).2 = injector := by
            unfold sdlAttachVirtual
            cases api <;> simp only [hapi, hattach, Bool.false_eq_true, reduceIte]
          have hfailed : attachOk (injector.sdlAttachVirtual host).2.api
              (injector.sdlAttachVirtual host).1 = false := by
            unfold sdlAttachVirtual
            cases api <;> simp [hapi, hattach, attachOk]
          have hnothing : injector.attachSlot host i = injector := by
            rw [attachSlot, hactive, if_neg Bool.false_ne_true]
            dsimp only
            rw [hfailed, if_neg Bool.false_ne_true, hsame]
          rw [hnothing]
          exact hkept
      | true =>
          rw [attachSlot_eq host hfresh hapi hactive hattach]
          split
          · have hattached := Desk.Connects.attached (i := i) hready hactive
            rw [desk_applySlotState, desk_setSlot]
            simpa [desk, hapi, InjectorSlot.grip] using hattached
          · have hlapsed := Desk.Connects.lapsed (i := i) hready
            simpa [desk, hapi] using hlapsed

theorem ensureSdlReady_working (injector : Injector) (sdl2 : Bool) :
    (injector.ensureSdlReady (.working sdl2)).1 = true := by
  unfold ensureSdlReady
  cases injector.api <;> cases sdl2 <;> rfl

theorem onConnected_ensured (hensured : (injector.ensureSdlReady host).1 = true)
    (i : Fin maxSlots) :
    injector.onConnected host i = (injector.ensureSdlReady host).2.attachSlot host i := by
  rw [onConnected, Bridge.bridgeSlot?_val]
  exact if_pos hensured

/-- `on_connected` of a slot that exists. -/
theorem ensured_connects (hfresh : injector.sdl.Fresh) (i : Fin maxSlots) :
    injector.desk.Connects i (injector.onConnected host i).desk := by
  obtain ⟨api, hdesk, hready, hfound⟩ := ensureSdlReady_desk host injector
  rw [onConnected, Bridge.bridgeSlot?_val]
  dsimp only
  split
  next hensured =>
    have hsdl : (injector.ensureSdlReady host).2.sdl = injector.sdl := congrArg Desk.sdl hdesk
    have hapi : (injector.ensureSdlReady host).2.api = api := congrArg Desk.api hdesk
    obtain ⟨ready, rfl⟩ := Option.isSome_iff_exists.mp (hfound hensured)
    have hconnects := attachSlot_connects host (hsdl ▸ hfresh) hapi i
    rw [hdesk] at hconnects
    exact hconnects.of_ready hready rfl
  next =>
    rw [hdesk]
    exact .kept hready

/-- Where everything succeeds the slot is in use afterwards. -/
theorem ensured_active (hfresh : injector.sdl.Fresh) (i : Fin maxSlots)
    (hfound : (injector.ensureSdlReady host).1 = true) (hattach : host.attach = true)
    (hopens : host.opens = true) :
    (((injector.ensureSdlReady host).2.attachSlot host i).slots i).active = true := by
  obtain ⟨_, hdesk, -, hready⟩ := ensureSdlReady_desk host injector
  have hsdl : (injector.ensureSdlReady host).2.sdl = injector.sdl := congrArg Desk.sdl hdesk
  obtain ⟨api, hsome⟩ := Option.isSome_iff_exists.mp (hready hfound)
  have hapi : (injector.ensureSdlReady host).2.api = some api :=
    (congrArg Desk.api hdesk).trans hsome
  cases hactive : ((injector.ensureSdlReady host).2.slots i).active with
  | true => rw [attachSlot, if_pos hactive, hactive]
  | false =>
      rw [attachSlot_eq host (hsdl ▸ hfresh) hapi hactive hattach, if_pos hopens]
      have hgrip (injector : Injector) : (injector.slots i).active =
          (injector.desk.grips i).active := rfl
      rw [hgrip, desk_applySlotState, desk_setSlot]
      dsimp only
      rw [Function.update_self]
      rfl

theorem onConnected_slot {slot : Int} {i : Fin maxSlots} (hslot : bridgeSlot? slot = some i) :
    injector.onConnected host slot = injector.onConnected host i := by
  rw [onConnected, onConnected, hslot, Bridge.bridgeSlot?_val]

/-- Any `int` is connected as the slot it names, or not at all. -/
theorem onConnected_connects (hfresh : injector.sdl.Fresh) (slot : Int) :
    ∃ i, injector.desk.Connects i (injector.onConnected host slot).desk := by
  cases hslot : bridgeSlot? slot with
  | none =>
      rw [onConnected, hslot]
      exact ⟨0, .kept fun _ => rfl⟩
  | some i =>
      rw [onConnected_slot host hslot]
      exact ⟨i, ensured_connects host hfresh i⟩

/-- An input for a slot: `on_connected` leaves a slot in use alone. -/
theorem onInput_eq {line : List Char} {i : Fin maxSlots} {buttons : Int}
    (hslot : (jsonGetInt line "slot").bind bridgeSlot? = some i)
    (hbuttons : jsonGetInt line "buttons" = some buttons) :
    injector.onInput host line =
      if (injector.ensureSdlReady host).1 then
        ((injector.ensureSdlReady host).2.attachSlot host i).applyInput i
          (inputNumbers buttons line)
      else (injector.ensureSdlReady host).2 := by
  rw [onInput, hslot, hbuttons]
  dsimp only
  split
  next hensured =>
    obtain ⟨_, hdesk, _, hfound⟩ := ensureSdlReady_desk host injector
    obtain ⟨api, hapi⟩ := Option.isSome_iff_exists.mp (hfound hensured)
    have hready : (injector.ensureSdlReady host).2.api = some api :=
      (congrArg Desk.api hdesk).trans hapi
    congr 1
    split
    next hactive => rw [attachSlot, if_pos hactive]
    next =>
      rw [onConnected, Bridge.bridgeSlot?_val, ensureSdlReady_ready host hready]
      rfl
  next => rfl

/-- Other lines are ignored. -/
theorem onInput_cases (injector : Injector) (line : List Char) :
    injector.onInput host line = injector ∨ ∃ i buttons, injector.onInput host line =
      if (injector.ensureSdlReady host).1 then
        ((injector.ensureSdlReady host).2.attachSlot host i).applyInput i
          (inputNumbers buttons line)
      else (injector.ensureSdlReady host).2 := by
  cases hslot : (jsonGetInt line "slot").bind bridgeSlot? with
  | none => exact Or.inl (by rw [onInput, hslot])
  | some i =>
      cases hbuttons : jsonGetInt line "buttons" with
      | none => exact Or.inl (by rw [onInput, hslot, hbuttons])
      | some buttons => exact Or.inr ⟨i, buttons, onInput_eq host hslot hbuttons⟩

/-- As far as joysticks are concerned, an input is handled as a connected event. -/
theorem onInput_connects (hfresh : injector.sdl.Fresh) (line : List Char) :
    ∃ i, injector.desk.Connects i (injector.onInput host line).desk := by
  rcases onInput_cases host injector line with hsame | ⟨i, buttons, hinput⟩
  · rw [hsame]
    exact ⟨0, .kept fun _ => rfl⟩
  · have hsame : (injector.onInput host line).desk = (injector.onConnected host i).desk := by
      rw [hinput, onConnected, Bridge.bridgeSlot?_val]
      dsimp only
      split
      · rw [desk_applyInput]
      · rfl
    rw [hsame]
    exact ⟨i, ensured_connects host hfresh i⟩

theorem onDisconnected_desk {slot : Int} {i : Fin maxSlots} (hslot : bridgeSlot? slot = some i) :
    (injector.onDisconnected slot).desk =
      if (injector.slots i).active then injector.desk.detach i else injector.desk := by
  have hdetach (calls : List SdlCall) :
      ((sdlDetachVirtual (injector.slots i).instanceId
        { injector with calls := calls }).setSlot i {}).desk = injector.desk.detach i := by
    rw [desk_setSlot, desk_sdlDetachVirtual]
    rfl
  rw [onDisconnected, hslot]
  dsimp only
  split_ifs
  · cases (injector.slots i).joy <;> exact hdetach _
  · cases (injector.slots i).joy <;> exact hdetach _
  · rfl

/-- What a line can do. -/
theorem step_cases (injector : Injector) (event : Event) :
    (∃ slot i, bridgeSlot? slot = some i ∧ SaysDisconnected event.line i ∧
        injector.step event = injector.onDisconnected slot) ∨
      (∀ i, ¬SaysDisconnected event.line i) ∧ (injector.step event = injector ∨
        (∃ slot, injector.step event = injector.onConnected event.host slot) ∨
        injector.step event = injector.onInput event.host event.line) := by
  rw [step, handleLine]
  split
  next hconnected =>
    refine Or.inr ⟨fun i hi => absurd (hconnected.symm.trans hi.1) (by decide), ?_⟩
    cases jsonGetInt event.line "slot" with
    | none => exact Or.inl rfl
    | some slot => exact Or.inr (Or.inl ⟨slot, rfl⟩)
  next hconnected =>
    split
    next hdisconnected =>
      cases hslot : (jsonGetInt event.line "slot").bind bridgeSlot? with
      | none =>
          refine Or.inr ⟨fun i hi => absurd (hslot.symm.trans hi.2.2) (by simp), Or.inl ?_⟩
          cases hint : jsonGetInt event.line "slot" with
          | none => rfl
          | some slot =>
              rw [hint, Option.bind_some] at hslot
              simp only [onDisconnected, hslot]
      | some i =>
          obtain ⟨slot, hint, hi⟩ := Option.bind_eq_some_iff.mp hslot
          have hline : SaysDisconnected event.line i :=
            ⟨Bool.eq_false_of_not_eq_true hconnected, hdisconnected, hslot⟩
          exact Or.inl ⟨slot, i, hi, hline, by rw [hint]⟩
    next hdisconnected =>
      refine Or.inr ⟨fun i hi => absurd hi.2.1 hdisconnected, ?_⟩
      split
      · exact Or.inr (Or.inr rfl)
      · exact Or.inl rfl

/-- A line disconnects a slot in use, or connects a slot, or does neither. -/
theorem step_desk (hfresh : injector.sdl.Fresh) (event : Event) :
    (∃ i, SaysDisconnected event.line i ∧ (injector.slots i).active = true ∧
        (injector.step event).desk = injector.desk.detach i) ∨
      (∀ i, SaysDisconnected event.line i → (injector.slots i).active = false) ∧
        ∃ i, injector.desk.Connects i (injector.step event).desk := by
  have hkept : ∃ i, injector.desk.Connects i injector.desk := ⟨0, .kept fun _ => rfl⟩
  rcases injector.step_cases event with ⟨slot, i, hslot, hline, hstep⟩ | ⟨hnone, hother⟩
  · rw [hstep, onDisconnected_desk hslot]
    cases hactive : (injector.slots i).active with
    | true => exact Or.inl ⟨i, hline, hactive, if_pos rfl⟩
    | false =>
        refine Or.inr ⟨fun j hj => ?_, hkept⟩
        cases hline.2.2.symm.trans hj.2.2
        exact hactive
  · refine Or.inr ⟨fun i hi => absurd hi (hnone i), ?_⟩
    rcases hother with hstep | ⟨slot, hstep⟩ | hstep
    · rw [hstep]
      exact hkept
    · rw [hstep]
      exact onConnected_connects event.host hfresh slot
    · rw [hstep]
      exact onInput_connects event.host hfresh event.line

end

end Injector

end XoneDarwin
