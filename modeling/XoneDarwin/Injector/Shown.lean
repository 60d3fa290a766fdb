import XoneDarwin.Bridge.Told
import XoneDarwin.Injector.Agreement
import XoneDarwin.Injector.Detach
import XoneDarwin.Injector.Overflow

/-!
# What the emulator sees of the daemon's controllers

With every datagram received, the injector's slots are in use as the daemon's are, and
each remembers a joystick that no other slot does. A joystick shows the last input of its
slot, the sticks and triggers measured from the first input since the controller was connected.
With SDL3, or with slots that are emptied in turn, the joysticks attached are those of the
slots in use.
-/

namespace XoneDarwin

open Machine (Always callsOf emitted run written)

/-! ## Joysticks -/

/-- The values last given to a joystick. -/
structure Joystick where
  axes : Nat → Option Int := fun _ => none
  buttons : Nat → Option Bool := fun _ => none
  hats : Nat → Option UInt8 := fun _ => none

namespace Joystick

/-- A call that may be for the joystick. -/
def take (joy : Nat) (shown : Joystick) : SdlCall → Joystick
  | .axis other axis value =>
      if other = joy then { shown with axes := Function.update shown.axes axis (some value) }
      else shown
  | .button other button down =>
      if other = joy then { shown with buttons := Function.update shown.buttons button (some down) }
      else shown
  | .hat other hat value =>
      if other = joy then { shown with hats := Function.update shown.hats hat (some value) }
      else shown
  | .close _ => shown
  | .update => shown

theorem take_axes (joy : Nat) (values : List (Nat × Int)) (shown : Joystick) :
    (values.map fun value => SdlCall.axis joy value.1 value.2).foldl (take joy) shown =
      { shown with axes := written values shown.axes } := by
  induction values generalizing shown with
  | nil => rfl
  | cons value rest ih =>
      rw [List.map_cons, List.foldl_cons, ih, take, if_pos rfl]
      rfl

theorem take_buttons (joy : Nat) (values : List (Nat × Bool)) (shown : Joystick) :
    (values.map fun value => SdlCall.button joy value.1 value.2).foldl (take joy) shown =
      { shown with buttons := written values shown.buttons } := by
  induction values generalizing shown with
  | nil => rfl
  | cons value rest ih =>
      rw [List.map_cons, List.foldl_cons, ih, take, if_pos rfl]
      rfl

end Joystick

/-- What a joystick shows after some calls, which are listed newest first. -/
def shownBy (joy : Nat) (calls : List SdlCall) : Joystick :=
  calls.foldr (fun call shown => shown.take joy call) {}

/-- What the state of a slot looks like on a joystick. -/
def slotJoystick (settings : InjectorSettings) (s : InjectorSlot) : Joystick where
  axes := ((Injector.slotAxes settings s).lookup ·)
  buttons := ((Injector.slotButtons settings s).lookup ·)
  hats := ([(0, Injector.dpadToHat s.buttons)].lookup ·)

theorem shownBy_append (joy : Nat) (newer older : List SdlCall) :
    shownBy joy (newer ++ older) = newer.reverse.foldl (Joystick.take joy) (shownBy joy older) := by
  rw [shownBy, List.foldr_append, List.foldl_reverse, shownBy]

namespace Injector

section

variable (injector : Injector) (s : InjectorSlot)

theorem slotAxes_keys (settings : InjectorSettings) (s : InjectorSlot) :
    (slotAxes settings s).map Prod.fst = [0, 1, 2, 3, 4, 5] := by
  unfold slotAxes
  dsimp only
  split <;> rfl

theorem slotButtons_keys (settings : InjectorSettings) (s : InjectorSlot) :
    (slotButtons settings s).map Prod.fst = List.range 17 :=
  rfl

/-- The calls of `apply_slot_state_locked` show the state on the joystick, whatever state it
showed before. -/
theorem shownBy_slotCalls (joy : Nat)
    (hbefore : shownBy joy injector.calls = {} ∨
      ∃ s', shownBy joy injector.calls = slotJoystick injector.settings s') :
    shownBy joy ((injector.slotCalls joy s).reverse ++ injector.calls) =
      slotJoystick injector.settings s := by
  have hcalls (shown : Joystick) : (injector.slotCalls joy s).foldl (Joystick.take joy) shown =
      ⟨written (slotAxes injector.settings s) shown.axes,
        written (slotButtons injector.settings s) shown.buttons,
        written [(0, dpadToHat s.buttons)] shown.hats⟩ := by
    rw [slotCalls, List.foldl_append, List.foldl_append, Joystick.take_axes, Joystick.take_buttons,
      List.foldl_cons, Joystick.take, if_pos rfl]
    split <;> rfl
  have haxes : ((slotAxes injector.settings s).map Prod.fst).Nodup := by
    rw [slotAxes_keys]
    decide
  have hbuttons : ((slotButtons injector.settings s).map Prod.fst).Nodup := by
    rw [slotButtons_keys]
    exact List.nodup_range
  have hhat : ([(0, dpadToHat s.buttons)].map Prod.fst).Nodup := List.nodup_singleton 0
  rw [shownBy_append, List.reverse_reverse, hcalls, slotJoystick]
  -- all keys are written at every call, so nothing of the state before shows through
  rcases hbefore with hnone | ⟨s', hsome⟩
  · rw [hnone]
    congr 1
    · funext key
      rw [Machine.written_apply haxes, Option.or_none]
    · funext key
      rw [Machine.written_apply hbuttons, Option.or_none]
    · funext key
      rw [Machine.written_apply hhat, Option.or_none]
  · rw [hsome]
    congr 1
    · exact Machine.written_lookup haxes ((slotAxes_keys _ _).trans (slotAxes_keys _ _).symm)
    · exact Machine.written_lookup hbuttons rfl
    · exact Machine.written_lookup hhat rfl

/-- They do nothing to other joysticks. -/
theorem shownBy_slotCalls_ne {joy other : Nat} (hne : other ≠ joy) (calls : List SdlCall) :
    shownBy other ((injector.slotCalls joy s).reverse ++ calls) = shownBy other calls := by
  rw [shownBy_append, List.reverse_reverse]
  refine List.foldlRecOn (motive := (· = shownBy other calls)) _ _ rfl
    fun shown hshown call hcall => ?_
  rw [hshown]
  simp only [slotCalls, List.mem_append, List.mem_map, List.mem_cons] at hcall
  rcases hcall with ⟨value, -, rfl⟩ | ⟨value, -, rfl⟩ | rfl | hupdate
  · exact if_neg (Ne.symm hne)
  · exact if_neg (Ne.symm hne)
  · exact if_neg (Ne.symm hne)
  · split at hupdate
    · rw [List.mem_singleton.mp hupdate]
      rfl
    · exact absurd hupdate List.not_mem_nil

end

/-! ## Slots and their joysticks -/

/-- Every slot with a joystick has it for itself, and the joystick shows the state of the slot. -/
structure Shows (injector : Injector) : Prop where
  apart : ∀ i j joy, (injector.slots i).joy = some joy → (injector.slots j).joy = some joy → i = j
  below : ∀ i joy, (injector.slots i).joy = some joy → joy < injector.sdl.nextInstance
  fresh : ∀ joy, injector.sdl.nextInstance ≤ joy → shownBy joy injector.calls = {}
  shown : ∀ i joy, (injector.slots i).joy = some joy →
    shownBy joy injector.calls = slotJoystick injector.settings (injector.slots i)

namespace Shows

variable {injector : Injector}

/-- A slot in use takes a state and shows it. -/
theorem put (hshows : injector.Shows) {i : Fin maxSlots} {slot : InjectorSlot} {joy : Nat}
    (hjoy : slot.joy = some joy) (hactive : slot.active = true) (hid : 0 ≤ slot.instanceId)
    (hbelow : joy < injector.sdl.nextInstance)
    (hapart : ∀ j, j ≠ i → (injector.slots j).joy ≠ some joy)
    (hbefore : shownBy joy injector.calls = {} ∨
      ∃ s, shownBy joy injector.calls = slotJoystick injector.settings s) :
    ((injector.setSlot i slot).applySlotState i).Shows := by
  rw [applySlotState_eq (by rwa [setSlot_same]) (by rwa [setSlot_same])
    ((congrArg InjectorSlot.joy (setSlot_same i slot injector)).trans hjoy)]
  have hslots (j : Fin maxSlots) : (injector.setSlot i slot).slots j =
      if j = i then slot else injector.slots j := setSlot_slots i j slot injector
  have hcalls : ((injector.setSlot i slot).slotCalls joy ((injector.setSlot i slot).slots i)) =
      injector.slotCalls joy slot := by
    rw [setSlot_same]
    rfl
  rw [hcalls]
  constructor
  · intro j k other hj hk
    simp only [hslots] at hj hk
    split at hj <;> split at hk
    next hji hki => rw [hji, hki]
    -- a slot that is not `i` cannot have the joystick that `i` takes
    next hji hki =>
      cases hjoy.symm.trans hj
      exact absurd hk (hapart k hki)
    next hji hki =>
      cases hjoy.symm.trans hk
      exact absurd hj (hapart j hji)
    next => exact hshows.apart j k other hj hk
  · intro j other hj
    simp only [hslots] at hj
    split at hj
    · cases hjoy.symm.trans hj
      exact hbelow
    · exact hshows.below j other hj
  · intro other hother
    rw [shownBy_slotCalls_ne injector slot (Nat.ne_of_gt (hbelow.trans_le hother))]
    exact hshows.fresh other hother
  · intro j other hj
    simp only [hslots] at hj ⊢
    by_cases hji : j = i
    · rw [if_pos hji] at hj
      cases hjoy.symm.trans hj
      rw [if_pos hji]
      exact shownBy_slotCalls injector slot joy hbefore
    · rw [if_neg hji] at hj
      have hne : other ≠ joy := fun heq => hapart j hji (heq ▸ hj)
      rw [if_neg hji, shownBy_slotCalls_ne injector slot hne]
      exact hshows.shown j other hj

/-- A change that concerns neither slots nor what joysticks show. -/
theorem congr (hshows : injector.Shows) {after : Injector} (hslots : after.slots = injector.slots)
    (hsettings : after.settings = injector.settings)
    (hshown : ∀ joy, shownBy joy after.calls = shownBy joy injector.calls)
    (hnext : injector.sdl.nextInstance ≤ after.sdl.nextInstance) : after.Shows where
  apart := hslots ▸ hshows.apart
  below i joy hjoy := (hshows.below i joy (hslots ▸ hjoy)).trans_le hnext
  fresh joy hjoy := (hshown joy).trans (hshows.fresh joy (hnext.trans hjoy))
  shown i joy hjoy := by
    rw [hshown, hsettings, hslots]
    exact hshows.shown i joy (hslots ▸ hjoy)

/-- A slot is cleared. -/
theorem clear (hshows : injector.Shows) (i : Fin maxSlots) : (injector.setSlot i {}).Shows := by
  have hjoy {j : Fin maxSlots} {joy : Nat} (hj : ((injector.setSlot i {}).slots j).joy = some joy) :
      (injector.setSlot i {}).slots j = injector.slots j := by
    rw [setSlot_slots] at hj ⊢
    split at hj
    · cases hj
    next hji => exact if_neg hji
  exact {
    apart := fun j k joy hj hk =>
      hshows.apart j k joy (hjoy hj ▸ hj) (hjoy hk ▸ hk)
    below := fun j joy hj => hshows.below j joy (hjoy hj ▸ hj)
    fresh := hshows.fresh
    shown := fun j joy hj => (hshows.shown j joy (hjoy hj ▸ hj)).trans
      (congrArg (slotJoystick _) (hjoy hj).symm) }

theorem attachSlot (hshows : injector.Shows) (hfresh : injector.sdl.Fresh) {api : SdlApi}
    (hapi : injector.api = some api) (sdl2 : Bool) (i : Fin maxSlots) :
    (injector.attachSlot (.working sdl2) i).Shows := by
  cases hactive : (injector.slots i).active with
  | true =>
      rw [Injector.attachSlot, if_pos hactive]
      exact hshows
  | false =>
      have hnext : (injector.sdl.attachVirtual api).2.nextInstance =
          injector.sdl.nextInstance + 1 := by cases api <;> rfl
      have hopens : (SdlHost.working sdl2).opens = true := rfl
      rw [attachSlot_eq (.working sdl2) hfresh hapi hactive rfl, if_pos hopens]
      have hattached : Shows { injector with sdl := (injector.sdl.attachVirtual api).2 } :=
        hshows.congr rfl rfl (fun _ => rfl) (hnext ▸ Nat.le_succ _)
      refine hattached.put rfl rfl ?_ (hnext ▸ Nat.lt_succ_self _) (fun j _ hj => ?_)
        (Or.inl (hshows.fresh _ (Nat.le_refl _)))
      -- both kinds of id are numbers from 0 on
      · cases api <;> exact Int.natCast_nonneg _
      · exact Nat.lt_irrefl _ (hshows.below j _ hj)

theorem applyInput (hshows : injector.Shows) (hsound : injector.desk.Sound) (i : Fin maxSlots)
    (numbers : InputNumbers) : (injector.applyInput i numbers).Shows := by
  unfold Injector.applyInput
  split
  next hactive =>
    obtain ⟨hstill, hid, hsame, hsome⟩ := withNumbers_held hsound hactive numbers
    obtain ⟨joy, hjoy⟩ := Option.isSome_iff_exists.mp hsome
    exact hshows.put (hsame.trans hjoy) hstill hid (hshows.below i joy hjoy)
      (fun j hji hj => hji (hshows.apart j i joy hj hjoy)) (Or.inr ⟨_, hshows.shown i joy hjoy⟩)
  next => exact hshows

theorem onDisconnected (hshows : injector.Shows) (s : Fin maxSlots) :
    (injector.onDisconnected s).Shows := by
  have hdetach (calls : List SdlCall) (hcalls : ∀ joy, shownBy joy calls =
      shownBy joy injector.calls) : Shows (sdlDetachVirtual (injector.slots s).instanceId
        { injector with calls := calls }) := by
    unfold sdlDetachVirtual
    dsimp only
    split
    · exact hshows.congr rfl rfl hcalls (Nat.le_refl _)
    next api _ =>
      refine hshows.congr rfl rfl hcalls ?_
      unfold Joysticks.detachVirtual
      dsimp only
      split <;> exact Nat.le_refl _
  rw [Injector.onDisconnected, Bridge.bridgeSlot?_val]
  dsimp only
  split
  · refine clear ?_ s
    split
    · split
      · exact hdetach _ fun _ => rfl
      · exact hdetach _ fun _ => rfl
    · exact hdetach _ fun _ => rfl
  · exact hshows

/-- Looking for the functions of SDL does nothing to slots and joysticks. -/
theorem ensureSdlReady (hshows : injector.Shows) (host : SdlHost) :
    (injector.ensureSdlReady host).2.Shows := by
  unfold Injector.ensureSdlReady
  split
  · exact hshows
  · dsimp only
    split_ifs <;> exact hshows.congr rfl rfl (fun _ => rfl) (Nat.le_refl _)

end Shows

end Injector

/-! ## What a slot holds -/

/-- A slot without its joystick. -/
def InjectorSlot.content (s : InjectorSlot) : InjectorSlot :=
  { s with instanceId := -1, joy := none }

/-- What an event makes of a slot where everything succeeds. -/
def InjectorSlot.hear (s : InjectorSlot) : PadEvent → InjectorSlot
  | .connect => if s.active then s else { active := true }
  | .disconnect => if s.active then {} else s
  | .input g =>
      Injector.withNumbers (if s.active then s else { active := true }) (Injector.eventNumbers g)
  | .guide _ => s

namespace Injector

theorem content_withNumbers (s : InjectorSlot) (numbers : InputNumbers) :
    (withNumbers s numbers).content = withNumbers s.content numbers := by
  obtain ⟨_, _, _, calibrated, _⟩ := s
  cases calibrated <;> rfl

section

variable {injector : Injector} (sdl2 : Bool)

/-- The lookup of the functions and the attaching of a joystick, where both succeed. -/
theorem attached_shows (hsound : injector.Sound) (hshows : injector.Shows) (s : Fin maxSlots) :
    ((injector.ensureSdlReady (.working sdl2)).2.attachSlot (.working sdl2) s).Shows := by
  obtain ⟨api, hdesk, -, hfound⟩ := ensureSdlReady_desk (.working sdl2) injector
  obtain ⟨ready, rfl⟩ := Option.isSome_iff_exists.mp
    (hfound (injector.ensureSdlReady_working sdl2))
  have hsdl : (injector.ensureSdlReady (.working sdl2)).2.sdl = injector.sdl :=
    congrArg Desk.sdl hdesk
  exact (hshows.ensureSdlReady (.working sdl2)).attachSlot (hsdl ▸ hsound.desk.fresh)
    (congrArg Desk.api hdesk) sdl2 s

theorem attached_content (hsound : injector.Sound) (s r : Fin maxSlots) :
    (((injector.ensureSdlReady (.working sdl2)).2.attachSlot (.working sdl2) s).slots r).content =
      if r = s then (injector.slots s).content.hear .connect else (injector.slots r).content := by
  obtain ⟨api, hdesk, -, hfound⟩ := ensureSdlReady_desk (.working sdl2) injector
  obtain ⟨ready, rfl⟩ := Option.isSome_iff_exists.mp
    (hfound (injector.ensureSdlReady_working sdl2))
  have hsdl : (injector.ensureSdlReady (.working sdl2)).2.sdl = injector.sdl :=
    congrArg Desk.sdl hdesk
  have hslots := injector.ensureSdlReady_slots (.working sdl2)
  have hhear : (injector.slots s).content.hear .connect =
      if (injector.slots s).active then (injector.slots s).content else { active := true } := rfl
  rw [hhear]
  cases hactive : (injector.slots s).active with
  | true =>
      rw [attachSlot, if_pos (hslots.symm ▸ hactive), hslots, if_pos rfl]
      split
      next hr => rw [hr]
      next => rfl
  | false =>
      have hopens : (SdlHost.working sdl2).opens = true := rfl
      rw [attachSlot_eq (.working sdl2) (hsdl ▸ hsound.desk.fresh) (congrArg Desk.api hdesk)
        (hslots.symm ▸ hactive) rfl, if_pos hopens, applySlotState_slots, setSlot_slots, hslots]
      split
      · rfl
      · rfl

/-- Each event does to the content of its slot what `InjectorSlot.hear` says, and to nothing else;
the joysticks show it. -/
theorem step_heard (hsound : injector.Sound) (hshows : injector.Shows) (s : Fin maxSlots)
    (event : PadEvent) :
    (injector.step ⟨.working sdl2, event.text s⟩).Shows ∧
      ∀ r, ((injector.step ⟨.working sdl2, event.text s⟩).slots r).content =
        if r = s then (injector.slots s).content.hear event else (injector.slots r).content := by
  have hensured := injector.ensureSdlReady_working sdl2
  have hshown := attached_shows sdl2 hsound hshows s
  have hattached := attached_content sdl2 hsound s
  cases event with
  | connect =>
      rw [step_text]
      dsimp only
      rw [onConnected_ensured _ hensured]
      exact ⟨hshown, hattached⟩
  | disconnect =>
      rw [step_text]
      refine ⟨hshows.onDisconnected s, fun r => ?_⟩
      have hhear : (injector.slots s).content.hear .disconnect =
        if (injector.slots s).active then {} else (injector.slots s).content := rfl
      dsimp only
      rw [onDisconnected_slot (Bridge.bridgeSlot?_val s), hhear]
      by_cases hr : r = s
      · rw [hr, if_pos rfl]
        cases (injector.slots s).active with
        | true => rw [if_pos ⟨rfl, rfl⟩]; rfl
        | false => rw [if_neg (by simp)]; rfl
      · rw [if_neg fun h => hr h.1, if_neg hr]
  | input g =>
      -- an input attaches a slot that was not in use before it is shown
      have hdesk := attachSlot_sound (i := s) hsound hensured
      have hline : injector.step ⟨.working sdl2, PadEvent.text s (.input g)⟩ = _ :=
        step_inputEvent (.working sdl2) injector s g
      rw [hline, if_pos hensured]
      refine ⟨hshown.applyInput hdesk s _, fun r => ?_⟩
      have hactive := ensured_active (.working sdl2) hsound.desk.fresh s hensured rfl rfl
      rw [applyInput_slot]
      by_cases hr : r = s
      · subst hr
        rw [if_pos ⟨rfl, hactive⟩, if_pos rfl, content_withNumbers, hattached, if_pos rfl]
        rfl
      · rw [if_neg fun h => hr h.1, hattached, if_neg hr, if_neg hr]
  | guide pressed =>
      rw [step_text]
      refine ⟨hshows, fun r => ?_⟩
      dsimp only
      split
      next hr => rw [hr]; rfl
      next => rfl

end

end Injector

/-! ## Reports -/

namespace Since

/-- The slot of the injector: sticks and triggers count from the first input. -/
def slot (since : Since) : InjectorSlot :=
  match since.first, since.last with
  | some f, some l =>
      { active := since.active
        calibrated := true
        baseLt := f.triggerL.toNat
        baseRt := f.triggerR.toNat
        baseLx := f.stickLx.toInt
        baseLy := f.stickLy.toInt
        baseRx := f.stickRx.toInt
        baseRy := f.stickRy.toInt
        buttons := l.buttons.toNat
        lt := Injector.triggerOffset l.triggerL.toNat f.triggerL.toNat
        rt := Injector.triggerOffset l.triggerR.toNat f.triggerR.toNat
        lx := l.stickLx.toInt - f.stickLx.toInt
        ly := l.stickLy.toInt - f.stickLy.toInt
        rx := l.stickRx.toInt - f.stickRx.toInt
        ry := l.stickRy.toInt - f.stickRy.toInt }
  | _, _ => { active := since.active }

theorem slot_active (since : Since) : since.slot.active = since.active := by
  unfold slot
  split <;> rfl

/-- The injector hears what the daemon tells. -/
theorem slot_next {since : Since} (hwf : since.WF) {pad : Pad} (hactive : since.active = pad.active)
    {event : PadEvent} (htells : pad.tells event = true) :
    (since.next event).slot = since.slot.hear event := by
  cases event with
  | connect =>
      have hidle : since.active = false := by
        rw [hactive]
        exact Bool.not_eq_true' _ ▸ htells
      simp only [next, InjectorSlot.hear, slot_active, hidle, Bool.false_eq_true, if_false]
      rfl
  | disconnect =>
      have hin : since.active = true := hactive.trans htells
      simp only [next, InjectorSlot.hear, slot_active, hin, if_true]
      rfl
  | input g =>
      obtain ⟨active, first, last⟩ := since
      obtain rfl : active = true := hactive.trans htells
      simp only [next, InjectorSlot.hear, slot_active, if_true]
      cases first with
      | none =>
          cases last with
          | none => rfl
          | some l => cases hwf
      | some f =>
          cases last with
          | none => cases hwf
          | some l => rfl
  | guide pressed => rfl

end Since

/-! ## Runs -/

/-- The injector after some datagrams, which are listed newest first. -/
def injectorAfter (sdl2 : Bool) (start : Injector) (datagrams : List Datagram) : Injector :=
  run (Injector.receive (.working sdl2)) start (datagrams.map Datagram.text).reverse

/-- The lines of some datagrams, which are listed newest first, as the injector gets them. -/
def heardLines (sdl2 : Bool) (datagrams : List Datagram) : List Injector.Event :=
  (datagrams.map Datagram.text).reverse.flatMap fun text =>
    (Injector.lines text).map (Injector.Event.mk (.working sdl2))

theorem injectorAfter_eq (sdl2 : Bool) (start : Injector) (datagrams : List Datagram) :
    injectorAfter sdl2 start datagrams = run Injector.step start (heardLines sdl2 datagrams) := by
  rw [injectorAfter, heardLines]
  generalize (datagrams.map Datagram.text).reverse = texts
  induction texts generalizing start with
  | nil => rfl
  | cons text rest ih =>
      have hlines : run Injector.step start
          ((Injector.lines text).map (Injector.Event.mk (.working sdl2))) =
            start.receive (.working sdl2) text := List.foldl_map
      rw [Machine.run_cons, ih, List.flatMap_cons, Machine.run_append, hlines]

/-- With SDL3, or where the disconnects come in turn, slots and joysticks match. -/
theorem matched_of_inTurn {sdl2 : Bool} {settings : InjectorSettings} {others : Nat}
    {datagrams : List Datagram}
    (hturn : sdl2 = true → Always Watched.step Watched.InTurn ⟨Injector.start settings others, []⟩
      (heardLines sdl2 datagrams)) :
    (injectorAfter sdl2 (Injector.start settings others) datagrams).Matched := by
  have halways : Always Watched.step Watched.InTurn ⟨Injector.start settings others, []⟩
      (heardLines sdl2 datagrams) := by
    cases sdl2 with
    | true => exact hturn rfl
    | false =>
        refine Watched.inTurn_of_sdl3 settings others fun event hevent => ?_
        obtain ⟨text, -, hline⟩ := List.mem_flatMap.mp hevent
        obtain ⟨line, -, rfl⟩ := List.mem_map.mp hline
        rfl
  rw [injectorAfter_eq]
  exact (Watched.matched_iff settings others _).mpr halways _ (List.prefix_refl _)

/-- The joysticks that are attached are those of the slots in use. -/
theorem Injector.Matched.mem_virtuals_iff {injector : Injector} (hmatched : injector.Matched)
    {joy : Nat} : joy ∈ injector.sdl.virtuals ↔
      ∃ s, (injector.slots s).active = true ∧ (injector.slots s).joy = some joy := by
  constructor
  · exact hmatched.owned joy
  · rintro ⟨s, hs, hjoy⟩
    obtain ⟨own, hmem, hown⟩ := hmatched.held s hs
    exact Option.some.inj (hown.symm.trans hjoy) ▸ hmem

theorem injectorAfter_cons (sdl2 : Bool) (start : Injector) (d : Datagram)
    (older : List Datagram) : injectorAfter sdl2 start (d :: older) =
      (injectorAfter sdl2 start older).receive (.working sdl2) d.text := by
  simp only [injectorAfter, List.map_cons, List.reverse_cons, Machine.run_concat]

/-- Daemon, injector and what was reported. -/
structure Heard (settings : InjectorSettings) (pads : Pads) (since : Fin maxSlots → Since)
    (injector : Injector) : Prop where
  active : ∀ s, (since s).active = (pads.view s).active
  wf : ∀ s, (since s).WF
  content : ∀ s, (injector.slots s).content = (since s).slot
  sound : injector.Sound
  shows : injector.Shows
  settings : injector.settings = settings

section

variable {settings : InjectorSettings} {host : Host} {sdl2 : Bool} {start : Injector}
variable {since : Fin maxSlots → Since}

theorem Heard.handle {pads : Pads}
    (hheard : Heard settings pads since (injectorAfter sdl2 start pads.datagrams))
    (call : Fin maxSlots × PadEvent) :
    Heard settings (pads.handle host true call) (sinceAfter since [call])
      (injectorAfter sdl2 start (pads.handle host true call).datagrams) := by
  obtain ⟨s, event⟩ := call
  have hsince := sinceAfter_one since s event
  have hactive := sinceAfter_active hheard.active host true s event
  have hwf (r : Fin maxSlots) : (sinceAfter since [(s, event)] r).WF := by
    rw [hsince]
    split
    · exact (hheard.wf s).next event
    · exact hheard.wf r
  have htold := handle_told host pads s event
  cases htells : (pads.view s).tells event with
  | true =>
      rw [htells, if_pos rfl] at htold
      rw [htold, injectorAfter_cons, Injector.receive_sent]
      obtain ⟨hshows, hcontent⟩ :=
        Injector.step_heard sdl2 hheard.sound hheard.shows s event
      refine ⟨hactive, hwf, fun r => ?_, hheard.sound.step _, hshows,
        (Injector.step_settings _ _).trans hheard.settings⟩
      rw [hcontent, hsince, hheard.content, hheard.content]
      split
      · exact ((since s).slot_next (hheard.wf s) (hheard.active s) htells).symm
      · rfl
  | false =>
      rw [htells, if_neg Bool.false_ne_true] at htold
      refine ⟨hactive, hwf, fun r => ?_, ?_, ?_, ?_⟩
      · rw [htold, hheard.content, hsince]
        split
        next hr => rw [(since s).next_untold (hheard.active s) htells, hr]
        next => rfl
      · exact htold.symm ▸ hheard.sound
      · exact htold.symm ▸ hheard.shows
      · exact htold.symm ▸ hheard.settings

theorem Heard.handles {pads : Pads}
    (hheard : Heard settings pads since (injectorAfter sdl2 start pads.datagrams))
    (calls : List (Fin maxSlots × PadEvent)) :
    Heard settings (run (Pads.handle host true) pads calls) (sinceAfter since calls)
      (injectorAfter sdl2 start (run (Pads.handle host true) pads calls).datagrams) := by
  induction calls using List.reverseRecOn with
  | nil => exact hheard
  | append_singleton calls last ih =>
      rw [Machine.run_concat, sinceAfter_append]
      exact ih.handle last

end

section

variable (world : World)

theorem boots_heard (heventUdp : world.eventUdp = true) {boot : Daemon} (hboot : Boots world boot)
    (sdl2 : Bool) (settings : InjectorSettings) (others : Nat) :
    Heard settings boot.pads (fun _ => {})
      (injectorAfter sdl2 (Injector.start settings others) boot.pads.datagrams) := by
  have hstart : injectorAfter sdl2 (Injector.start settings others) boot.pads.datagrams =
      Injector.start settings others := by
    rcases (boots_streams world heventUdp hboot).2 with hnone | hone
    · rw [hnone]
      rfl
    · rw [hone, injectorAfter_cons]
      exact Injector.receive_hidUnavailable _ _
  rw [hstart]
  refine ⟨fun s => ?_, fun _ => rfl, fun _ => rfl, Injector.start_sound settings others, ?_, rfl⟩
  · rw [Pads.view, boots_slots world hboot]
    rfl
  · constructor
    · intro _ _ _ hjoy
      cases hjoy
    · intro _ _ hjoy
      cases hjoy
    · exact fun _ _ => rfl
    · intro _ _ hjoy
      cases hjoy

theorem run_heard (heventUdp : world.eventUdp = true) {boot : Daemon} (hboot : Boots world boot)
    (steps : List Step) (sdl2 : Bool) (settings : InjectorSettings) (others : Nat) :
    Heard settings (run (Daemon.step world) boot steps).pads
      (sinceAfter (fun _ => {}) (padTrace world boot steps))
      (injectorAfter sdl2 (Injector.start settings others)
        (run (Daemon.step world) boot steps).pads.datagrams) := by
  induction steps using List.reverseRecOn with
  | nil => exact boots_heard world heventUdp hboot sdl2 settings others
  | append_singleton steps last ih =>
      have hwf : (run (Daemon.step world) boot steps).table.WF :=
        reachable_wf world ⟨boot, steps, hboot, rfl⟩
      rw [Machine.run_concat, padTrace, Machine.emitted_concat, sinceAfter_append,
        step_pads world hwf, heventUdp]
      exact ih.handles _

/-- An injector gets every datagram of the daemon, in an emulator where SDL's calls succeed. It has
the slots in use that the daemon has, and each of them a joystick that no other slot has, which was
last given the controller's last input, its sticks and triggers measured from the first one since
the controller was connected. With SDL3, or where no slot is disconnected after one that was in use
when it was connected, these joysticks are the virtual joysticks that are attached. -/
theorem joysticks_show_controllers (heventUdp : world.eventUdp = true) {boot : Daemon}
    (hboot : Boots world boot) (steps : List Step) (sdl2 : Bool) (settings : InjectorSettings)
    (others : Nat) :
    let daemon := run (Daemon.step world) boot steps
    let injector := injectorAfter sdl2 (Injector.start settings others) daemon.pads.datagrams
    (∀ s, (injector.slots s).active = (daemon.pads.slots s).active) ∧
      (∀ s, (daemon.pads.slots s).active = true → ∃ joy, (injector.slots s).joy = some joy ∧
        (∀ r, (injector.slots r).joy = some joy → r = s) ∧
        shownBy joy injector.calls = slotJoystick settings
          (run Since.next {} (callsOf s (padTrace world boot steps))).slot) ∧
      ((sdl2 = true → Always Watched.step Watched.InTurn ⟨Injector.start settings others, []⟩
          (heardLines sdl2 daemon.pads.datagrams)) →
        ∀ joy, joy ∈ injector.sdl.virtuals ↔
          ∃ s, (daemon.pads.slots s).active = true ∧ (injector.slots s).joy = some joy) := by
  intro daemon injector
  have hheard := run_heard world heventUdp hboot steps sdl2 settings others
  have hactive (s : Fin maxSlots) : (injector.slots s).active = (daemon.pads.slots s).active := by
    have hcontent := congrArg InjectorSlot.active (hheard.content s)
    rw [Since.slot_active] at hcontent
    exact hcontent.trans (hheard.active s)
  refine ⟨hactive, fun s hs => ?_, fun hturn joy => ?_⟩
  · obtain ⟨-, -, hjoystick⟩ := hheard.sound.desk.held s ((hactive s).trans hs)
    obtain ⟨joy, hjoy⟩ := Option.isSome_iff_exists.mp hjoystick
    refine ⟨joy, hjoy, fun r hr => hheard.shows.apart r s joy hr hjoy, ?_⟩
    -- the joystick itself is no part of what is shown
    have hsame : slotJoystick settings (injector.slots s) =
        slotJoystick settings (injector.slots s).content := rfl
    have hshown := hheard.shows.shown s joy hjoy
    rw [hheard.settings] at hshown
    exact hshown.trans (hsame.trans (congrArg (slotJoystick settings) (hheard.content s)))
  · rw [(matched_of_inTurn hturn).mem_virtuals_iff]
    exact exists_congr fun s => and_congr_left fun _ => iff_of_eq (congrArg (· = true) (hactive s))

/-- The events of `inputStep` on a controller that was just added. -/
theorem joysticks_show_controllers_input :
    let daemon := run (Daemon.step (udpWorld plainRom)) udpBoot [addedStep, inputStep]
    let injector := injectorAfter false (Injector.start {} 0) daemon.pads.datagrams
    (∀ s, (injector.slots s).active = (daemon.pads.slots s).active) ∧
      (∀ s, (daemon.pads.slots s).active = true → ∃ joy, (injector.slots s).joy = some joy ∧
        (∀ r, (injector.slots r).joy = some joy → r = s) ∧
        shownBy joy injector.calls = slotJoystick {}
          (run Since.next {} (callsOf s
            (padTrace (udpWorld plainRom) udpBoot [addedStep, inputStep]))).slot) ∧
      ∀ joy, joy ∈ injector.sdl.virtuals ↔
        ∃ s, (daemon.pads.slots s).active = true ∧ (injector.slots s).joy = some joy := by
  intro daemon injector
  obtain ⟨hactive, hshown, hattached⟩ := joysticks_show_controllers (udpWorld plainRom) rfl
    udpBoot_boots [addedStep, inputStep] false {} 0
  exact ⟨hactive, hshown, hattached Bool.noConfusion⟩

end

end XoneDarwin
