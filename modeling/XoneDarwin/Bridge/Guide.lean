import XoneDarwin.Bridge.Mirror

/-!
# The guide button and the other controls

The guide button has events of its own. A slot keeps it twice, as a flag and as a bit of
its report, and input events write the same report. Neither event gets into the way of
the other, in the daemon and in the bridge.
-/

namespace XoneDarwin

open Machine (bitAt run)

/-! ## Reports -/

namespace HidReport

/-- The GUIDE bit. -/
def guide (report : HidReport) : Bool :=
  bitAt report.buttons 10

/-- The reports are the same, the GUIDE bit perhaps excepted. -/
structure SameControls (report other : HidReport) : Prop where
  buttons : ∀ k, k ≠ 10 → bitAt report.buttons k = bitAt other.buttons k
  rest : { report with buttons := other.buttons } = other

theorem SameControls.refl (report : HidReport) : report.SameControls report :=
  ⟨fun _ _ => rfl, rfl⟩

theorem bitAt_withGuide (report : HidReport) (pressed : Bool) (k : Nat) :
    bitAt (report.withGuide pressed).buttons k =
      if k = 10 then pressed else bitAt report.buttons k := by
  cases pressed with
  | true =>
      change bitAt (report.buttons ||| hidBtnGuide) k = _
      rw [Machine.bitAt_or, Machine.bitAt_bit (by decide)]
      change (_ || decide (10 = k)) = _
      split
      next hk => simp [hk]
      next hk => simp [Ne.symm hk]
  | false =>
      change bitAt (report.buttons &&& ~~~hidBtnGuide) k = _
      rw [Machine.bitAt_clear (by decide)]
      change (_ && decide (10 ≠ k)) = _
      split
      next hk => simp [hk]
      next hk => simp [Ne.symm hk]

@[simp] theorem guide_withGuide (report : HidReport) (pressed : Bool) :
    (report.withGuide pressed).guide = pressed :=
  (bitAt_withGuide report pressed 10).trans (if_pos rfl)

theorem withGuide_sameControls (report : HidReport) (pressed : Bool) :
    (report.withGuide pressed).SameControls report where
  buttons := fun k hk => (bitAt_withGuide report pressed k).trans (if_neg hk)
  rest := rfl

end HidReport

@[simp] theorem guide_gipToHid (g : GipInput) (guide : Bool) :
    (gipToHid g guide).guide = guide := by
  simp [HidReport.guide, gipToHid_bitAt]

/-- The guide flag goes into its own bit. -/
theorem gipToHid_sameControls (g : GipInput) (guide : Bool) :
    (gipToHid g guide).SameControls (gipToHid g false) where
  buttons := by
    intro k hk
    simp [gipToHid_bitAt, Ne.symm hk]
  rest := rfl

/-! ## Pads -/

namespace Pad

/-- The report shows the guide button as the flag has it. -/
def ShowsGuide (pad : Pad) : Prop :=
  pad.lastReport.guide = pad.guidePressed

/-- An input is taken over, the guide button stays as it was. -/
structure Takes (before after : Pad) (g : GipInput) : Prop where
  controls : after.lastReport.SameControls (gipToHid g false)
  guide : after.lastReport.guide = before.lastReport.guide
  pressed : after.guidePressed = before.guidePressed

theorem showsGuide_empty : ShowsGuide {} :=
  Machine.bitAt_zero 10

/-- An input writes the flag into the report, where the bit was the same before. -/
theorem ShowsGuide.takes {pad : Pad} (hshows : pad.ShowsGuide) (g : GipInput) :
    pad.Takes { pad with lastReport := gipToHid g pad.guidePressed } g where
  controls := gipToHid_sameControls g _
  guide := (guide_gipToHid g _).trans hshows.symm
  pressed := rfl

theorem ShowsGuide.apply {pad : Pad} (hshows : pad.ShowsGuide) (event : PadEvent) :
    (pad.apply event).ShowsGuide := by
  cases event with
  | connect =>
      simp only [Pad.apply]
      split
      · exact hshows
      · exact hshows
  | disconnect =>
      simp only [Pad.apply]
      split
      · exact showsGuide_empty
      · exact hshows
  | input g =>
      simp only [Pad.apply]
      split
      · exact guide_gipToHid g _
      · exact hshows
  | guide pressed => exact HidReport.guide_withGuide pad.lastReport pressed

/-- The bridge's side of the event keeps the two in step as well. -/
theorem ShowsGuide.mirror {pad : Pad} (hshows : pad.ShowsGuide) (event : PadEvent) :
    (pad.mirror event).ShowsGuide := by
  cases event with
  | connect =>
      simp only [Pad.mirror]
      split
      · exact hshows
      · exact Machine.bitAt_zero 10
  | disconnect => exact hshows.apply .disconnect
  | input g => exact hshows.apply (.input g)
  | guide pressed =>
      simp only [Pad.mirror]
      split
      · exact HidReport.guide_withGuide pad.lastReport pressed
      · exact hshows

end Pad

/-! ## The daemon -/

/-- In every slot, guide events and input events keep out of each other's way. -/
structure Pads.GuideApart (eventUdp : Bool) (pads : Pads) : Prop where
  shown : ∀ s, (pads.view s).ShowsGuide
  guide : ∀ client pressed s, ((onGuide eventUdp client pressed pads).view s).lastReport.SameControls
    (pads.view s).lastReport
  input : ∀ client payload plen s g, slotIdx? client = some s → (pads.slots s).active = true →
    parseInput payload plen = some g →
    (pads.view s).Takes ((onInput eventUdp client payload plen pads).view s) g
  elsewhere : ∀ client s, slotIdx? client ≠ some s →
    (∀ pressed, (onGuide eventUdp client pressed pads).view s = pads.view s) ∧
      ∀ payload plen, (onInput eventUdp client payload plen pads).view s = pads.view s

section

variable (eventUdp : Bool)

theorem view_onGuide {client : UInt8} {i : Fin maxSlots} (hi : slotIdx? client = some i)
    (pressed : Bool) (pads : Pads) : (onGuide eventUdp client pressed pads).view =
      Function.update pads.view i { pads.view i with
        guidePressed := pressed
        lastReport := (pads.view i).lastReport.withGuide pressed } := by
  simp only [onGuide, hi, view_eventUdpSend, view_postHidReport, view_setSlot]
  rfl

theorem view_reportInput (client : UInt8) (i : Fin maxSlots) (g : GipInput) (pads : Pads) :
    (reportInput eventUdp client i g pads).view = Function.update pads.view i
      { pads.view i with lastReport := gipToHid g (pads.view i).guidePressed } := by
  simp only [reportInput, view_eventUdpSend, view_postHidReport, view_setSlot]
  rfl

theorem Pads.guideApart {pads : Pads} (hshows : ∀ s, (pads.view s).ShowsGuide) :
    pads.GuideApart eventUdp where
  shown := hshows
  guide := by
    intro client pressed s
    cases hi : slotIdx? client with
    | none =>
        simp only [onGuide, hi]
        exact .refl _
    | some i =>
        rw [view_onGuide eventUdp hi]
        by_cases hs : s = i
        · rw [hs, Function.update_self]
          exact HidReport.withGuide_sameControls _ pressed
        · rw [Function.update_of_ne hs]
          exact .refl _
  input := by
    intro client payload plen s g hs hactive hparse
    simp only [onInput, hs, if_pos hactive, hparse]
    rw [view_reportInput, Function.update_self]
    exact (hshows s).takes g
  elsewhere := by
    intro client s hs
    cases hi : slotIdx? client with
    | none =>
        simp only [onGuide, onInput, hi]
        exact ⟨fun _ => trivial, fun _ _ => trivial⟩
    | some i =>
        have hne : s ≠ i := fun heq => hs (heq ▸ hi)
        refine ⟨fun pressed => ?_, fun payload plen => ?_⟩
        · rw [view_onGuide eventUdp hi, Function.update_of_ne hne]
        · simp only [onInput, hi]
          split
          · split
            · rfl
            · rw [view_reportInput, Function.update_of_ne hne]
          · rfl

theorem handle_showsGuide (host : Host) {pads : Pads} (hshows : ∀ s, (pads.view s).ShowsGuide)
    (call : Fin maxSlots × PadEvent) (s : Fin maxSlots) :
    ((pads.handle host eventUdp call).view s).ShowsGuide := by
  obtain ⟨i, event⟩ := call
  rw [view_handle]
  by_cases hs : s = i
  · rw [hs, Function.update_self]
    exact (hshows i).apply event
  · rw [Function.update_of_ne hs]
    exact hshows s

end

/-- In every slot of every state that the daemon reaches, the GUIDE bit is the flag. -/
theorem run_showsGuide (world : World) {boot : Daemon} (hboot : Boots world boot)
    (steps : List Step) (s : Fin maxSlots) :
    ((run (Daemon.step world) boot steps).pads.view s).ShowsGuide := by
  have hstart : ∀ s, (boot.pads.view s).ShowsGuide := by
    intro s
    rw [Pads.view, boots_slots world hboot]
    exact Pad.showsGuide_empty
  have hstep (daemon : Daemon) (step : Step)
      (hinv : daemon.table.WF ∧ ∀ s, (daemon.pads.view s).ShowsGuide) :
      (daemon.step world step).table.WF ∧
        ∀ s, ((daemon.step world step).pads.view s).ShowsGuide := by
    obtain ⟨hwf, hshows⟩ := hinv
    refine ⟨step_wf world hwf step, ?_⟩
    rw [step_pads world hwf]
    exact Machine.run_invariant (fun pads : Pads => ∀ s, (pads.view s).ShowsGuide)
      (fun _ call hpads => handle_showsGuide _ _ hpads call) hshows _
  exact (Machine.run_invariant
    (fun daemon : Daemon => daemon.table.WF ∧ ∀ s, (daemon.pads.view s).ShowsGuide)
    hstep ⟨boots_wf world hboot, hstart⟩ steps).2 s

/-! ## The bridge -/

namespace Bridge

/-- In every slot, guide lines and input lines keep out of each other's way. -/
structure GuideApart (bridge : Bridge) : Prop where
  shown : ∀ s, (bridge.view s).ShowsGuide
  guide : ∀ slot pressed s, ((bridge.handleGuide slot pressed).view s).lastReport.SameControls
    (bridge.view s).lastReport
  input : ∀ json s, (jsonGetInt json "slot").bind bridgeSlot? = some s →
    (bridge.slots s).active = true →
    (bridge.view s).Takes ((bridge.handleInput json).view s) (parsedInput json)
  elsewhere : ∀ s,
    (∀ slot pressed, bridgeSlot? slot ≠ some s →
      (bridge.handleGuide slot pressed).view s = bridge.view s) ∧
    ∀ json, (jsonGetInt json "slot").bind bridgeSlot? ≠ some s →
      (bridge.handleInput json).view s = bridge.view s

section

variable {bridge : Bridge}

/-- Whatever the host makes of a connect, it leaves the GUIDE bit and the flag the same. -/
theorem handleConnected_showsGuide (host : Host) (hshows : ∀ s, (bridge.view s).ShowsGuide)
    (slot : Int) (s : Fin maxSlots) : ((bridge.handleConnected host slot).view s).ShowsGuide := by
  unfold handleConnected
  cases bridgeSlot? slot with
  | none => exact hshows s
  | some i =>
      dsimp only
      split
      · exact hshows s
      · split
        · rw [view_postHidReport, view_setSlot, view_createVirtualGamepad]
          by_cases hs : s = i
          · rw [hs, Function.update_self]
            exact Machine.bitAt_zero 10
          · rw [Function.update_of_ne hs]
            exact hshows s
        · rw [view_setSlot, view_createVirtualGamepad]
          by_cases hs : s = i
          · rw [hs, Function.update_self]
            exact hshows i
          · rw [Function.update_of_ne hs]
            exact hshows s

/-- The other handlers do to one pad what its event does. -/
theorem update_showsGuide (hshows : ∀ s, (bridge.view s).ShowsGuide) {after : Bridge}
    {i : Fin maxSlots} {event : PadEvent}
    (hview : after.view = Function.update bridge.view i ((bridge.view i).mirror event))
    (s : Fin maxSlots) : (after.view s).ShowsGuide := by
  rw [hview]
  by_cases hs : s = i
  · rw [hs, Function.update_self]
    exact (hshows i).mirror event
  · rw [Function.update_of_ne hs]
    exact hshows s

theorem handleEventLine_showsGuide (host : Host) (hshows : ∀ s, (bridge.view s).ShowsGuide)
    (line : List Char) (s : Fin maxSlots) :
    ((bridge.handleEventLine host line).view s).ShowsGuide := by
  unfold handleEventLine
  split
  · cases jsonGetInt line "slot" with
    | none => exact hshows s
    | some slot => exact handleConnected_showsGuide host hshows slot s
  split
  · cases jsonGetInt line "slot" with
    | none => exact hshows s
    | some slot =>
        cases hi : bridgeSlot? slot with
        | none =>
            simp only [handleDisconnected, hi]
            exact hshows s
        | some i => exact update_showsGuide hshows (bridge.view_handleDisconnected hi) s
  split
  · split
    next slot pressed _ _ =>
      cases hi : bridgeSlot? slot with
      | none =>
          simp only [handleGuide, hi]
          exact hshows s
      | some i => exact update_showsGuide hshows (bridge.view_handleGuide hi pressed) s
    next => exact hshows s
  split
  · cases hi : (jsonGetInt line "slot").bind bridgeSlot? with
    | none =>
        simp only [handleInput, hi]
        exact hshows s
    | some i => exact update_showsGuide hshows (bridge.view_handleInput hi) s
  · exact hshows s

theorem lines_showsGuide (host : Host) (hshows : ∀ s, (bridge.view s).ShowsGuide)
    (lines : List (List Char)) (s : Fin maxSlots) :
    ((run (handleEventLine host) bridge lines).view s).ShowsGuide :=
  Machine.run_invariant (fun bridge : Bridge => ∀ s, (bridge.view s).ShowsGuide)
    (fun _ line hbridge => handleEventLine_showsGuide host hbridge line) hshows lines s

/-- In every slot of every state that the bridge reaches, the GUIDE bit is the flag. -/
theorem run_showsGuide {host : Host} (hstart : start host = some bridge)
    (datagrams : List (List Char)) (s : Fin maxSlots) :
    ((run (receive host) bridge datagrams).view s).ShowsGuide := by
  have hfresh : ∀ s, (bridge.view s).ShowsGuide := by
    intro s
    rw [view, start_slots hstart]
    exact Pad.showsGuide_empty
  exact Machine.run_invariant (fun bridge : Bridge => ∀ s, (bridge.view s).ShowsGuide)
    (fun _ _ hbridge => lines_showsGuide host hbridge _) hfresh datagrams s

theorem guideApart (hshows : ∀ s, (bridge.view s).ShowsGuide) : bridge.GuideApart where
  shown := hshows
  guide := by
    intro slot pressed s
    cases hi : bridgeSlot? slot with
    | none =>
        simp only [handleGuide, hi]
        exact .refl _
    | some i =>
        rw [bridge.view_handleGuide hi]
        by_cases hs : s = i
        · rw [hs, Function.update_self, Pad.mirror]
          split
          · exact HidReport.withGuide_sameControls _ pressed
          · exact .refl _
        · rw [Function.update_of_ne hs]
          exact .refl _
  input := by
    intro json s hs hactive
    have hpad : (bridge.view s).mirror (.input (parsedInput json)) = _ := if_pos hactive
    rw [bridge.view_handleInput hs, Function.update_self, hpad]
    exact (hshows s).takes _
  elsewhere := by
    intro s
    constructor
    · intro slot pressed hslot
      cases hi : bridgeSlot? slot with
      | none => simp only [handleGuide, hi]
      | some i =>
          rw [bridge.view_handleGuide hi, Function.update_of_ne]
          exact fun heq => hslot (heq ▸ hi)
    · intro json hjson
      cases hi : (jsonGetInt json "slot").bind bridgeSlot? with
      | none => simp only [handleInput, hi]
      | some i =>
          rw [bridge.view_handleInput hi, Function.update_of_ne]
          exact fun heq => hjson (heq ▸ hi)

end

end Bridge

/-- In every state that daemon and bridge reach, and after any further connects, disconnects,
guide events and inputs in whatever order: each slot's GUIDE bit is its flag, a guide event changes
nothing else of a report, and an input sets all the rest of it and leaves the GUIDE bit. -/
theorem guide_and_input_apart (world : World) {boot : Daemon} (hboot : Boots world boot)
    (steps : List Step) (calls : List (Fin maxSlots × PadEvent)) {host : Host} {bridge : Bridge}
    (hstart : Bridge.start host = some bridge) (datagrams lines : List (List Char)) :
    (run (Pads.handle world.host world.eventUdp) (run (Daemon.step world) boot steps).pads
        calls).GuideApart world.eventUdp ∧
      (run (Bridge.handleEventLine host) (run (Bridge.receive host) bridge datagrams)
        lines).GuideApart := by
  constructor
  · apply Pads.guideApart
    exact Machine.run_invariant (fun pads : Pads => ∀ s, (pads.view s).ShowsGuide)
      (fun _ call hpads => handle_showsGuide _ _ hpads call) (run_showsGuide world hboot steps)
      calls
  · exact Bridge.guideApart
      (Bridge.lines_showsGuide host (Bridge.run_showsGuide hstart datagrams) lines)

/-- A guide button pressed before the controller connects again, and a bridge that heard of it. -/
theorem guide_and_input_apart_early :
    (run (Pads.handle (udpWorld plainRom).host (udpWorld plainRom).eventUdp)
        (run (Daemon.step (udpWorld plainRom)) udpBoot guideSteps).pads
        [(0, .input {})]).GuideApart (udpWorld plainRom).eventUdp ∧
      (run (Bridge.handleEventLine userHost)
        (run (Bridge.receive userHost) userBridge
          ((run (Daemon.step (udpWorld plainRom)) udpBoot guideSteps).pads.datagrams.map
            Datagram.text).reverse)
        [inputEvent 0 {}]).GuideApart :=
  guide_and_input_apart (udpWorld plainRom) udpBoot_boots guideSteps [(0, .input {})] rfl _
    [inputEvent 0 {}]

end XoneDarwin
